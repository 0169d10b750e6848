import Broker.Finder
import Broker.Quotas
import Broker.Routes

/-!
# The rate limiter over time

A key of the limiter has windows of its own: the verdicts on its requests are
those of a limiter that has no other keys, and removes no bucket (`keyLimiter`),
and in an interval as long as a window there are at most two windows of requests
allowed (`limiter_exact`).

A refusal tells the milliseconds that are left of the window, which the routes
put into a header as whole seconds, rounded down. A client that waits so long is
allowed again exactly if nothing is lost in the rounding
(`retryAfter_sufficient_iff`).
-/

namespace Broker

open Py Runs

/-! ## Calls of the limiter -/

/-- A call of `consume`. -/
structure Consume where
  now : ℤ
  key : String
  deriving DecidableEq

/-- The limiter, over its calls. -/
def rateLimiter (config : RateLimitConfig) :
    Machine (Dict String Bucket) Consume RateLimitResult where
  init := ∅
  step buckets call := consume config call.now call.key buckets

/-- A limiter that has one key, whose bucket it keeps when its window is over. -/
def keyLimiter (config : RateLimitConfig) : Machine (Option Bucket) Consume RateLimitResult where
  init := none
  step bucket call :=
    let (result, bucket) := consumeBucket config call.now
      (bucket.filter fun bucket => call.now < bucket.resetAt)
    (result, some bucket)

/-- The calls are made in the order of their times. -/
def Ordered (calls : List Consume) : Prop := calls.Pairwise fun a b => a.now ≤ b.now

/-- The calls for a key, with their verdicts. -/
def keyVerdicts (config : RateLimitConfig) (key : String) (calls : List Consume) :
    List (Consume × RateLimitResult) :=
  (rateLimiter config).answers (fun call => call.key = key) ∅ calls

/-- How many calls are allowed in the interval of some length from a time on. -/
def allowedIn (start length : ℤ) (verdicts : List (Consume × RateLimitResult)) : ℕ :=
  verdicts.countP fun v => v.2.allowed && start ≤ v.1.now && v.1.now < start + length

section

variable {config : RateLimitConfig} {key : String}

/-! ## One key -/

theorem rateLimiter_step (buckets : Dict String Bucket) (call : Consume) :
    (rateLimiter config).out buckets call = (consume config call.now call.key buckets).1 ∧
      (rateLimiter config).next buckets call = (consume config call.now call.key buckets).2 :=
  ⟨rfl, rfl⟩

theorem keyLimiter_step (bucket : Option Bucket) (call : Consume) :
    (keyLimiter config).out bucket call =
        (consumeBucket config call.now (bucket.filter fun b => call.now < b.resetAt)).1 ∧
      (keyLimiter config).next bucket call =
        some (consumeBucket config call.now (bucket.filter fun b => call.now < b.resetAt)).2 :=
  ⟨rfl, rfl⟩

theorem filter_later {bucket : Option Bucket} {t t' : ℤ} (h : t ≤ t') :
    (bucket.filter fun b => decide (t' < b.resetAt)) =
      (bucket.filter fun b => decide (t < b.resetAt)).filter fun b => t' < b.resetAt := by
  rw [Option.filter_filter]
  congr 1
  funext b
  by_cases hlive : t' < b.resetAt
  · simp only [hlive, lt_of_le_of_lt h hlive, decide_true, Bool.and_self]
  · simp only [hlive, decide_false, Bool.and_false]

/-- A call for another key leaves the live bucket of the key. -/
theorem liveBucket_next {call : Consume} (hne : call.key ≠ key) (buckets : Dict String Bucket)
    {t : ℤ} (h : call.now ≤ t) :
    liveBucket ((rateLimiter config).next buckets call) t key = liveBucket buckets t key := by
  have hget := consume_other config call.now hne.symm buckets
  rw [liveBucket_later h, liveBucket_later h]
  congr 1
  rw [liveBucket, (rateLimiter_step buckets call).2, hget]
  exact (liveBucket_later (le_refl call.now) key).symm

/-- From states with the same live bucket the key has the same verdicts. -/
theorem answers_of_same {calls : List Consume} (ordered : Ordered calls) {t : ℤ}
    (later : ∀ call ∈ calls, t ≤ call.now) {buckets : Dict String Bucket} {bucket : Option Bucket}
    (same : liveBucket buckets t key = bucket.filter fun b => t < b.resetAt) :
    (rateLimiter config).answers (fun call => call.key = key) buckets calls =
      (keyLimiter config).answers (fun _ => true) bucket
        (calls.filter fun call => call.key = key) := by
  induction calls generalizing t buckets bucket with
  | nil => rfl
  | cons call calls ih =>
    obtain ⟨hafter, hrest⟩ := List.pairwise_cons.1 ordered
    have hnow : liveBucket buckets call.now key = bucket.filter fun b => call.now < b.resetAt := by
      rw [liveBucket_later (later call List.mem_cons_self), same,
        ← filter_later (later call List.mem_cons_self)]
    -- A call for another key is not seen by the one bucket, and changes it by a purge at most.
    by_cases hkey : call.key = key
    · obtain ⟨hresult, hbucket⟩ := consume_key config call.now key buckets
      obtain ⟨hout, hnext⟩ := @rateLimiter_step config buckets call
      obtain ⟨hout', hnext'⟩ := @keyLimiter_step config bucket call
      rw [hkey, hresult, hnow, ← hout'] at hout
      rw [hkey] at hnext
      rw [hnow, ← hnext', ← hnext] at hbucket
      rw [List.filter_cons_of_pos (by simpa using hkey), Machine.answers, Machine.answers,
        if_pos (by simpa using hkey), if_pos rfl]
      have hsame : liveBucket ((rateLimiter config).next buckets call) call.now key =
          ((keyLimiter config).next bucket call).filter fun b => call.now < b.resetAt := by
        rw [liveBucket, hbucket]
      rw [hout, ih hrest hafter hsame]
    · rw [List.filter_cons_of_neg (by simpa using hkey), Machine.answers,
        if_neg (by simpa using hkey)]
      refine ih hrest hafter ?_
      rw [liveBucket_next hkey buckets (le_refl _), hnow]

/-! ## The calls allowed in an interval -/

/-- A bucket that has counted no more than are allowed. -/
def Bucket.Counts (config : RateLimitConfig) (b : Bucket) : Prop :=
  1 ≤ b.count ∧ b.count ≤ max config.maxRequests 1

/-- How many calls the state leaves to the interval from `start` on that is as long as
    a window: what is left of the window of the bucket, if it is live in the interval,
    and all of the windows that begin in it. -/
def leftIn (config : RateLimitConfig) (start : ℤ) : Option Bucket → ℤ
  | none => 2 * max config.maxRequests 1
  | some b =>
    if start + config.windowMs ≤ b.resetAt then max config.maxRequests 1 - b.count
    else if start < b.resetAt then 2 * max config.maxRequests 1 - b.count
    else 2 * max config.maxRequests 1

theorem leftIn_nonneg {start : ℤ} {bucket : Option Bucket}
    (counts : ∀ b ∈ bucket, b.Counts config) : 0 ≤ leftIn config start bucket := by
  cases bucket with
  | none =>
    rw [leftIn]
    omega
  | some b =>
    have hcounts := counts b rfl
    rw [Bucket.Counts] at hcounts
    rw [leftIn]
    split_ifs <;> omega

/-- A call before the end of the interval takes one off what is left, if it is allowed
    in the interval. -/
theorem leftIn_step {start : ℤ} {bucket : Option Bucket} (counts : ∀ b ∈ bucket, b.Counts config)
    {call : Consume} (before : call.now < start + config.windowMs) :
    (∀ b ∈ (keyLimiter config).next bucket call, b.Counts config) ∧
      leftIn config start ((keyLimiter config).next bucket call) +
        (if ((keyLimiter config).out bucket call).allowed ∧ start ≤ call.now then 1 else 0) ≤
          leftIn config start bucket := by
  -- A window that is opened at the call.
  have hopened : (bucket.filter fun b => decide (call.now < b.resetAt)) = none →
      (∀ b ∈ (keyLimiter config).next bucket call, b.Counts config) ∧
        leftIn config start ((keyLimiter config).next bucket call) +
          (if ((keyLimiter config).out bucket call).allowed ∧ start ≤ call.now then 1 else 0) ≤
            leftIn config start bucket := by
    intro hover
    rw [(keyLimiter_step bucket call).1, (keyLimiter_step bucket call).2, hover]
    have hleft : call.now < start + config.windowMs → leftIn config start
        (some ⟨1, call.now + config.windowMs⟩) + (if start ≤ call.now then 1 else 0) ≤
          leftIn config start bucket := by
      intro _
      cases bucket with
      | none =>
        rw [leftIn, leftIn]
        dsimp only
        split_ifs <;> omega
      | some b =>
        have hcounts := counts b rfl
        have hreset : b.resetAt ≤ call.now := by simpa using hover
        rw [Bucket.Counts] at hcounts
        rw [leftIn, leftIn]
        dsimp only
        split_ifs <;> omega
    refine ⟨?_, by simpa [consumeBucket] using hleft before⟩
    rintro _ ⟨rfl⟩
    exact ⟨le_refl 1, le_max_right _ _⟩
  cases bucket with
  | none => exact hopened rfl
  | some b =>
    by_cases hlive : call.now < b.resetAt
    · have hcounts := counts b rfl
      rw [(keyLimiter_step _ call).1, (keyLimiter_step _ call).2,
        Option.filter_some_pos (by simpa using hlive), consumeBucket]
      split_ifs with hfull hallowed
      · cases hallowed.1
      · exact ⟨counts, by rw [add_zero]⟩
      all_goals
        rw [Bucket.Counts] at hcounts
        refine ⟨?_, ?_⟩
        · rintro _ ⟨rfl⟩
          rw [Bucket.Counts]
          dsimp only
          omega
        · rw [leftIn, leftIn]
          dsimp only
          split_ifs <;> omega
    · exact hopened (Option.filter_some_neg (by simpa using hlive))

/-- The calls of a key are allowed in the interval as often as is left. -/
theorem allowedIn_le {start : ℤ} {bucket : Option Bucket} (counts : ∀ b ∈ bucket, b.Counts config)
    {calls : List Consume} (ordered : Ordered calls) :
    (allowedIn start config.windowMs
        ((keyLimiter config).answers (fun _ => true) bucket calls) : ℤ) ≤
      leftIn config start bucket := by
  induction calls generalizing bucket with
  | nil => exact leftIn_nonneg counts
  | cons call calls ih =>
    obtain ⟨hafter, hrest⟩ := List.pairwise_cons.1 ordered
    rw [Machine.answers, if_pos rfl]
    by_cases hbefore : call.now < start + config.windowMs
    · obtain ⟨hcounts, hleft⟩ := @leftIn_step _ start _ counts _ hbefore
      have hcalls := ih hcounts hrest
      rw [allowedIn] at hcalls ⊢
      rw [List.countP_cons]
      have hcall : (((keyLimiter config).out bucket call).allowed && decide (start ≤ call.now) &&
          decide (call.now < start + config.windowMs)) = true ↔
          ((keyLimiter config).out bucket call).allowed ∧ start ≤ call.now := by
        rw [decide_eq_true hbefore, Bool.and_true, Bool.and_eq_true, decide_eq_true_eq]
      simp only [hcall]
      split_ifs at hleft ⊢ <;> omega
    · -- The interval is over, at this call and after it.
      have hnone : allowedIn start config.windowMs ((call, (keyLimiter config).out bucket call) ::
          (keyLimiter config).answers (fun _ => true) ((keyLimiter config).next bucket call)
            calls) = 0 := by
        rw [allowedIn, List.countP_eq_zero]
        intro v hv
        have hlate : call.now ≤ v.1.now := by
          rcases List.mem_cons.1 hv with rfl | hv
          · exact le_refl _
          · exact hafter _ (Machine.mem_of_mem_answers hv)
        rw [decide_eq_false (not_lt.2 ((not_lt.1 hbefore).trans hlate)), Bool.and_false]
        exact Bool.false_ne_true
      rw [hnone]
      exact leftIn_nonneg counts

end

/-- The verdicts on the requests of a key, made in the order of their times, are those of
    a limiter for this key only, and in an interval as long as a window at most two
    windows of them are allowed. -/
theorem limiter_exact (config : RateLimitConfig) (key : String) {calls : List Consume}
    (ordered : Ordered calls) :
    keyVerdicts config key calls =
        (keyLimiter config).answers (fun _ => true) none
          (calls.filter fun call => call.key = key) ∧
      ∀ start, (allowedIn start config.windowMs (keyVerdicts config key calls) : ℤ) ≤
        2 * max config.maxRequests 1 := by
  have hsame : keyVerdicts config key calls = (keyLimiter config).answers (fun _ => true) none
      (calls.filter fun call => call.key = key) := by
    cases calls with
    | nil => rfl
    | cons call calls =>
      refine answers_of_same ordered (t := call.now) (fun c hc => ?_) rfl
      rcases List.mem_cons.1 hc with rfl | hc
      · exact le_refl _
      · exact (List.pairwise_cons.1 ordered).1 c hc
  refine ⟨hsame, fun start => ?_⟩
  rw [hsame]
  exact @allowedIn_le _ _ none (fun b hb => by cases hb) _ (ordered.filter _)

theorem limiter_exact_calls :
    keyVerdicts ⟨1, 1000⟩ "a" [⟨0, "a"⟩, ⟨0, "b"⟩, ⟨999, "a"⟩, ⟨1000, "b"⟩, ⟨1000, "a"⟩] =
        [(⟨0, "a"⟩, ⟨true, 0⟩), (⟨999, "a"⟩, ⟨false, 1⟩), (⟨1000, "a"⟩, ⟨true, 0⟩)] ∧
      (allowedIn 1 1000 (keyVerdicts ⟨1, 1000⟩ "a"
        [⟨0, "a"⟩, ⟨0, "b"⟩, ⟨999, "a"⟩, ⟨1000, "b"⟩, ⟨1000, "a"⟩]) : ℤ) ≤ 2 := by
  have hordered : Ordered [⟨0, "a"⟩, ⟨0, "b"⟩, ⟨999, "a"⟩, ⟨1000, "b"⟩, ⟨1000, "a"⟩] := by
    rw [Ordered]
    decide
  obtain ⟨hsame, hbound⟩ := limiter_exact ⟨1, 1000⟩ "a" hordered
  exact ⟨hsame, hbound 1⟩

/-! ## Waiting -/

/-- The seconds that a refusal puts into the header `Retry-After`. -/
def retryAfterSeconds (result : RateLimitResult) : ℤ := max 1 (result.retryAfterMs / 1000)

/-- The routes refuse with these seconds. -/
theorem retryAfter_of_refused {rate : RateLimitResult} (refused : rate.allowed = false) :
    (∀ config form, oauthAuthorizePost config rate form =
      .inl (.error 429 "RATE_LIMITED" "Too many requests." (some (retryAfterSeconds rate)))) ∧
    ∀ py service grants token record request,
      contentResourcesFind py service grants rate token record request =
        .ok (.error 429 "RATE_LIMITED" "Too many requests." (some (retryAfterSeconds rate))) := by
  refine ⟨fun config form => ?_, fun py service grants token record request => ?_⟩
  · rw [oauthAuthorizePost, refused]
    rfl
  · rw [contentResourcesFind, refused]
    rfl

section

variable {config : RateLimitConfig} {key : String}

/-- Where others are asked about only, the live bucket of a key stays. -/
theorem liveBucket_others {others : List Consume} (apart : ∀ call ∈ others, call.key ≠ key)
    {t : ℤ} (earlier : ∀ call ∈ others, call.now ≤ t) (buckets : Dict String Bucket) :
    liveBucket (others.foldl (rateLimiter config).next buckets) t key = liveBucket buckets t key := by
  induction others generalizing buckets with
  | nil => rfl
  | cons call others ih =>
    rw [List.forall_mem_cons] at apart earlier
    rw [List.foldl_cons, ih apart.2 earlier.2, liveBucket_next apart.1 buckets earlier.1]

/-- What a refusal says of the bucket of its key. -/
theorem bucket_of_refused {buckets : Dict String Bucket} {call : Consume}
    (refused : ((rateLimiter config).out buckets call).allowed = false) :
    ∃ bucket, buckets.get? call.key = some bucket ∧ call.now < bucket.resetAt ∧
      config.maxRequests ≤ bucket.count ∧
      (rateLimiter config).out buckets call = ⟨false, bucket.resetAt - call.now⟩ ∧
      ((rateLimiter config).next buckets call).get? call.key = some bucket := by
  obtain ⟨hresult, hbucket⟩ := consume_key config call.now call.key buckets
  obtain ⟨hout, hnext⟩ := @rateLimiter_step config buckets call
  rw [hresult] at hout
  rw [← hnext] at hbucket
  rw [hout] at refused ⊢
  cases hlive : liveBucket buckets call.now call.key with
  | none =>
    rw [hlive] at refused
    cases refused
  | some bucket =>
    rw [hlive, consumeBucket] at refused hbucket
    rw [consumeBucket]
    rw [liveBucket, Option.filter_eq_some_iff] at hlive
    split_ifs at refused hbucket ⊢ with hfull
    · exact ⟨bucket, hlive.1, of_decide_eq_true hlive.2, hfull, rfl, hbucket⟩

/-- Whether a key is allowed by a full bucket. -/
theorem allowed_of_full {buckets : Dict String Bucket} {call : Consume} {bucket : Bucket}
    (full : config.maxRequests ≤ bucket.count)
    (live : liveBucket buckets call.now call.key =
      (some bucket).filter fun b => call.now < b.resetAt) :
    ((rateLimiter config).out buckets call).allowed = true ↔ bucket.resetAt ≤ call.now := by
  rw [(rateLimiter_step buckets call).1, (consume_key config call.now call.key buckets).1, live]
  by_cases hlive : call.now < bucket.resetAt
  · rw [Option.filter_some_pos (by simpa using hlive), consumeBucket, if_pos full]
    exact iff_of_false Bool.false_ne_true (not_le.2 hlive)
  · rw [Option.filter_some_neg (by simpa using hlive), consumeBucket]
    exact iff_of_true rfl (not_lt.1 hlive)

end

/-- A key that is refused is allowed again after the seconds of the header, whatever
    others have asked for, exactly if the milliseconds left of its window are whole
    seconds, or no more than one. -/
theorem retryAfter_sufficient_iff (config : RateLimitConfig) (history : List Consume)
    (refusal : Consume) (refused :
      ((rateLimiter config).out ((rateLimiter config).after history) refusal).allowed = false) :
    ∃ bucket, ((rateLimiter config).after history).get? refusal.key = some bucket ∧
      ((∀ others next, (∀ call ∈ others, call.key ≠ refusal.key) →
          (∀ call ∈ others, call.now ≤ next.now) → next.key = refusal.key →
          refusal.now + 1000 * retryAfterSeconds ((rateLimiter config).out
            ((rateLimiter config).after history) refusal) ≤ next.now →
          ((rateLimiter config).out ((rateLimiter config).after (history ++ refusal :: others))
            next).allowed = true) ↔
        bucket.resetAt - refusal.now ≤ 1000 ∨ 1000 ∣ bucket.resetAt - refusal.now) := by
  obtain ⟨bucket, hget, hlive, hfull, hout, hkept⟩ := bucket_of_refused refused
  refine ⟨bucket, hget, ?_⟩
  rw [hout, retryAfterSeconds]
  -- The full bucket stays as it is until its window ends.
  have hallowed : ∀ others next, (∀ call ∈ others, call.key ≠ refusal.key) →
      (∀ call ∈ others, call.now ≤ next.now) → next.key = refusal.key →
      (((rateLimiter config).out ((rateLimiter config).after (history ++ refusal :: others))
        next).allowed = true ↔ bucket.resetAt ≤ next.now) := by
    intro others next hothers hearlier hkey
    refine allowed_of_full hfull ?_
    rw [Machine.after_append_cons, hkey, liveBucket_others hothers hearlier, liveBucket, hkept]
  dsimp only
  constructor
  · intro h
    -- A call that comes as early as the answer permits.
    obtain ⟨t, ht⟩ : ∃ t, t = refusal.now + 1000 * max 1 ((bucket.resetAt - refusal.now) / 1000) :=
      ⟨_, rfl⟩
    have hnone : ∀ {p : Consume → Prop}, ∀ call ∈ ([] : List Consume), p call :=
      fun _ hmem => absurd hmem List.not_mem_nil
    have hnext := h [] ⟨t, refusal.key⟩ hnone hnone rfl ht.ge
    have hover : bucket.resetAt ≤ t := (hallowed [] ⟨t, refusal.key⟩ hnone hnone rfl).1 hnext
    omega
  · intro h others next hothers hearlier hkey hwaited
    rw [hallowed others next hothers hearlier hkey]
    omega

theorem retryAfter_sufficient_second :
    ((rateLimiter ⟨1, 1000⟩).out ((rateLimiter ⟨1, 1000⟩).after [⟨0, "a"⟩, ⟨0, "a"⟩])
      ⟨1000, "a"⟩).allowed = true := by
  obtain ⟨bucket, hget, hiff⟩ :=
    retryAfter_sufficient_iff ⟨1, 1000⟩ [⟨0, "a"⟩] ⟨0, "a"⟩ (by decide)
  have hbucket : bucket = ⟨1, 1000⟩ := Option.some.inj (hget.symm.trans (by decide))
  exact hiff.2 (.inl (by rw [hbucket]; decide)) [] ⟨1000, "a"⟩ (fun _ h => absurd h List.not_mem_nil)
    (fun _ h => absurd h List.not_mem_nil) rfl le_rfl

/-- Of a window of a minute 59500 ms are left; after the 59 seconds of the header the
    client is refused again. -/
theorem retryAfter_refused_again :
    let limiter := rateLimiter ⟨1, 60000⟩
    (limiter.out (limiter.after [⟨0, "a"⟩]) ⟨500, "a"⟩).allowed = false ∧
      retryAfterSeconds (limiter.out (limiter.after [⟨0, "a"⟩]) ⟨500, "a"⟩) = 59 ∧
      (limiter.out (limiter.after [⟨0, "a"⟩, ⟨500, "a"⟩])
        ⟨500 + 1000 * 59, "a"⟩).allowed = false := by
  decide

end Broker
