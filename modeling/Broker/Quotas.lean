import Broker.ClientHost
import Broker.World

/-!
# Quotas

The fixed-window rate limiter, and the six routes that ask it for their
clients. What it answers about a key it answers whatever is asked about other
keys (`consume_key`, `consume_other`), as long as the clock does not go back. The
OAuth routes ask about the client address; the content routes about the transport
peer, which all clients behind a proxy share: their quotas interfere
(`quotas_independent_iff`).
-/

namespace Broker

open Py Runs

/-! ## The rate limiter -/

structure Bucket where
  count : ℤ
  resetAt : ℤ
  deriving DecidableEq, Repr

/-- `RateLimiter.consume`. -/
def consume (config : RateLimitConfig) (now : ℤ) (key : String) (buckets : Dict String Bucket) :
    RateLimitResult × Dict String Bucket :=
  let buckets := buckets.filter fun staleKey bucket => !(bucket.resetAt ≤ now && staleKey ≠ key)
  let opened := (⟨true, 0⟩, buckets.set key ⟨1, now + config.windowMs⟩)
  match buckets.get? key with
  | none => opened
  | some bucket =>
    if bucket.resetAt ≤ now then opened
    else if config.maxRequests ≤ bucket.count then (⟨false, bucket.resetAt - now⟩, buckets)
    else (⟨true, 0⟩, buckets.set key { bucket with count := bucket.count + 1 })

/-- The bucket of a key, while its window lasts. -/
def liveBucket (buckets : Dict String Bucket) (now : ℤ) (key : String) : Option Bucket :=
  (buckets.get? key).filter fun bucket => now < bucket.resetAt

/-- What a request does to the bucket of its key, and its answer. -/
def consumeBucket (config : RateLimitConfig) (now : ℤ) : Option Bucket → RateLimitResult × Bucket
  | none => (⟨true, 0⟩, ⟨1, now + config.windowMs⟩)
  | some bucket =>
    if config.maxRequests ≤ bucket.count then (⟨false, bucket.resetAt - now⟩, bucket)
    else (⟨true, 0⟩, { bucket with count := bucket.count + 1 })

/-- A request goes by the live bucket of its key. -/
theorem consume_key (config : RateLimitConfig) (now : ℤ) (key : String)
    (buckets : Dict String Bucket) :
    (consume config now key buckets).1 = (consumeBucket config now (liveBucket buckets now key)).1 ∧
      (consume config now key buckets).2.get? key =
        some (consumeBucket config now (liveBucket buckets now key)).2 := by
  -- The purge of stale buckets passes over the one that is asked for.
  have hkept : (buckets.filter fun staleKey bucket =>
      !(bucket.resetAt ≤ now && staleKey ≠ key)).get? key = buckets.get? key := by
    rw [Dict.get?_filter]
    cases buckets.get? key with
    | none => rfl
    | some bucket => simp
  unfold consume liveBucket
  dsimp only
  rw [hkept]
  cases hbucket : buckets.get? key with
  | none => exact ⟨rfl, by simp [consumeBucket]⟩
  | some bucket =>
    by_cases hstale : bucket.resetAt ≤ now
    · have hdead : ((some bucket).filter fun b => decide (now < b.resetAt)) = none := by
        simp [hstale]
      rw [hdead]
      dsimp only
      rw [if_pos hstale]
      exact ⟨rfl, by simp [consumeBucket]⟩
    · have hlive : ((some bucket).filter fun b => decide (now < b.resetAt)) = some bucket := by
        simp [not_le.1 hstale]
      rw [hlive]
      dsimp only [consumeBucket]
      rw [if_neg hstale]
      split_ifs with hmax
      · exact ⟨rfl, by rw [hkept, hbucket]⟩
      · exact ⟨rfl, by simp⟩

/-- A request for another key removes a stale bucket, and no other. -/
theorem consume_other (config : RateLimitConfig) (now : ℤ) {key other : String} (hne : key ≠ other)
    (buckets : Dict String Bucket) :
    (consume config now other buckets).2.get? key = liveBucket buckets now key := by
  have hkept : (buckets.filter fun staleKey bucket =>
      !(bucket.resetAt ≤ now && staleKey ≠ other)).get? key = liveBucket buckets now key := by
    rw [Dict.get?_filter, liveBucket]
    congr 1
    funext bucket
    by_cases hstale : bucket.resetAt ≤ now
    · simp only [hstale, hne, ne_eq, not_false_eq_true, decide_true, Bool.and_self, Bool.not_true,
        not_lt.2, decide_false]
    · simp only [hstale, not_le.1 hstale, decide_false, Bool.false_and, Bool.not_false, decide_true]
  unfold consume
  dsimp only
  generalize buckets.filter _ = kept at hkept ⊢
  cases kept.get? other with
  | none => rw [Dict.get?_set_of_ne _ hne, hkept]
  | some bucket =>
    dsimp only
    split_ifs
    · rw [Dict.get?_set_of_ne _ hne, hkept]
    · exact hkept
    · rw [Dict.get?_set_of_ne _ hne, hkept]

/-! ## Rate-limited routes -/

inductive Endpoint
  | authorise
  | token
  | ssoCallback
  | contentFind
  | contentUpload
  | downloadUrl
  deriving DecidableEq, Repr

namespace Endpoint

/-- The scope of the keys of a route. -/
def scope : Endpoint → String
  | authorise => "oauth_authorize:"
  | token => "oauth_token:"
  | ssoCallback => "oauth_sso_callback:"
  | contentFind => "content_find:"
  | contentUpload => "content_upload:"
  | downloadUrl => "content_download:"

/-- The host that the key of a route names. -/
def keyHost (config : RouteConfig) (request : HttpRequest) : Endpoint → String
  | authorise => clientHost config request
  | token => clientHost config request
  | ssoCallback => (resolveClientHost config request).host
  | contentFind => request.client.getD "unknown"
  | contentUpload => request.client.getD "unknown"
  | downloadUrl => request.client.getD "unknown"

/-- The key under which a route asks the limiter about a request. -/
def rateKey (config : RouteConfig) (request : HttpRequest) (endpoint : Endpoint) : String :=
  endpoint.scope ++ endpoint.keyHost config request

/-- Whether the route asks the limiter: the callback is not found while the SSO
    flag is off. -/
def limited (config : RouteConfig) (endpoint : Endpoint) : Bool :=
  endpoint ≠ ssoCallback || config.resourceSpace.ssoEnabled

/-- The routes under `/oauth`. -/
def isOauth : Endpoint → Bool
  | authorise => true
  | token => true
  | ssoCallback => true
  | _ => false

end Endpoint

/-- A request to a rate-limited route. -/
structure Arrival where
  now : ℤ
  endpoint : Endpoint
  request : HttpRequest

namespace Arrival

def key (config : RouteConfig) (a : Arrival) : String := a.endpoint.rateKey config a.request

/-- The request of the client that is behind the proxy and has the resolved host. -/
def ofClient (config : RouteConfig) (proxy host : String) (a : Arrival) : Bool :=
  a.request.client = some proxy && clientHost config a.request = host

end Arrival

/-- The limiter at the routes: nothing is answered where it is not asked. -/
def limiter (config : RouteConfig) : Machine (Dict String Bucket) Arrival (Option RateLimitResult) where
  init := ∅
  step buckets a :=
    if a.endpoint.limited config then
      let (result, buckets) := consume config.rateLimit a.now (a.key config) buckets
      (some result, buckets)
    else (none, buckets)

/-- The verdicts on the requests of a client to a route. -/
def verdicts (config : RouteConfig) (endpoint : Endpoint) (proxy host : String)
    (run : List Arrival) : List (Option Bool) :=
  ((limiter config).answers (fun a => a.endpoint = endpoint && a.ofClient config proxy host) ∅ run).map
    fun answered => answered.2.map (·.allowed)

/-- The clock does not go back between the requests. -/
def Steady (run : List Arrival) : Prop := run.Pairwise fun a b => a.now ≤ b.now

/-- Two runs that differ in the requests of the other client only have the same
    verdicts on those of the first. -/
def Undisturbed (config : RouteConfig) (endpoint : Endpoint) (proxy host other : String)
    (clock : List Arrival → Prop) : Prop :=
  ∀ run run', clock run → clock run' →
    (run.filter fun a => !a.ofClient config proxy other) =
      run'.filter (fun a => !a.ofClient config proxy other) →
    verdicts config endpoint proxy host run = verdicts config endpoint proxy host run'

/-! ## Other keys -/

theorem liveBucket_later {buckets : Dict String Bucket} {t t' : ℤ} (h : t ≤ t') (key : String) :
    liveBucket buckets t' key =
      (liveBucket buckets t key).filter fun bucket => t' < bucket.resetAt := by
  rw [liveBucket, liveBucket, Option.filter_filter]
  congr 1
  funext bucket
  by_cases hlive : t' < bucket.resetAt
  · have hearlier : t < bucket.resetAt := lt_of_le_of_lt h hlive
    simp only [hlive, hearlier, decide_true, Bool.and_self]
  · simp only [hlive, decide_false, Bool.and_false]

section Limiter

variable {config : RouteConfig}

theorem limiter_next {a : Arrival} (h : a.endpoint.limited config = true)
    (buckets : Dict String Bucket) :
    (limiter config).next buckets a = (consume config.rateLimit a.now (a.key config) buckets).2 := by
  simp only [Machine.next, limiter, h, if_true]

theorem limiter_out {a : Arrival} (h : a.endpoint.limited config = true)
    (buckets : Dict String Bucket) :
    (limiter config).out buckets a =
      some (consume config.rateLimit a.now (a.key config) buckets).1 := by
  simp only [Machine.out, limiter, h, if_true]

theorem limiter_unlimited {a : Arrival} (h : a.endpoint.limited config = false)
    (buckets : Dict String Bucket) :
    (limiter config).out buckets a = none ∧ (limiter config).next buckets a = buckets := by
  simp only [Machine.out, Machine.next, limiter, h, Bool.false_eq_true, if_false, and_self]

/-- Where the limiter is not asked about a key, its bucket lasts as long as it is live. -/
theorem next_other {a : Arrival} {key : String} (hne : a.key config ≠ key)
    (buckets : Dict String Bucket) :
    liveBucket ((limiter config).next buckets a) a.now key = liveBucket buckets a.now key := by
  cases hlimited : a.endpoint.limited config with
  | false => rw [(limiter_unlimited hlimited buckets).2]
  | true =>
    have hget := consume_other config.rateLimit a.now hne.symm buckets
    rw [limiter_next hlimited, liveBucket, hget, ← liveBucket_later (le_refl a.now)]

/-- The runs of the two-run property are compared through their common part. -/
theorem undisturbed_of_related {endpoint : Endpoint} {proxy host other : String}
    {clock : List Arrival → Prop} (hne : host ≠ other)
    (related : List Arrival → Dict String Bucket → Dict String Bucket → Prop)
    (start : ∀ run, clock run → related run ∅ ∅)
    (keep : ∀ a rest s s', related (a :: rest) s s' →
      related rest ((limiter config).next s a) ((limiter config).next s' a) ∧
        (a.endpoint = endpoint → a.ofClient config proxy host = true →
          (limiter config).out s a = (limiter config).out s' a))
    (insert : ∀ a rest s s', a.ofClient config proxy other = true → related (a :: rest) s s' →
      related rest s ((limiter config).next s' a)) :
    Undisturbed config endpoint proxy host other clock := by
  have hcommon : ∀ run, clock run → verdicts config endpoint proxy host run =
      verdicts config endpoint proxy host (run.filter fun a => !a.ofClient config proxy other) := by
    intro run hrun
    rw [verdicts, verdicts]
    refine congrArg _ (Machine.answers_eq_of_inserts related (fun a ha => ?_)
      (fun a rest s s' h => ⟨(keep a rest s s' h).1, fun hvisible => ?_⟩) insert
      (Inserts.filter (fun a : Arrival => a.ofClient config proxy other) run) (start run hrun)).symm
    · simp only [Arrival.ofClient, Bool.and_eq_true, decide_eq_true_eq] at ha
      simp only [Arrival.ofClient, ha.2, hne.symm, decide_false, Bool.and_false]
    · rw [Bool.and_eq_true, decide_eq_true_eq] at hvisible
      exact (keep a rest s s' h).2 hvisible.1 hvisible.2
  intro run run' hrun hrun' hsame
  rw [hcommon run hrun, hcommon run' hrun', hsame]

/-- The key of a route tells the route and the host. -/
theorem rateKey_inj {endpoint endpoint' : Endpoint} {host host' : String}
    (h : endpoint.scope ++ host = endpoint'.scope ++ host') : endpoint = endpoint' ∧ host = host' := by
  have hlist := congrArg String.toList h
  rw [String.toList_append, String.toList_append] at hlist
  have hscope : endpoint = endpoint' := by
    cases endpoint <;> cases endpoint' <;> first | rfl | simp [Endpoint.scope] at hlist
  subst hscope
  exact ⟨rfl, String.toList_inj.1 (List.append_cancel_left hlist)⟩

theorem key_content {endpoint : Endpoint} {proxy : String} {request : HttpRequest}
    (hcontent : endpoint.isOauth = false) (client : request.client = some proxy) :
    endpoint.rateKey config request = endpoint.scope ++ proxy := by
  have hhost : endpoint.keyHost config request = request.client.getD "unknown" := by
    cases endpoint <;> first | rfl | cases hcontent
  rw [Endpoint.rateKey, hhost, client, Option.getD_some]

theorem key_oauth {endpoint : Endpoint} (hoauth : endpoint.isOauth = true) (request : HttpRequest) :
    endpoint.rateKey config request = endpoint.scope ++ clientHost config request := by
  have hhost : endpoint.keyHost config request = clientHost config request := by
    cases endpoint <;> first | rfl | cases hoauth
  rw [Endpoint.rateKey, hhost]

/-- What is left of a run, when the bucket of a key is live in both or in none. -/
def SameBucket (key : String) (rest : List Arrival) (s s' : Dict String Bucket) : Prop :=
  Steady rest ∧ ∃ t, (∀ a ∈ rest, t ≤ a.now) ∧ liveBucket s t key = liveBucket s' t key

/-- Runs whose first request is not before the time at which they start. -/
theorem exists_start {run : List Arrival} (h : Steady run) : ∃ t, ∀ a ∈ run, t ≤ a.now := by
  cases run with
  | nil => exact ⟨0, fun a ha => absurd ha List.not_mem_nil⟩
  | cons a run =>
    refine ⟨a.now, fun b hb => ?_⟩
    rcases List.mem_cons.1 hb with rfl | hb
    · exact le_refl _
    · exact (List.pairwise_cons.1 h).1 b hb

/-- The routes that ask about the client address keep their clients apart. -/
theorem oauth_undisturbed {endpoint : Endpoint} {proxy host other : String} (hne : host ≠ other)
    (hoauth : endpoint.isOauth = true) :
    Undisturbed config endpoint proxy host other Steady := by
  refine undisturbed_of_related hne (SameBucket (endpoint.scope ++ host)) ?_ ?_ ?_
  · intro run hrun
    obtain ⟨t, ht⟩ := exists_start hrun
    exact ⟨hrun, t, ht, rfl⟩
  -- An arrival of both runs. Time does not go back, so what is live of the bucket agrees.
  · rintro a rest s s' ⟨hsteady, t, hlater, hsame⟩
    obtain ⟨hafter, hrest⟩ := List.pairwise_cons.1 hsteady
    have hnow : liveBucket s a.now (endpoint.scope ++ host) =
        liveBucket s' a.now (endpoint.scope ++ host) := by
      rw [liveBucket_later (hlater a List.mem_cons_self), hsame,
        ← liveBucket_later (hlater a List.mem_cons_self)]
    by_cases hkey : a.key config = endpoint.scope ++ host
    · cases hlimited : a.endpoint.limited config with
      | false =>
        obtain ⟨hout, hnext⟩ := limiter_unlimited hlimited s
        obtain ⟨hout', hnext'⟩ := limiter_unlimited hlimited s'
        rw [hout, hout', hnext, hnext']
        exact ⟨⟨hrest, a.now, hafter, hnow⟩, fun _ _ => rfl⟩
      | true =>
        obtain ⟨hresult, hbucket⟩ := consume_key config.rateLimit a.now (a.key config) s
        obtain ⟨hresult', hbucket'⟩ := consume_key config.rateLimit a.now (a.key config) s'
        rw [hkey] at hresult hbucket hresult' hbucket'
        rw [limiter_next hlimited, limiter_next hlimited, limiter_out hlimited,
          limiter_out hlimited, hkey, hresult, hresult', hnow]
        refine ⟨⟨hrest, a.now, hafter, ?_⟩, fun _ _ => rfl⟩
        rw [liveBucket, liveBucket, hbucket, hbucket', hnow]
    -- Another endpoint: its bucket is no part of the relation.
    · refine ⟨⟨hrest, a.now, hafter, ?_⟩, fun hendpoint hclient => absurd ?_ hkey⟩
      · rw [next_other hkey, next_other hkey, hnow]
      · simp only [Arrival.ofClient, Bool.and_eq_true, decide_eq_true_eq] at hclient
        rw [Arrival.key, key_oauth (hendpoint ▸ hoauth), hclient.2, hendpoint]
  -- An arrival of the other client has another key.
  · rintro a rest s s' hclient ⟨hsteady, t, hlater, hsame⟩
    obtain ⟨hafter, hrest⟩ := List.pairwise_cons.1 hsteady
    simp only [Arrival.ofClient, Bool.and_eq_true, decide_eq_true_eq] at hclient
    have hkey : a.key config ≠ endpoint.scope ++ host := by
      intro h
      have hendpoint := (rateKey_inj h).1
      rw [Arrival.key, key_oauth (hendpoint ▸ hoauth), hclient.2] at h
      exact hne (rateKey_inj h).2.symm
    refine ⟨hrest, a.now, hafter, ?_⟩
    rw [next_other hkey, liveBucket_later (hlater a List.mem_cons_self), hsame,
      ← liveBucket_later (hlater a List.mem_cons_self)]

/-- No window lasts. -/
def NoBucket (rest : List Arrival) (s : Dict String Bucket) : Prop :=
  ∃ t, (∀ a ∈ rest, t ≤ a.now) ∧ ∀ key, liveBucket s t key = none

/-- Without a window, every request that is limited is allowed. -/
theorem noBucket_next (window : config.rateLimit.windowMs ≤ 0) {a : Arrival} {rest : List Arrival}
    {s : Dict String Bucket} (steady : Steady (a :: rest)) (h : NoBucket (a :: rest) s) :
    NoBucket rest ((limiter config).next s a) ∧
      (limiter config).out s a = if a.endpoint.limited config then some ⟨true, 0⟩ else none := by
  obtain ⟨t, hlater, hnone⟩ := h
  have hnow : ∀ key, liveBucket s a.now key = none := by
    intro key
    rw [liveBucket_later (hlater a List.mem_cons_self), hnone, Option.filter_none]
  cases hlimited : a.endpoint.limited config with
  | false =>
    obtain ⟨hout, hnext⟩ := limiter_unlimited hlimited s
    rw [hout, hnext]
    exact ⟨⟨a.now, (List.pairwise_cons.1 steady).1, hnow⟩, rfl⟩
  | true =>
    obtain ⟨hresult, hbucket⟩ := consume_key config.rateLimit a.now (a.key config) s
    rw [hnow] at hresult hbucket
    refine ⟨⟨a.now, (List.pairwise_cons.1 steady).1, fun key => ?_⟩, ?_⟩
    · by_cases hkey : a.key config = key
      · subst hkey
        rw [limiter_next hlimited, liveBucket, hbucket]
        simp only [consumeBucket, Option.filter_some, ite_eq_right_iff, decide_eq_true_eq]
        intro hlive
        omega
      · rw [next_other hkey, hnow]
    · rw [limiter_out hlimited, hresult]
      rfl

theorem undisturbed_of_window {endpoint : Endpoint} {proxy host other : String} (hne : host ≠ other)
    (window : config.rateLimit.windowMs ≤ 0) :
    Undisturbed config endpoint proxy host other Steady := by
  refine undisturbed_of_related hne (fun rest s s' => Steady rest ∧ NoBucket rest s ∧ NoBucket rest s')
    ?_ ?_ ?_
  · intro run hrun
    obtain ⟨t, ht⟩ := exists_start hrun
    exact ⟨hrun, ⟨t, ht, fun _ => rfl⟩, ⟨t, ht, fun _ => rfl⟩⟩
  · rintro a rest s s' ⟨hsteady, h, h'⟩
    obtain ⟨hafter, hout⟩ := noBucket_next window hsteady h
    obtain ⟨hafter', hout'⟩ := noBucket_next window hsteady h'
    exact ⟨⟨hsteady.of_cons, hafter, hafter'⟩, fun _ _ => hout.trans hout'.symm⟩
  · rintro a rest s s' - ⟨hsteady, ⟨t, hlater, hnone⟩, h'⟩
    exact ⟨hsteady.of_cons, ⟨t, fun b hb => hlater b (List.mem_cons_of_mem a hb), hnone⟩,
      (noBucket_next window hsteady h').1⟩

/-- Where the limiter is not asked, whatever the clock does. -/
theorem undisturbed_of_unlimited {endpoint : Endpoint} {proxy host other : String}
    {clock : List Arrival → Prop} (hne : host ≠ other)
    (unlimited : endpoint.limited config = false) :
    Undisturbed config endpoint proxy host other clock := by
  refine undisturbed_of_related hne (fun _ _ _ => True) (fun _ _ => trivial) ?_
    fun _ _ _ _ _ _ => trivial
  intro a rest s s' _
  refine ⟨trivial, fun hendpoint _ => ?_⟩
  subst hendpoint
  rw [(limiter_unlimited unlimited s).1, (limiter_unlimited unlimited s').1]

/-! ## Shared keys -/

/-- The verdict on the last request of a run. -/
theorem verdicts_snoc {endpoint : Endpoint} {proxy host : String} (run : List Arrival) {a : Arrival}
    (hendpoint : a.endpoint = endpoint) (hclient : a.ofClient config proxy host = true) :
    (verdicts config endpoint proxy host (run ++ [a])).getLast? =
      some (((limiter config).out ((limiter config).after run) a).map (·.allowed)) := by
  rw [verdicts, Machine.answers_append, Machine.answers, Machine.answers, hendpoint, hclient]
  simp [Machine.after, limiter]

/-- As many requests as are allowed in a window: the first late enough that its
    window is not over when the others follow, at time 0. -/
def exhausting (config : RouteConfig) (endpoint : Endpoint) (request : HttpRequest) :
    List Arrival :=
  ⟨max 0 (1 - config.rateLimit.windowMs), endpoint, request⟩ ::
    List.replicate ((config.rateLimit.maxRequests - 1).toNat) ⟨0, endpoint, request⟩

/-- The bucket counts them all. -/
theorem get?_exhausting {endpoint : Endpoint} (limited : endpoint.limited config = true)
    (request : HttpRequest) (n : ℕ) (h : n = 0 ∨ (n : ℤ) + 1 ≤ config.rateLimit.maxRequests) :
    ((limiter config).after (⟨max 0 (1 - config.rateLimit.windowMs), endpoint, request⟩ ::
        List.replicate n ⟨0, endpoint, request⟩)).get? (endpoint.rateKey config request) =
      some ⟨n + 1, max 0 (1 - config.rateLimit.windowMs) + config.rateLimit.windowMs⟩ := by
  induction n with
  | zero =>
    have hbucket := (consume_key config.rateLimit (max 0 (1 - config.rateLimit.windowMs))
      (endpoint.rateKey config request) ∅).2
    rw [List.replicate_zero, ← List.nil_append [_], Machine.after_snoc, limiter_next limited]
    exact hbucket
  | succ n ih =>
    have hbucket := (consume_key config.rateLimit 0 (endpoint.rateKey config request)
      ((limiter config).after (⟨max 0 (1 - config.rateLimit.windowMs), endpoint, request⟩ ::
        List.replicate n ⟨0, endpoint, request⟩))).2
    have hopen : 0 < max 0 (1 - config.rateLimit.windowMs) + config.rateLimit.windowMs := by omega
    have hbelow : ¬config.rateLimit.maxRequests ≤ (n : ℤ) + 1 := by omega
    rw [liveBucket, ih (by omega), Option.filter_some_pos (by simpa using hopen)] at hbucket
    rw [List.replicate_succ', ← List.cons_append, Machine.after_snoc, limiter_next limited]
    refine hbucket.trans ?_
    rw [consumeBucket, if_neg hbelow, Nat.cast_succ]

/-- After them, there is a live bucket, and it is full. -/
theorem live_exhausting {endpoint : Endpoint} (limited : endpoint.limited config = true)
    (request : HttpRequest) :
    ∃ count, config.rateLimit.maxRequests ≤ count ∧
      liveBucket ((limiter config).after (exhausting config endpoint request)) 0
          (endpoint.rateKey config request) =
        some ⟨count, max 0 (1 - config.rateLimit.windowMs) + config.rateLimit.windowMs⟩ := by
  have hbucket := get?_exhausting limited request (config.rateLimit.maxRequests - 1).toNat (by omega)
  have hopen : 0 < max 0 (1 - config.rateLimit.windowMs) + config.rateLimit.windowMs := by omega
  refine ⟨(config.rateLimit.maxRequests - 1).toNat + 1, by omega, ?_⟩
  rw [liveBucket, exhausting, hbucket, Option.filter_some_pos (by simpa using hopen)]

theorem out_of_live {a : Arrival} (limited : a.endpoint.limited config = true)
    {s : Dict String Bucket} {count resetAt : ℤ} (full : config.rateLimit.maxRequests ≤ count)
    (h : liveBucket s a.now (a.key config) = some ⟨count, resetAt⟩) :
    ((limiter config).out s a).map (·.allowed) = some false := by
  rw [limiter_out limited, (consume_key config.rateLimit a.now (a.key config) s).1, h, consumeBucket,
    if_pos full]
  rfl

theorem out_of_none {a : Arrival} (limited : a.endpoint.limited config = true)
    {s : Dict String Bucket} (h : liveBucket s a.now (a.key config) = none) :
    ((limiter config).out s a).map (·.allowed) = some true := by
  rw [limiter_out limited, (consume_key config.rateLimit a.now (a.key config) s).1, h]
  rfl

theorem mem_exhausting {endpoint : Endpoint} {request : HttpRequest} {a : Arrival}
    (h : a ∈ exhausting config endpoint request) : a.endpoint = endpoint ∧ a.request = request := by
  rcases List.mem_cons.1 h with rfl | h
  · exact ⟨rfl, rfl⟩
  · obtain ⟨-, rfl⟩ := List.mem_replicate.1 h
    exact ⟨rfl, rfl⟩

theorem exhausting_steady (window : 0 < config.rateLimit.windowMs) (endpoint : Endpoint)
    (request request' : HttpRequest) :
    Steady (exhausting config endpoint request ++ [⟨0, endpoint, request'⟩]) := by
  have hstill : ∀ a ∈ exhausting config endpoint request ++ [⟨0, endpoint, request'⟩],
      a.now = 0 := by
    intro a ha
    rcases List.mem_append.1 ha with ha | ha
    · rcases List.mem_cons.1 ha with rfl | ha
      · dsimp only
        omega
      · rw [(List.mem_replicate.1 ha).2]
    · rw [List.mem_singleton.1 ha]
  exact List.pairwise_of_forall_mem_list fun a ha b hb => by rw [hstill a ha, hstill b hb]

variable {endpoint : Endpoint} {proxy : String} {request request' : HttpRequest}

/-- A route whose key all clients behind the proxy share denies the one what the
    other has used up. -/
theorem disturbed_of_shared_key (limited : endpoint.limited config = true)
    (client : request.client = some proxy) (client' : request'.client = some proxy)
    (different : clientHost config request ≠ clientHost config request')
    (shared : endpoint.rateKey config request = endpoint.rateKey config request')
    {clock : List Arrival → Prop} (run : clock (exhausting config endpoint request' ++
      [⟨0, endpoint, request⟩])) (alone : clock [⟨0, endpoint, request⟩]) :
    ¬Undisturbed config endpoint proxy (clientHost config request) (clientHost config request')
      clock := by
  intro h
  have hown : (⟨0, endpoint, request⟩ : Arrival).ofClient config proxy (clientHost config request) =
      true := by
    simp [Arrival.ofClient, client]
  have hother : (⟨0, endpoint, request⟩ : Arrival).ofClient config proxy
      (clientHost config request') = false := by
    simp [Arrival.ofClient, different]
  have hremoved : (exhausting config endpoint request').filter
      (fun a => !a.ofClient config proxy (clientHost config request')) = [] := by
    refine List.filter_eq_nil_iff.2 fun a ha => ?_
    simp [Arrival.ofClient, (mem_exhausting ha).2, client']
  have hverdicts := h _ _ run alone (by rw [List.filter_append, hremoved, List.nil_append])
  have hlast := congrArg List.getLast? hverdicts
  rw [verdicts_snoc _ rfl hown, ← List.nil_append [_], verdicts_snoc _ rfl hown] at hlast
  obtain ⟨count, hfull, hlive⟩ := live_exhausting limited request'
  rw [out_of_live (a := ⟨0, endpoint, request⟩) limited hfull (by rw [Arrival.key, shared, hlive]),
    out_of_none (a := ⟨0, endpoint, request⟩) limited rfl] at hlast
  cases hlast

/-- A clock that goes back lets a request of the other client end the window of
    the one. -/
theorem disturbed_of_clock (limited : endpoint.limited config = true)
    (client : request.client = some proxy) (client' : request'.client = some proxy)
    (separate : endpoint.rateKey config request ≠ endpoint.rateKey config request') :
    ¬Undisturbed config endpoint proxy (clientHost config request) (clientHost config request')
      fun _ => True := by
  intro h
  obtain ⟨count, hfull, hlive⟩ := live_exhausting limited request
  generalize hreset : max 0 (1 - config.rateLimit.windowMs) + config.rateLimit.windowMs = resetAt
    at hlive
  have hown : (⟨0, endpoint, request⟩ : Arrival).ofClient config proxy (clientHost config request) =
      true := by
    simp [Arrival.ofClient, client]
  have hother : (⟨resetAt, endpoint, request'⟩ : Arrival).ofClient config proxy
      (clientHost config request') = true := by
    simp [Arrival.ofClient, client']
  have hsame : (exhausting config endpoint request ++ [(⟨resetAt, endpoint, request'⟩ : Arrival)] ++
        [(⟨0, endpoint, request⟩ : Arrival)]).filter
        (fun a => !a.ofClient config proxy (clientHost config request')) =
      (exhausting config endpoint request ++ [(⟨0, endpoint, request⟩ : Arrival)]).filter
        (fun a => !a.ofClient config proxy (clientHost config request')) := by
    simp [hother]
  have hlast := congrArg List.getLast? (h _ _ trivial trivial hsame)
  -- At the end of the window, the bucket of the first client is removed.
  have hevicted : liveBucket ((limiter config).after
      (exhausting config endpoint request ++ [⟨resetAt, endpoint, request'⟩])) 0
      (endpoint.rateKey config request) = none := by
    have hget := consume_other config.rateLimit resetAt separate
      ((limiter config).after (exhausting config endpoint request))
    have hover : liveBucket ((limiter config).after (exhausting config endpoint request)) resetAt
        (endpoint.rateKey config request) = none := by
      rw [liveBucket_later (show 0 ≤ resetAt by omega), hlive, Option.filter_some_neg (by simp)]
    rw [Machine.after_snoc, limiter_next limited, liveBucket, Arrival.key, hget, hover,
      Option.filter_none]
  rw [verdicts_snoc _ rfl hown, verdicts_snoc _ rfl hown,
    out_of_live (a := ⟨0, endpoint, request⟩) limited hfull hlive,
    out_of_none (a := ⟨0, endpoint, request⟩) limited hevicted] at hlast
  cases hlast

/-! ## Independence -/

/-- Of the clients of a proxy, one is undisturbed by another, with another
    resolved host, exactly on the OAuth routes, if there are windows at all; and
    on no limited route if the clock may go back. -/
theorem quotas_independent_iff (config : RouteConfig) (endpoint : Endpoint) (proxy : String)
    (request request' : HttpRequest) (client : request.client = some proxy)
    (client' : request'.client = some proxy)
    (different : clientHost config request ≠ clientHost config request') :
    (Undisturbed config endpoint proxy (clientHost config request) (clientHost config request')
        Steady ↔ endpoint.isOauth = true ∨ config.rateLimit.windowMs ≤ 0) ∧
      (Undisturbed config endpoint proxy (clientHost config request) (clientHost config request')
        (fun _ => True) ↔ endpoint.limited config = false) := by
  -- The content endpoints limit every request, and key it by the proxy alone.
  have hcontent : endpoint.isOauth = false → endpoint.limited config = true := by
    intro h
    cases endpoint <;> first | rfl | cases h
  have hshared : endpoint.isOauth = false →
      endpoint.rateKey config request = endpoint.rateKey config request' := fun h => by
    rw [key_content h client, key_content h client']
  constructor
  · constructor
    · intro h
      by_contra hnot
      obtain ⟨hnotOauth, hwindow⟩ := not_or.1 hnot
      rw [Bool.not_eq_true] at hnotOauth
      exact disturbed_of_shared_key (hcontent hnotOauth) client client' different
        (hshared hnotOauth) (exhausting_steady (not_le.1 hwindow) endpoint request' request)
        (List.pairwise_singleton _ _) h
    · rintro (hoauth | hwindow)
      · exact oauth_undisturbed different hoauth
      · exact undisturbed_of_window different hwindow
  · constructor
    · intro h
      by_contra hlimited
      rw [Bool.not_eq_false] at hlimited
      cases hoauth : endpoint.isOauth with
      | false =>
        exact disturbed_of_shared_key hlimited client client' different (hshared hoauth) trivial
          trivial h
      | true =>
        -- A clock that goes back lets one client purge the bucket of another.
        refine disturbed_of_clock hlimited client client' (fun hkey => ?_) h
        rw [key_oauth hoauth, key_oauth hoauth] at hkey
        exact different (rateKey_inj hkey).2
    · exact undisturbed_of_unlimited different

end Limiter

/-! ## Sample clients -/

namespace Sample

/-- A deployment behind proxies that set a header. -/
def routeConfig : RouteConfig where
  toAppConfig := { config with rateLimit := ⟨1, 60000⟩ }
  clientIpHeader := "x-real-ip"
  trustedProxyHosts := ["10.0.0.0/8"]
  clientId := "canva-client"
  ssoSystemKey := "canva"

/-- What a proxy forwards for a client. -/
def forwarded (address : String) : HttpRequest where
  client := some "10.0.0.5"
  header name := if name = "x-real-ip" then some address else none

end Sample

theorem quotas_independent_oauth :
    Undisturbed Sample.routeConfig .authorise "10.0.0.5"
      (clientHost Sample.routeConfig (Sample.forwarded "198.51.100.1"))
      (clientHost Sample.routeConfig (Sample.forwarded "198.51.100.2")) Steady :=
  (quotas_independent_iff Sample.routeConfig .authorise "10.0.0.5" (Sample.forwarded "198.51.100.1")
    (Sample.forwarded "198.51.100.2") rfl rfl (by decide +kernel)).1.2 (.inl rfl)

/-- One client uses up the quota that all clients of the proxy share on a content
    route: the other, denied the next request, would have been allowed it alone. -/
theorem content_quota_shared :
    (∀ address ∈ ["198.51.100.1", "198.51.100.2"],
      (resolveClientHost Sample.routeConfig (Sample.forwarded address)).headerTrusted = true ∧
        clientHost Sample.routeConfig (Sample.forwarded address) = address) ∧
      ¬Undisturbed Sample.routeConfig .contentFind "10.0.0.5" "198.51.100.1" "198.51.100.2"
        Steady := by
  have hresolved : ∀ address ∈ ["198.51.100.1", "198.51.100.2"],
      (resolveClientHost Sample.routeConfig (Sample.forwarded address)).headerTrusted = true ∧
        clientHost Sample.routeConfig (Sample.forwarded address) = address := by decide +kernel
  have hother : (⟨1000, .contentFind, Sample.forwarded "198.51.100.2"⟩ : Arrival).ofClient
      Sample.routeConfig "10.0.0.5" "198.51.100.2" = true := by decide +kernel
  refine ⟨hresolved, fun h => ?_⟩
  have hverdicts := h
    [⟨1000, .contentFind, Sample.forwarded "198.51.100.2"⟩,
      ⟨2000, .contentFind, Sample.forwarded "198.51.100.1"⟩]
    [⟨2000, .contentFind, Sample.forwarded "198.51.100.1"⟩]
    (by simp [Steady]) (by simp [Steady]) (by rw [List.filter_cons_of_neg (by simp [hother])])
  revert hverdicts
  decide +kernel

end Broker
