import Broker.Handoffs

/-!
# The phases of a handoff state

A handoff state moves forward only (`handoff_forward`): whatever inspects,
completes or consumes it finds it active first, then either used or expired, and
in the end unknown, once it is purged.

What a lookup finds is a matter of the record stored before it (`Finding`). The
record stays the one created but for its mark (`kept`); it is marked by a
completion or consumption only, which find it active (`marked`), and is removed
by a pruning only, past its `purgeAt`. So the record of a later lookup, with the
clock never going back, tells what earlier lookups have found.
-/

namespace Broker

open Py Runs

variable {unicode : Unicode}

/-! ## Lookups -/

namespace SsoResult

/-- The handoff state was found active, and possibly used at once. -/
def isActive : SsoResult → Bool
  | active _ | consumed _ | valid _ _ => true
  | _ => false

/-- The handoff state was found active and used. -/
def uses : SsoResult → Bool
  | consumed _ | valid _ _ => true
  | _ => false

/-- What may be found of a handoff state after it was found like this. -/
def Precedes : SsoResult → SsoResult → Prop
  | active _, _ => True
  | consumed _, b | valid _ _, b | replayed _, b => (∃ r, b = replayed r) ∨ b = invalid
  | expired _, b => (∃ r, b = expired r) ∨ b = invalid
  | invalid, b => b = invalid

end SsoResult

variable (unicode) in
/-- The event looks the handoff state up, with this result. -/
inductive Sees (w : World) (e : Event) (k : String) : SsoResult → Prop
  | inspected (action : e.action = .inspectPendingSsoState k) :
    Sees w e k (AuthService.inspectPendingSsoState (e.now 0) w.store k)
  | received {call : ℕ} {rate : RateLimitResult} {form : CallbackForm}
    (action : e.action = .receiveCallback call rate form) (key : form.handoffState = k) :
    Sees w e k (AuthService.inspectPendingSsoState (e.now 0) w.store k)
  | completed {service : AuthService} {session : Session} {result : SsoResult}
    (attempt : w.completion unicode e = some (service, k, session))
    (answer : (update (service.completeSsoAuthorizationUpdater e.now e.rand k session) w.store).1 =
      .ok result) : Sees w e k result
  | consumed {result : SsoResult} (action : e.action = .consumePendingSsoState k)
    (answer : (update (e.service.consumePendingSsoStateUpdater e.now k) w.store).1 = .ok result) :
    Sees w e k result

/-- What a lookup with this result has found, and leaves. -/
inductive Finding (w : World) (e : Event) (k : String) (s' : Store) : SsoResult → Prop
  | missing (purged : ∀ r, w.store.pendingSsoStates.get? k = some r → r.purgeAt ≤ e.now 0)
    (gone : s'.pendingSsoStates.get? k = none) : Finding w e k s' .invalid
  | used {r : PendingSsoState} (stored : w.store.pendingSsoStates.get? k = some r)
    (used : truthyMs r.usedAt = true) : Finding w e k s' (.replayed r)
  | late {r : PendingSsoState} (stored : w.store.pendingSsoStates.get? k = some r)
    (unused : truthyMs r.usedAt = false) {i : ℕ} (first : i ≤ 1) (late : r.expiresAt < e.now i) :
    Finding w e k s' (.expired r)
  | active {r : PendingSsoState} {result : SsoResult} (open' : result.isActive = true)
    (stored : w.store.pendingSsoStates.get? k = some r) (unused : truthyMs r.usedAt = false)
    {i : ℕ} (first : i ≤ 1) (inTime : e.now i ≤ r.expiresAt)
    (spent : result.uses = true → Spent s' k) : Finding w e k s' result

/-- A classification of the stored record, at one of the first two readings of the clock. -/
theorem Finding.of_classify {w : World} {e : Event} {k : String} {s' : Store} {i : ℕ} (first : i ≤ 1)
    {o : Option PendingSsoState}
    (found : ∀ r, o = some r → w.store.pendingSsoStates.get? k = some r)
    (missing : o = none → (∀ r, w.store.pendingSsoStates.get? k = some r → r.purgeAt ≤ e.now 0) ∧
      s'.pendingSsoStates.get? k = none) :
    Finding w e k s' (AuthService.classifyPendingSsoRecord (e.now i) o) := by
  cases o with
  | none => exact .missing (missing rfl).1 (missing rfl).2
  | some r =>
    unfold AuthService.classifyPendingSsoRecord
    dsimp only
    split_ifs with hused hlate
    · exact .used (found r rfl) hused
    · exact .late (found r rfl) (Bool.not_eq_true _ ▸ hused) first hlate
    · exact .active rfl (found r rfl) (Bool.not_eq_true _ ▸ hused) first (not_lt.1 hlate) nofun

/-- The record that is left by a pruning. -/
theorem missing_of_prune {service : AuthService} {s : Store} {t : ℤ} {k : String}
    (h : (service.prune s t).pendingSsoStates.get? k = none) :
    ∀ r, s.pendingSsoStates.get? k = some r → r.purgeAt ≤ t := by
  intro r hr
  rw [AuthService.get?_pendingSsoStates_prune, hr, Option.filter_eq_none_iff] at h
  simpa using h r rfl

/-- An event that only inspects leaves the store as it was. -/
theorem inspected_next (k : String) {w : World} {e : Event}
    (h : e.action = .inspectPendingSsoState k ∨
      ∃ call rate form, e.action = .receiveCallback call rate form) :
    ((broker unicode).next w e).store = w.store := by
  change (w.step unicode e).2.store = _
  rw [World.step]
  rcases h with action | ⟨call, rate, form, action⟩
  · rw [action]
  · rw [action]
    dsimp only
    split <;> rfl

/-- A consumption leaves the store of its transaction. -/
theorem consumed_next {w : World} {e : Event} {k : String}
    (action : e.action = .consumePendingSsoState k) :
    ((broker unicode).next w e).store =
      (update (e.service.consumePendingSsoStateUpdater e.now k) w.store).2 := by
  change (w.step unicode e).2.store = _
  rw [World.step, action]
  rfl

theorem Sees.finding {w : World} {e : Event} {k : String} {a : SsoResult}
    (h : Sees unicode w e k a) : Finding w e k ((broker unicode).next w e).store a := by
  cases h with
  | inspected action =>
    refine .of_classify (Nat.zero_le 1) (fun _ => id) fun hnone => ⟨?_, ?_⟩
    · rw [hnone]
      intro r hr
      cases hr
    · rwa [inspected_next k (.inl action)]
  | received action key =>
    subst key
    refine .of_classify (Nat.zero_le 1) (fun _ => id) fun hnone => ⟨?_, ?_⟩
    · rw [hnone]
      intro r hr
      cases hr
    · rwa [inspected_next "" (.inr ⟨_, _, _, action⟩)]
  -- The transaction prunes at one time and classifies at the next.
  | @completed service session _ attempt answer =>
    rw [completion_next attempt]
    unfold update AuthService.completeSsoAuthorizationUpdater at answer ⊢
    dsimp only at answer ⊢
    cases hclass : AuthService.classifyPendingSsoRecord (e.now 1)
        ((service.prune w.store (e.now 0)).pendingSsoStates.get? k) with
    | active record =>
      obtain ⟨hfound, hunused, hinTime⟩ := AuthService.classify_eq_active_iff.1 hclass
      have hspent := completes_spent ⟨attempt, hfound, hunused, hinTime⟩
      rw [completion_next attempt,
        completes_update ⟨attempt, hfound, hunused, hinTime⟩] at hspent
      rw [hclass] at answer
      cases answer
      exact .active rfl (AuthService.pendingSsoStates_of_prune hfound) hunused (le_refl 1) hinTime fun _ => hspent
    | _ =>
      have hfinding : Finding w e k (service.prune w.store (e.now 0)) _ :=
        .of_classify (le_refl 1) (fun _ => AuthService.pendingSsoStates_of_prune)
          fun hnone => ⟨missing_of_prune hnone, hnone⟩
      rw [hclass] at answer hfinding
      cases answer
      exact hfinding
  | consumed action answer =>
    rw [consumed_next action]
    unfold update AuthService.consumePendingSsoStateUpdater at answer ⊢
    dsimp only at answer ⊢
    cases hclass : AuthService.classifyPendingSsoRecord (e.now 1)
        ((e.service.prune w.store (e.now 0)).pendingSsoStates.get? k) with
    | active record =>
      obtain ⟨hfound, hunused, hinTime⟩ := AuthService.classify_eq_active_iff.1 hclass
      rw [hclass] at answer
      cases answer
      refine .active rfl (AuthService.pendingSsoStates_of_prune hfound) hunused (le_refl 1) hinTime fun _ r hr => ?_
      dsimp only at hr
      rw [Dict.get?_modify, if_pos rfl, hfound, Option.map_some] at hr
      rw [← Option.some.inj hr]
      exact truthyMs_now e 2
    | _ =>
      have hfinding : Finding w e k (e.service.prune w.store (e.now 0)) _ :=
        .of_classify (le_refl 1) (fun _ => AuthService.pendingSsoStates_of_prune)
          fun hnone => ⟨missing_of_prune hnone, hnone⟩
      rw [hclass] at answer hfinding
      cases answer
      exact hfinding

/-! ## Marks -/

/-- A record is marked by what finds it active and uses it. -/
theorem marked {w : World} {e : Event} {k : String} {r r' : PendingSsoState}
    (stored : w.store.pendingSsoStates.get? k = some r) (unused : truthyMs r.usedAt = false)
    (next : ((broker unicode).next w e).store.pendingSsoStates.get? k = some r')
    (used : truthyMs r'.usedAt = true) (old : k ≠ randomToken "ssostate" (e.rand.token 0)) :
    (∃ a, Sees unicode w e k a ∧ a.uses = true) ∧ e.now 1 ≤ r.expiresAt := by
  have hstep := pending_step unicode w e k
  rw [stored, next] at hstep
  -- Only a use marks a state: a completed sign-in or an error report.
  generalize hold : some r = o at hstep
  generalize hnew : some r' = o' at hstep
  cases hstep with
  | same =>
    rw [← Option.some.inj (hnew.trans hold.symm), used] at unused
    cases unused
  | dropped _ _ => cases hnew
  | admitted _ key => exact absurd key old
  | @used r₀ i why =>
    obtain rfl := Option.some.inj hold
    rcases why with ⟨service, session, completes⟩ | action
    · have hanswer := congrArg Prod.fst (completes_update completes)
      exact ⟨⟨_, .completed completes.attempt hanswer, rfl⟩, completes.inTime⟩
    · have houtcome := e.service.consume_outcome e.now w.store k
      have hsees : ∀ a, (update (e.service.consumePendingSsoStateUpdater e.now k) w.store).1 = .ok a →
          Sees unicode w e k a := fun a ha => .consumed action ha
      rw [consumed_next action] at next
      generalize update (e.service.consumePendingSsoStateUpdater e.now k) w.store = outcome
        at houtcome hsees next
      cases houtcome with
      | refused =>
        have hstored := AuthService.pendingSsoStates_of_prune next
        rw [stored] at hstored
        rw [← Option.some.inj hstored, unused] at used
        cases used
      | consumed found _ inTime =>
        have hstored := AuthService.pendingSsoStates_of_prune found
        rw [stored] at hstored
        rw [Option.some.inj hstored]
        exact ⟨⟨_, hsees _ rfl, rfl⟩, inTime⟩

/-! ## Since the initiation -/

section Since

variable {pre : List Event} {e : Event} {k : String} {startedAt : ℤ} {request : SsoRequest}
  (initiates : Initiates unicode ((broker unicode).after pre) e k startedAt request)

include initiates

/-- The key was drawn by the initiation. -/
theorem Initiates.drawn (mid : List Event) : Drawn "ssostate" (pre ++ e :: mid) k :=
  ⟨e, by simp, 0, initiates.key⟩

/-- No event after the initiation draws the key again. -/
theorem Initiates.old (mid : List Event) (f : Event) (post : List Event)
    (fresh : Fresh (pre ++ e :: (mid ++ f :: post))) :
    ∀ i, k ≠ randomToken "ssostate" (f.rand.token i) := by
  have hsplit : pre ++ e :: (mid ++ f :: post) = (pre ++ e :: mid) ++ f :: post := by simp
  rw [hsplit] at fresh
  rintro i rfl
  exact fresh.not_drawn i (initiates.drawn mid)

/-- What is stored of a handoff state some events after its initiation: the
    record created but for its mark, unless it is purged. -/
theorem kept (mid : List Event) (fresh : Fresh (pre ++ e :: mid)) :
    (∀ r, ((broker unicode).after (pre ++ e :: mid)).store.pendingSsoStates.get? k = some r →
      { r with usedAt := none } = e.service.pendingSsoState startedAt (e.now 1) k request) ∧
    (((broker unicode).after (pre ++ e :: mid)).store.pendingSsoStates.get? k = none →
      ∃ f ∈ mid, ∃ i,
        (e.service.pendingSsoState startedAt (e.now 1) k request).purgeAt ≤ f.now i) := by
  induction mid using List.reverseRecOn with
  | nil =>
    rw [Machine.after_append_cons, List.foldl_nil, initiates.stored]
    refine ⟨fun r hr => ?_, nofun⟩
    rw [← Option.some.inj hr]
    rfl
  | append_singleton mid f ih =>
    have hold := initiates.old mid f [] fresh
    rw [← List.cons_append, ← List.append_assoc] at fresh ⊢
    obtain ⟨hsame, hpurged⟩ := ih fresh.append_left
    rw [Machine.after_snoc]
    have hstep := pending_step unicode ((broker unicode).after (pre ++ e :: mid)) f k
    generalize ((broker unicode).next ((broker unicode).after (pre ++ e :: mid)) f).store.pendingSsoStates.get? k = o'
      at hstep ⊢
    generalize ((broker unicode).after (pre ++ e :: mid)).store.pendingSsoStates.get? k = o at hstep hsame hpurged
    -- The record changes in its mark alone, until a pruning drops it.
    cases hstep with
    | same =>
      refine ⟨hsame, fun hnone => ?_⟩
      obtain ⟨g, hg, i, hi⟩ := hpurged hnone
      exact ⟨g, List.mem_append_left _ hg, i, hi⟩
    | @dropped r i why =>
      refine ⟨fun r' hr' => ?_, fun _ => ⟨f, by simp, i, ?_⟩⟩
      · cases hr'
      · rw [← hsame r rfl]
        exact why
    | @used r i _ =>
      refine ⟨fun r' hr' => ?_, nofun⟩
      rw [← hsame r rfl, ← Option.some.inj hr']
    | admitted _ key => exact absurd key (hold 0)

end Since

/-- What holds of the lookups of a handoff state `k` in the events `post` after its
    initiation `e`: until it is used or expires it is found active, it is found
    unknown only once it may be purged, and what is found of it moves forward. -/
structure Forward (unicode : Unicode) (k : String) (record : PendingSsoState) (pre : List Event)
    (e : Event) (post : List Event) : Prop where
  active : ∀ mid f rest, post = mid ++ f :: rest → ∀ a,
    Sees unicode ((broker unicode).after (pre ++ e :: mid)) f k a →
    f.now 1 ≤ record.expiresAt → f.now 1 < record.purgeAt →
    (∀ l g l', mid = l ++ g :: l' → ∀ b, Sees unicode ((broker unicode).after (pre ++ e :: l)) g k b →
      b.uses = false) → a.isActive = true
  purged : ∀ mid f rest, post = mid ++ f :: rest →
    Sees unicode ((broker unicode).after (pre ++ e :: mid)) f k .invalid → record.purgeAt ≤ f.now 0
  ordered : ∀ mid f mid' g rest, post = mid ++ f :: (mid' ++ g :: rest) → ∀ a b,
    Sees unicode ((broker unicode).after (pre ++ e :: mid)) f k a →
    Sees unicode ((broker unicode).after (pre ++ e :: (mid ++ f :: mid'))) g k b → a.Precedes b

section Since

variable {pre : List Event} {e : Event} {k : String} {startedAt : ℤ} {request : SsoRequest}
  (initiates : Initiates unicode ((broker unicode).after pre) e k startedAt request)

include initiates

/-- A record that is unused after some events and used later was marked by one in between. -/
theorem marked_between (mid mid' : List Event)
    (fresh : Fresh (pre ++ e :: (mid ++ mid')))
    (unused : ∀ r, ((broker unicode).after (pre ++ e :: mid)).store.pendingSsoStates.get? k = some r →
      truthyMs r.usedAt = false)
    {r : PendingSsoState}
    (stored : ((broker unicode).after (pre ++ e :: (mid ++ mid'))).store.pendingSsoStates.get? k =
      some r) (used : truthyMs r.usedAt = true) :
    ∃ l g l', mid' = l ++ g :: l' ∧
      (∃ a, Sees unicode ((broker unicode).after (pre ++ e :: (mid ++ l))) g k a ∧ a.uses = true) ∧
      g.now 1 ≤ (e.service.pendingSsoState startedAt (e.now 1) k request).expiresAt := by
  induction mid' using List.reverseRecOn generalizing r with
  | nil =>
    rw [List.append_nil] at stored
    rw [unused r stored] at used
    cases used
  | append_singleton mid' g ih =>
    have hsplit : pre ++ e :: (mid ++ (mid' ++ [g])) = pre ++ e :: (mid ++ mid') ++ [g] := by simp
    have hold := initiates.old (mid ++ mid') g [] (by rwa [List.append_assoc])
    rw [hsplit] at fresh
    rw [hsplit, Machine.after_snoc] at stored
    have hearlier : ∀ r₀, ((broker unicode).after (pre ++ e :: (mid ++ mid'))).store.pendingSsoStates.get? k = some r₀ →
        truthyMs r₀.usedAt = true → ∃ l g' l', mid' ++ [g] = l ++ g' :: l' ∧
          (∃ a, Sees unicode ((broker unicode).after (pre ++ e :: (mid ++ l))) g' k a ∧ a.uses = true) ∧
          g'.now 1 ≤ (e.service.pendingSsoState startedAt (e.now 1) k request).expiresAt := by
      intro r₀ hr₀ hused
      obtain ⟨l, g', l', rfl, hsees, hinTime⟩ := ih fresh.append_left hr₀ hused
      exact ⟨l, g', l' ++ [g], by simp, hsees, hinTime⟩
    -- The mark is the last event's, or there before it.
    cases hbefore : ((broker unicode).after (pre ++ e :: (mid ++ mid'))).store.pendingSsoStates.get? k with
    | none =>
      obtain ⟨i, hi⟩ := (pending_born unicode).step _ g k hbefore (by
        rw [stored]
        exact Option.some_ne_none r)
      exact absurd hi (hold i)
    | some r₀ =>
      cases hmark : truthyMs r₀.usedAt with
      | true => exact hearlier r₀ hbefore hmark
      | false =>
        obtain ⟨hsees, hinTime⟩ := marked hbefore hmark stored used (hold 0)
        have hsame := ((kept initiates (mid ++ mid') fresh.append_left).1 r₀ hbefore)
        refine ⟨mid', g, [], rfl, hsees, ?_⟩
        rw [← hsame]
        exact hinTime

/-- A lookup that misses the record comes after it may be purged. -/
theorem purged_of_missing {mid : List Event} {f : Event} (rest : List Event)
    (fresh : Fresh (pre ++ e :: mid)) (timed : Timed (pre ++ e :: (mid ++ f :: rest)))
    (purged : ∀ r, ((broker unicode).after (pre ++ e :: mid)).store.pendingSsoStates.get? k = some r →
      r.purgeAt ≤ f.now 0) :
    (e.service.pendingSsoState startedAt (e.now 1) k request).purgeAt ≤ f.now 0 := by
  obtain ⟨hsame, hgone⟩ := kept initiates mid fresh
  cases hstored : ((broker unicode).after (pre ++ e :: mid)).store.pendingSsoStates.get? k with
  | some r =>
    rw [← hsame r hstored]
    exact purged r hstored
  | none =>
    obtain ⟨g, hg, i, hi⟩ := hgone hstored
    exact hi.trans (timed.le_of_before (List.mem_cons_of_mem e hg) i 0)

/-- A handoff state found unknown is never stored again. -/
theorem gone_of_missing {mid mid' : List Event} {f : Event}
    (fresh : Fresh (pre ++ e :: (mid ++ f :: mid')))
    (sees : Sees unicode ((broker unicode).after (pre ++ e :: mid)) f k .invalid) :
    ((broker unicode).after (pre ++ e :: (mid ++ f :: mid'))).store.pendingSsoStates.get? k = none := by
  have hsplit : pre ++ e :: (mid ++ f :: mid') = (pre ++ e :: (mid ++ [f])) ++ mid' := by simp
  have hnext : (broker unicode).after (pre ++ e :: (mid ++ [f])) =
      (broker unicode).next ((broker unicode).after (pre ++ e :: mid)) f := by
    rw [← Machine.after_snoc, List.append_assoc, List.cons_append]
  rw [hsplit] at fresh ⊢
  refine (pending_born unicode).gone fresh (initiates.drawn (mid ++ [f])) ?_
  rw [hnext]
  cases sees.finding with
  | missing _ gone => exact gone
  | active open' _ _ _ _ _ => cases open'

/-- A handoff state that is stored unused was not found used before, nor used. -/
theorem unused_before {mid mid' : List Event} {f : Event} {a : SsoResult} {r : PendingSsoState}
    (fresh : Fresh (pre ++ e :: (mid ++ f :: mid')))
    (sees : Sees unicode ((broker unicode).after (pre ++ e :: mid)) f k a)
    (stored : ((broker unicode).after (pre ++ e :: (mid ++ f :: mid'))).store.pendingSsoStates.get? k =
      some r) (unused : truthyMs r.usedAt = false) :
    (∀ r₀, a ≠ .replayed r₀) ∧ a.uses = false := by
  -- Once spent a state stays so, and this one is not.
  have hspent : ∀ l l', mid ++ f :: mid' = l ++ l' →
      ¬Spent ((broker unicode).after (pre ++ e :: l)).store k := by
    intro l l' hl hspent
    have hsplit : pre ++ e :: (mid ++ f :: mid') = (pre ++ e :: l) ++ l' := by simp [hl]
    rw [hsplit] at fresh stored
    rw [hspent.for_good (initiates.drawn l) l' fresh r stored] at unused
    cases unused
  have hnext : (broker unicode).after (pre ++ e :: (mid ++ [f])) =
      (broker unicode).next ((broker unicode).after (pre ++ e :: mid)) f := by
    rw [← Machine.after_snoc, List.append_assoc, List.cons_append]
  cases sees.finding with
  | missing _ _ =>
    refine ⟨fun r₀ h => ?_, rfl⟩
    cases h
  | late _ _ _ _ =>
    refine ⟨fun r₀ h => ?_, rfl⟩
    cases h
  | @used r₀ stored₀ used =>
    refine absurd (fun r₁ hr₁ => ?_) (hspent mid (f :: mid') rfl)
    rw [stored₀] at hr₁
    rw [← Option.some.inj hr₁]
    exact used
  | active open' _ _ _ _ spent =>
    refine ⟨?_, Bool.not_eq_true _ ▸ fun huses => ?_⟩
    · rintro r₀ rfl
      cases open'
    · refine hspent (mid ++ [f]) mid' (by simp) ?_
      rw [hnext]
      exact spent huses

/-- A handoff state that is stored used was not found expired before. -/
theorem not_late_before {mid mid' : List Event} {f : Event} {r r₀ : PendingSsoState}
    (fresh : Fresh (pre ++ e :: (mid ++ f :: mid'))) (timed : Timed (pre ++ e :: (mid ++ f :: mid')))
    (sees : Sees unicode ((broker unicode).after (pre ++ e :: mid)) f k (.expired r₀))
    (stored : ((broker unicode).after (pre ++ e :: (mid ++ f :: mid'))).store.pendingSsoStates.get? k =
      some r) : truthyMs r.usedAt = false := by
  cases sees.finding with
  | active open' _ _ _ _ _ => cases open'
  | @late r₁ stored₁ unused i first late =>
    by_contra hused
    -- What would mark it comes no earlier, and finds it unexpired.
    obtain ⟨l, g, l', hl, -, hinTime⟩ := marked_between initiates mid (f :: mid') fresh
      (fun r₂ hr₂ => by rw [← Option.some.inj (stored₁.symm.trans hr₂)]; exact unused) stored
      (Bool.not_eq_false _ ▸ hused)
    have hfresh : Fresh (pre ++ e :: mid) := fresh.of_append_cons
    have hexpiry := congrArg PendingSsoState.expiresAt ((kept initiates mid hfresh).1 _ stored₁)
    dsimp only at hexpiry
    have hle : f.now i ≤ g.now 1 := by
      cases l with
      | nil =>
        obtain ⟨rfl, -⟩ := List.cons.inj hl
        exact timed.1 f (by simp) i 1 first
      | cons h l =>
        obtain ⟨rfl, hmid⟩ := List.cons.inj hl
        have hsplit : pre ++ e :: (mid ++ f :: mid') = (pre ++ e :: mid) ++ f :: (l ++ g :: l') := by
          simp [hmid]
        rw [hsplit] at timed
        exact timed.le_of_before List.mem_cons_self i 1
    omega

/-- A handoff state moves forward: it is active until it is used or expires, and
    unknown in the end, not before its `purgeAt`. -/
theorem handoff_forward_of {post : List Event} (fresh : Fresh (pre ++ e :: post))
    (timed : Timed (pre ++ e :: post)) :
    Forward unicode k (e.service.pendingSsoState startedAt (e.now 1) k request) pre e post := by
  constructor
  -- Until it is used, expires or is purged, the state is seen as active.
  · rintro mid f rest rfl a hsees hinTime hkept hunused
    have hwithin := timed.1 f (by simp)
    have hfresh : Fresh (pre ++ e :: mid) := fresh.of_append_cons
    have hsame := (kept initiates mid hfresh).1
    -- A mark would have been made by an event that saw the state and used it.
    have hrecord : ∀ r, ((broker unicode).after (pre ++ e :: mid)).store.pendingSsoStates.get? k = some r →
        truthyMs r.usedAt = false := by
      intro r hr
      by_contra hused
      obtain ⟨l, g, l', hl, ⟨b, hb, huses⟩, -⟩ := marked_between initiates [] mid hfresh
        (fun r₀ hr₀ => by
          rw [Machine.after_append_cons, List.foldl_nil, initiates.stored] at hr₀
          rw [← Option.some.inj hr₀]
          rfl) hr (Bool.not_eq_false _ ▸ hused)
      rw [hunused l g l' hl b hb] at huses
      cases huses
    cases hsees.finding with
    | missing purged _ =>
      have hpurgeAt := purged_of_missing initiates rest hfresh timed purged
      have hle := hwithin 0 1 (Nat.zero_le 1)
      omega
    | used stored used =>
      rw [hrecord _ stored] at used
      cases used
    | @late r stored _ i first late =>
      have hexpiry := congrArg PendingSsoState.expiresAt (hsame r stored)
      have hle := hwithin i 1 first
      dsimp only at hexpiry
      omega
    | active open' _ _ _ _ _ => exact open'
  -- It is missing only once it may have been purged.
  · rintro mid f rest rfl hsees
    have hfresh : Fresh (pre ++ e :: mid) := fresh.of_append_cons
    cases hsees.finding with
    | missing purged _ => exact purged_of_missing initiates rest hfresh timed purged
    | active open' _ _ _ _ _ => cases open'
  -- Of two sightings the later one is never of an earlier phase.
  · rintro mid f mid' g rest rfl a b ha hb
    have hsplit : pre ++ e :: (mid ++ f :: (mid' ++ g :: rest)) =
        (pre ++ e :: (mid ++ f :: mid')) ++ g :: rest := by simp
    rw [hsplit] at fresh timed
    have hfresh := fresh.append_left
    have htimed := timed.append_left
    have hle : ∀ i j, f.now i ≤ g.now j :=
      fun i j => (List.pairwise_append.1 timed.2).2.2 f (by simp) g List.mem_cons_self i j
    have hkept : Fresh (pre ++ e :: mid) := hfresh.of_append_cons
    cases hb.finding with
    | missing _ _ => cases a <;> first | exact trivial | exact .inr rfl | exact rfl
    | @used r stored used =>
      cases a with
      | invalid => rw [gone_of_missing initiates hfresh ha] at stored; cases stored
      | expired r₀ =>
        rw [not_late_before initiates hfresh htimed ha stored] at used
        cases used
      | active _ => exact trivial
      | _ => exact .inl ⟨r, rfl⟩
    | @late r stored unused _ _ _ =>
      obtain ⟨hreplayed, huses⟩ := unused_before initiates hfresh ha stored unused
      cases a with
      | invalid => rw [gone_of_missing initiates hfresh ha] at stored; cases stored
      | expired _ => exact .inl ⟨r, rfl⟩
      | active _ => exact trivial
      | replayed r₀ => exact absurd rfl (hreplayed r₀)
      | _ => cases huses
    | @active r _ _ stored unused i _ inTime _ =>
      obtain ⟨hreplayed, huses⟩ := unused_before initiates hfresh ha stored unused
      cases a with
      | invalid => rw [gone_of_missing initiates hfresh ha] at stored; cases stored
      | expired r₀ =>
        cases ha.finding with
        | active open' _ _ _ _ _ => cases open'
        -- Both records expire when the initiation said, and time does not go back.
        | @late _ stored₀ _ j _ late =>
          have hexpiry := congrArg PendingSsoState.expiresAt ((kept initiates mid hkept).1 _ stored₀)
          have hexpiry' := congrArg PendingSsoState.expiresAt
            ((kept initiates (mid ++ f :: mid') hfresh).1 _ stored)
          have hlater := hle j i
          dsimp only at hexpiry hexpiry'
          omega
      | active _ => exact trivial
      | replayed r₀ => exact absurd rfl (hreplayed r₀)
      | _ => cases huses

end Since

/-- The lookups of every handoff state move forward. -/
theorem handoff_forward (unicode : Unicode) (es : List Event) (fresh : Fresh es) (timed : Timed es) :
    ∀ pre e post k startedAt request, es = pre ++ e :: post →
      Initiates unicode ((broker unicode).after pre) e k startedAt request →
      Forward unicode k (e.service.pendingSsoState startedAt (e.now 1) k request) pre e post := by
  rintro pre e post k startedAt request rfl initiates
  exact handoff_forward_of initiates fresh timed

/-- A handoff state that is inspected, completed and inspected again. -/
def phasesRun : List Event :=
  Sample.run Sample.service
    [("a", 1000, .beginSsoAuthorization 1000 Sample.ssoRequest),
     ("b", 2000, .inspectPendingSsoState "ssostate_a"),
     ("c", 3000, .completeSsoAuthorization "ssostate_a" Sample.session),
     ("d", 4000, .inspectPendingSsoState "ssostate_a")]

/-- The record of that handoff state, once it is used. -/
def phasesRecord : PendingSsoState :=
  { Sample.service.pendingSsoState 1000 1000 "ssostate_a" Sample.ssoRequest with usedAt := some 3000 }

theorem handoff_forward_run :
    ∃ record, Sees Unicode.ascii ((broker Unicode.ascii).after (phasesRun.take 2)) phasesRun[2]
        "ssostate_a" (.valid "code_c" phasesRecord) ∧
      Sees Unicode.ascii ((broker Unicode.ascii).after (phasesRun.take 3)) phasesRun[3] "ssostate_a"
        (.replayed phasesRecord) ∧
      Forward Unicode.ascii "ssostate_a" record [] phasesRun[0] (phasesRun.drop 1) := by
  have hforward := handoff_forward Unicode.ascii phasesRun (Sample.fresh _ (by decide))
    (Sample.timed _ (by decide)) [] phasesRun[0] (phasesRun.drop 1) "ssostate_a" 1000
    Sample.ssoRequest rfl ⟨rfl, rfl, by decide +kernel⟩
  have hanswer : (update (Sample.service.completeSsoAuthorizationUpdater phasesRun[2].now
      phasesRun[2].rand "ssostate_a" Sample.session)
      ((broker Unicode.ascii).after (phasesRun.take 2)).store).1 =
      .ok (.valid "code_c" phasesRecord) := by decide +kernel
  have hinspected : AuthService.inspectPendingSsoState (phasesRun[3].now 0)
      ((broker Unicode.ascii).after (phasesRun.take 3)).store "ssostate_a" =
      .replayed phasesRecord := by decide +kernel
  refine ⟨_, .completed rfl hanswer, ?_, hforward⟩
  rw [← hinspected]
  exact .inspected rfl

end Broker
