import Broker.Calls

/-!
# Fresh tokens

The key of every record was drawn by the event that made it (`Born`): a record
that is gone in a fresh run is gone for good (`Born.gone`).
-/

namespace Broker

open Py Runs

theorem randomToken_inj {kind x y : String} (h : randomToken kind x = randomToken kind y) :
    x = y := by
  have hlist := congrArg String.toList h
  simp only [randomToken, String.toList_append, List.append_assoc, List.append_cancel_left_eq]
    at hlist
  exact String.toList_inj.1 hlist

/-- A token of a kind drawn in a run. -/
def Drawn (kind : String) (es : List Event) (k : String) : Prop :=
  ∃ e ∈ es, ∃ i, k = randomToken kind (e.rand.token i)

theorem Drawn.append {kind k : String} {es : List Event} (h : Drawn kind es k) (fs : List Event) :
    Drawn kind (es ++ fs) k := by
  obtain ⟨e, he, hk⟩ := h
  exact ⟨e, List.mem_append_left fs he, hk⟩

theorem Fresh.append_left {es fs : List Event} (h : Fresh (es ++ fs)) : Fresh es :=
  (List.pairwise_append.1 h).1

theorem Fresh.of_append_cons {es fs gs : List Event} {e : Event} (h : Fresh (es ++ e :: (fs ++ gs))) :
    Fresh (es ++ e :: fs) := by
  rw [← List.cons_append, ← List.append_assoc] at h
  exact h.append_left

theorem Timed.append_left {es fs : List Event} (h : Timed (es ++ fs)) : Timed es :=
  ⟨fun e he => h.1 e (List.mem_append_left fs he), (List.pairwise_append.1 h.2).1⟩

theorem Timed.le_of_before {b mid post : List Event} {e f : Event}
    (timed : Timed (b ++ f :: (mid ++ e :: post))) {g : Event} (hg : g ∈ f :: mid) (i j : ℕ) :
    g.now i ≤ e.now j := by
  have hsplit : b ++ f :: (mid ++ e :: post) = (b ++ f :: mid) ++ e :: post := by simp
  rw [hsplit] at timed
  exact (List.pairwise_append.1 timed.2).2.2 g (List.mem_append_right b hg) e List.mem_cons_self i j

/-- What an event of a fresh run draws was not drawn before. -/
theorem Fresh.not_drawn {kind : String} {pre post : List Event} {e : Event}
    (h : Fresh (pre ++ e :: post)) (i : ℕ) : ¬Drawn kind pre (randomToken kind (e.rand.token i)) := by
  rintro ⟨e', he', j, hk⟩
  exact (List.pairwise_append.1 h).2.2 e' he' e List.mem_cons_self j i (randomToken_inj hk).symm

section Born

variable {α : Type}

/-- The keys of a bucket are tokens of a kind, drawn by the event that makes
    their record. -/
structure Born (unicode : Unicode) (kind : String) (get : World → String → Option α) : Prop where
  init : ∀ k, get World.initial k = none
  step : ∀ w e k, get w k = none → get ((broker unicode).next w e) k ≠ none →
    ∃ i, k = randomToken kind (e.rand.token i)

variable {unicode : Unicode} {kind : String} {get : World → String → Option α}

namespace Born

/-- The keys of the records of a reachable state were drawn. -/
theorem drawn (h : Born unicode kind get) {es : List Event} {k : String}
    (hk : get ((broker unicode).after es) k ≠ none) : Drawn kind es k := by
  induction es using List.reverseRecOn with
  | nil => exact absurd (h.init k) hk
  | append_singleton es e ih =>
    rw [Machine.after_snoc] at hk
    by_cases hbefore : get ((broker unicode).after es) k = none
    · exact ⟨e, by simp, h.step _ e k hbefore hk⟩
    · exact (ih hbefore).append [e]

theorem drawn_of_eq_some (h : Born unicode kind get) {es : List Event} {k : String} {r : α}
    (hk : get ((broker unicode).after es) k = some r) : Drawn kind es k :=
  h.drawn fun hnone => Option.some_ne_none r (hk.symm.trans hnone)

/-- A drawn key without a record never has one again. -/
theorem gone (h : Born unicode kind get) {es fs : List Event} {k : String}
    (hfresh : Fresh (es ++ fs)) (hdrawn : Drawn kind es k)
    (hgone : get ((broker unicode).after es) k = none) :
    get ((broker unicode).after (es ++ fs)) k = none := by
  induction fs using List.reverseRecOn with
  | nil => rwa [List.append_nil]
  | append_singleton fs e ih =>
    rw [← List.append_assoc] at hfresh ⊢
    have hbefore := ih hfresh.append_left
    rw [Machine.after_snoc]
    by_contra hk
    obtain ⟨i, rfl⟩ := h.step _ e k hbefore hk
    exact hfresh.not_drawn i (hdrawn.append fs)

end Born

end Born

/-! ## The buckets -/

variable (unicode : Unicode)

theorem codes_born : Born unicode "code" fun w k => w.store.authorizationCodes.get? k where
  init _ := rfl
  step w e k hbefore hafter := by
    have h := code_step unicode w e k
    rw [hbefore] at h
    generalize ((broker unicode).next w e).store.authorizationCodes.get? k = o at h hafter
    cases h with
    | same => exact absurd rfl hafter
    | issued _ key => exact ⟨0, key⟩

theorem access_born : Born unicode "at" fun w k => w.store.accessTokens.get? k where
  init _ := rfl
  step w e k hbefore hafter := by
    have h := access_step unicode w e k
    rw [hbefore] at h
    generalize ((broker unicode).next w e).store.accessTokens.get? k = o at h hafter
    cases h with
    | absent => exact absurd rfl hafter
    | minted _ key => exact ⟨0, key⟩

theorem refresh_born : Born unicode "rt" fun w k => w.store.refreshTokens.get? k where
  init _ := rfl
  step w e k hbefore hafter := by
    have h := refresh_step unicode w e k
    rw [hbefore] at h
    generalize ((broker unicode).next w e).store.refreshTokens.get? k = o at h hafter
    cases h with
    | absent => exact absurd rfl hafter
    | minted _ key => exact ⟨1, key⟩

theorem pending_born : Born unicode "ssostate" fun w k => w.store.pendingSsoStates.get? k where
  init _ := rfl
  step w e k hbefore hafter := by
    have h := pending_step unicode w e k
    rw [hbefore] at h
    generalize ((broker unicode).next w e).store.pendingSsoStates.get? k = o at h hafter
    cases h with
    | same => exact absurd rfl hafter
    | admitted _ key => exact ⟨0, key⟩

end Broker
