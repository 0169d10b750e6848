import Mathlib.Data.List.Basic

/-!
# Distinct elements

The elements of a list, each once: at its first place (`List.eraseDups`), collected in a
loop that appends what is new (`appendNew`). They stand in the order of their first places
(`pairwise_eraseDups`).
-/

namespace Distinct

variable {α : Type*} [BEq α]

/-- Appends the elements of a list that are new. -/
def appendNew (ordered : List α) : List α → List α
  | [] => ordered
  | a :: l => appendNew (if ordered.contains a then ordered else ordered ++ [a]) l

theorem appendNew_eq (ordered l : List α) :
    appendNew ordered l = ordered ++ (l.filter fun a => !ordered.contains a).eraseDups := by
  induction l generalizing ordered with
  | nil => rw [appendNew, List.filter_nil, List.eraseDups_nil, List.append_nil]
  | cons a l ih =>
    rw [appendNew, ih]
    by_cases hmem : ordered.contains a = true
    · rw [if_pos hmem, List.filter_cons_of_neg (by rw [hmem]; exact Bool.false_ne_true)]
    · have hnew : (fun b => !(ordered ++ [a]).contains b) = fun b => !b == a && !ordered.contains b := by
        funext b
        rw [List.contains_append, List.contains_cons, List.contains_nil, Bool.or_false, Bool.not_or,
          Bool.and_comm]
      rw [if_neg hmem, List.filter_cons_of_pos (by rwa [Bool.not_eq_true', ← Bool.not_eq_true]),
        List.eraseDups_cons, List.filter_filter, List.append_assoc, List.singleton_append, hnew]

theorem appendNew_nil (l : List α) : appendNew [] l = l.eraseDups := by
  have hall : (l.filter fun a => !([] : List α).contains a) = l := List.filter_eq_self.2 fun _ _ => rfl
  rw [appendNew_eq, List.nil_append, hall]

variable [LawfulBEq α]

/-- Of two elements that a filter keeps, the same one comes first. -/
theorem idxOf_filter_lt_iff {p : α → Bool} {a b : α} (ha : p a = true) (hb : p b = true) (l : List α) :
    (l.filter p).idxOf a < (l.filter p).idxOf b ↔ l.idxOf a < l.idxOf b := by
  induction l with
  | nil => rfl
  | cons c l ih =>
    by_cases hc : p c = true
    · rw [List.filter_cons_of_pos hc]
      simp only [List.idxOf_cons]
      cases c == a <;> cases c == b <;> simp [ih]
    · have hca : (c == a) = false := beq_eq_false_iff_ne.2 fun h => hc (h ▸ ha)
      have hcb : (c == b) = false := beq_eq_false_iff_ne.2 fun h => hc (h ▸ hb)
      rw [List.filter_cons_of_neg hc, ih]
      simp [List.idxOf_cons, hca, hcb]

/-- The elements, each once, are in the order of their first places. -/
theorem pairwise_eraseDups (l : List α) : l.eraseDups.Pairwise fun a b => l.idxOf a < l.idxOf b := by
  match l with
  | [] => exact List.Pairwise.nil
  | a :: l =>
    rw [List.eraseDups_cons, List.pairwise_cons]
    have hkept : ∀ b ∈ (l.filter fun b => !b == a).eraseDups, (!b == a) = true := fun b hb =>
      (List.mem_filter.1 (List.mem_eraseDups.1 hb)).2
    have hne : ∀ b ∈ (l.filter fun b => !b == a).eraseDups, (a == b) = false := fun b hb =>
      beq_eq_false_iff_ne.2 fun h => by simpa [h] using hkept b hb
    refine ⟨fun b hb => ?_, ?_⟩
    · simp [List.idxOf_cons, hne b hb]
    · have hlength := List.length_filter_le (fun b => !b == a) l
      refine (pairwise_eraseDups (l.filter fun b => !b == a)).imp_of_mem fun {b c} hb hc hlt => ?_
      rw [idxOf_filter_lt_iff (p := fun b => !b == a) (hkept b hb) (hkept c hc)] at hlt
      simpa [List.idxOf_cons, hne b hb, hne c hc] using hlt
termination_by l.length

end Distinct
