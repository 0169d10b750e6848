import Mathlib.Data.List.Nodup
import Mathlib.Data.List.Sort

/-!
# Sorting by keys

A list whose keys are distinct is sorted by them in one way only
(`eq_mergeSort`). Of such a list, no part with more than one element is in the
order of the list and in the opposite one (`length_le_one_of_sublist_reverse`).
-/

namespace Py

variable {α : Type*}

/-- The sorted list is the only one that is in order and has the same elements. -/
theorem eq_mergeSort {r : α → α → Prop} [DecidableRel r] (trans : ∀ x y z, r x y → r y z → r x z)
    (total : ∀ x y, r x y ∨ r y x) {xs ys : List α}
    (antisymm : ∀ x ∈ xs, ∀ y ∈ xs, r x y → r y x → x = y) (perm : ys.Perm xs)
    (sorted : ys.Pairwise r) : ys = xs.mergeSort fun x y => decide (r x y) := by
  have hperm : ys.Perm (xs.mergeSort fun x y => decide (r x y)) :=
    perm.trans (List.mergeSort_perm xs _).symm
  have hsorted : (xs.mergeSort fun x y => decide (r x y)).Pairwise r := by
    refine (List.pairwise_mergeSort (fun x y z hxy hyz => ?_) (fun x y => ?_) xs).imp of_decide_eq_true
    · exact decide_eq_true (trans x y z (of_decide_eq_true hxy) (of_decide_eq_true hyz))
    · rw [Bool.or_eq_true, decide_eq_true_eq, decide_eq_true_eq]
      exact total x y
  refine hperm.eq_of_pairwise (fun x y hx hy => ?_) sorted hsorted
  exact antisymm x (perm.subset hx) y ((List.mergeSort_perm xs _).subset hy)

/-- Two elements of a list without repetitions have one order. -/
theorem not_sublist_swap {xs : List α} (nodup : xs.Nodup) {x y : α} (h : [x, y].Sublist xs) :
    ¬[y, x].Sublist xs := by
  induction xs with
  | nil => cases h
  | cons z xs ih =>
    rw [List.nodup_cons] at nodup
    intro h'
    cases h with
    | cons _ h =>
      cases h' with
      | cons _ h' => exact ih nodup.2 h h'
      | cons_cons _ _ => exact nodup.1 (h.subset (List.mem_cons_of_mem x List.mem_cons_self))
    | cons_cons _ h =>
      cases h' with
      | cons _ h' => exact nodup.1 (h'.subset (List.mem_cons_of_mem y List.mem_cons_self))
      | cons_cons _ _ => exact nodup.1 (h.subset List.mem_cons_self)

theorem length_le_one_of_sublist_reverse {xs ys : List α} (nodup : ys.Nodup)
    (h : xs.Sublist ys) (h' : xs.Sublist ys.reverse) : xs.length ≤ 1 := by
  rcases xs with _ | ⟨x, _ | ⟨y, rest⟩⟩
  · exact Nat.zero_le 1
  · exact le_refl 1
  · have hpair : [x, y].Sublist (x :: y :: rest) := ((List.nil_sublist rest).cons_cons y).cons_cons x
    have hswap : [y, x].Sublist ys := List.reverse_sublist.1 (hpair.trans h')
    exact absurd hswap (not_sublist_swap nodup (hpair.trans h))

/-- A list of at most one element is in order wherever it is. -/
theorem sublist_reverse_of_length_le_one {xs ys : List α} (h : xs.Sublist ys)
    (short : xs.length ≤ 1) : xs.Sublist ys.reverse := by
  have hreverse : xs.reverse = xs := by
    rcases xs with _ | ⟨x, _ | ⟨y, rest⟩⟩
    · rfl
    · rfl
    · rw [List.length_cons, List.length_cons] at short
      omega
  rw [← hreverse]
  exact h.reverse

end Py
