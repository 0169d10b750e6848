import Mathlib.Algebra.Order.Ring.Int
import Mathlib.Data.List.Basic
import Mathlib.Tactic.Cases

/-!
# Slices

Python's `xs[start:stop]`, with its indices from the end. Between indices that
are not negative it is a window of the list (`slice_window`), which is empty only past
the end (`length_le_of_slice_eq_nil`).
-/

namespace Py

variable {α : Type*}

/-- An index of a slice, as a place in a list of this length. -/
def sliceIndex (length : ℕ) (i : ℤ) : ℕ :=
  if i < 0 then (i + length).toNat else min i.toNat length

/-- `xs[start:stop]`. -/
def slice (xs : List α) (start stop : ℤ) : List α :=
  (xs.take (sliceIndex xs.length stop)).drop (sliceIndex xs.length start)

example : slice [1, 2, 3, 4] 0 (-1) = [1, 2, 3] ∧ slice [1, 2, 3] 2 9 = [3] := by decide

theorem sliceIndex_natCast (length i : ℕ) : sliceIndex length i = min i length := by
  rw [sliceIndex, if_neg (by omega), Int.toNat_natCast]

theorem mem_of_mem_slice {xs : List α} {start stop : ℤ} {x : α} (h : x ∈ slice xs start stop) : x ∈ xs :=
  List.mem_of_mem_take (List.mem_of_mem_drop h)

/-- A slice from a place on, of some length. -/
theorem slice_window (xs : List α) (start count : ℕ) :
    slice xs start ((start : ℤ) + count) = (xs.drop start).take count := by
  have hstop : sliceIndex xs.length ((start : ℤ) + count) = min (start + count) xs.length := by
    rw [← Nat.cast_add, sliceIndex_natCast]
  rw [slice, sliceIndex_natCast, hstop, List.drop_take]
  rcases le_total start xs.length with h | h
  · rw [min_eq_left h]
    rcases le_total (start + count) xs.length with h' | h'
    · rw [min_eq_left h', Nat.add_sub_cancel_left]
    · rw [min_eq_right h', List.take_of_length_le (by simp),
        List.take_of_length_le (by rw [List.length_drop]; omega)]
  · rw [List.drop_eq_nil_of_le h, List.take_nil, min_eq_right h, List.drop_length, List.take_nil]

/-- A slice that is empty and would take something ends where it starts, or is past the end. -/
theorem length_le_of_slice_eq_nil {xs : List α} {start count : ℕ} (hcount : 0 < count)
    (h : slice xs start ((start : ℤ) + count) = []) : xs.length ≤ start := by
  rw [slice_window, List.take_eq_nil_iff, List.drop_eq_nil_iff] at h
  omega

end Py
