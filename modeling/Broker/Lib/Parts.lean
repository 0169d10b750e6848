import Broker.Lib.Text

/-!
# Parts of a text

A text split at a separator (`List.splitOn`): the parts with the blanks around them
stripped, which do not depend on the blanks around the text, and how the parts of a
text tell what it ends in.
-/

namespace Py

/-! ## Stripping -/

/-- Characters to strip in front make no difference. -/
theorem stripWhere_append_left {p : Char → Bool} {w : List Char} (hw : ∀ c ∈ w, p c = true)
    (s : List Char) : stripWhere p (w ++ s) = stripWhere p s := by
  obtain ⟨l, r, hsplit, hl, hr, hhead, hlast⟩ := stripWhere_cases p s
  have hall : ∀ c ∈ w ++ l, p c = true := List.forall_mem_append.2 ⟨hw, hl⟩
  have hstrip := stripWhere_append hall hr hhead hlast
  rwa [List.append_assoc w, List.append_assoc w, ← hsplit] at hstrip

/-- Only what is stripped is lost. -/
theorem mem_stripWhere_iff {p : Char → Bool} {c : Char} (h : p c = false) (s : List Char) :
    c ∈ stripWhere p s ↔ c ∈ s := by
  obtain ⟨l, r, hsplit, hl, hr, -, -⟩ := stripWhere_cases p s
  constructor
  · intro hc
    rw [hsplit]
    exact List.mem_append_left r (List.mem_append_right l hc)
  · intro hc
    rw [hsplit, List.mem_append, List.mem_append] at hc
    obtain (hc | hc) | hc := hc
    · exact absurd (hl c hc) (ne_true_of_eq_false h)
    · exact hc
    · exact absurd (hr c hc) (ne_true_of_eq_false h)

theorem mem_of_mem_stripWhere {p : Char → Bool} {c : Char} {s : List Char}
    (h : c ∈ stripWhere p s) : c ∈ s := by
  obtain ⟨l, r, hsplit, -⟩ := stripWhere_cases p s
  rw [hsplit]
  exact List.mem_append_left r (List.mem_append_right l h)

/-- Characters to strip at the end make no difference. -/
theorem stripWhere_append_right {p : Char → Bool} {w : List Char} (hw : ∀ c ∈ w, p c = true)
    (s : List Char) : stripWhere p (s ++ w) = stripWhere p s := by
  obtain ⟨l, r, hsplit, hl, hr, hhead, hlast⟩ := stripWhere_cases p s
  have hall : ∀ c ∈ r ++ w, p c = true := List.forall_mem_append.2 ⟨hr, hw⟩
  have hstrip := stripWhere_append hl hall hhead hlast
  rwa [← List.append_assoc _ r, ← hsplit] at hstrip

/-! ## Stripped parts -/

/-- The parts between separators, each stripped. -/
def strippedParts (sep : Char) (s : List Char) : List (List Char) := (s.splitOn sep).map strip

section Parts

variable {sep : Char}

theorem strippedParts_append (s t : List Char) :
    strippedParts sep (s ++ sep :: t) = strippedParts sep s ++ strippedParts sep t := by
  rw [strippedParts, List.splitOn_append_cons_self, List.map_append]
  rfl

theorem strippedParts_of_notMem {s : List Char} (h : sep ∉ s) : strippedParts sep s = [strip s] := by
  rw [strippedParts, List.splitOn_eq_singleton h]
  rfl

variable {w : List Char} (hsep : isSpace sep = false) (hw : ∀ c ∈ w, isSpace c = true)
include hsep hw

theorem notMem_blanks : sep ∉ w := fun hmem => by
  rw [hw sep hmem] at hsep
  cases hsep

/-- Blanks in front make no difference to the parts. -/
theorem strippedParts_append_left (s : List Char) : strippedParts sep (w ++ s) = strippedParts sep s := by
  have hfree := notMem_blanks hsep hw
  by_cases hmem : sep ∈ s
  · obtain ⟨pre, post, rfl, hpre⟩ := List.eq_append_cons_of_mem hmem
    have hpre' : sep ∉ w ++ pre := fun h => (List.mem_append.1 h).elim hfree hpre
    rw [← List.append_assoc, strippedParts_append, strippedParts_append, strippedParts_of_notMem hpre',
      strippedParts_of_notMem hpre, strip, stripWhere_append_left hw]
    rfl
  · have hmem' : sep ∉ w ++ s := fun h => (List.mem_append.1 h).elim hfree hmem
    rw [strippedParts_of_notMem hmem', strippedParts_of_notMem hmem, strip, stripWhere_append_left hw]
    rfl

/-- Blanks at the end make no difference to the parts. -/
theorem strippedParts_append_right (s : List Char) :
    strippedParts sep (s ++ w) = strippedParts sep s := by
  have hfree := notMem_blanks hsep hw
  by_cases hmem : sep ∈ s
  · obtain ⟨post, pre, hsplit, hpost⟩ := List.eq_append_cons_of_mem (List.mem_reverse.2 hmem)
    obtain rfl : s = pre.reverse ++ sep :: post.reverse := by
      rw [← List.reverse_reverse s, hsplit]
      simp
    have hpost' : sep ∉ post.reverse := fun h => hpost (List.mem_reverse.1 h)
    have hlast : sep ∉ post.reverse ++ w := fun h => (List.mem_append.1 h).elim hpost' hfree
    rw [List.append_assoc, List.cons_append, strippedParts_append, strippedParts_append,
      strippedParts_of_notMem hlast, strippedParts_of_notMem hpost', strip, stripWhere_append_right hw]
    rfl
  · have hmem' : sep ∉ s ++ w := fun h => (List.mem_append.1 h).elim hmem hfree
    rw [strippedParts_of_notMem hmem', strippedParts_of_notMem hmem, strip, stripWhere_append_right hw]
    rfl

end Parts

/-- A text has the parts of what is left of it when it is stripped. -/
theorem strippedParts_strip {sep : Char} (hsep : isSpace sep = false) (s : List Char) :
    strippedParts sep (strip s) = strippedParts sep s := by
  obtain ⟨l, r, hsplit, hl, hr, -, -⟩ := stripWhere_cases isSpace s
  conv_rhs => rw [hsplit, strippedParts_append_right hsep hr, strippedParts_append_left hsep hl]
  rfl

/-! ## Suffixes -/

theorem intercalate_append {sep : Char} {parts parts' : List (List Char)} (h : parts ≠ [])
    (h' : parts' ≠ []) :
    [sep].intercalate (parts ++ parts') = [sep].intercalate parts ++ sep :: [sep].intercalate parts' := by
  induction parts with
  | nil => exact absurd rfl h
  | cons part parts ih =>
    rcases eq_or_ne parts [] with rfl | hne
    · rw [List.singleton_append, List.intercalate_cons_of_ne_nil h', List.intercalate_singleton,
        List.append_assoc, List.singleton_append]
    · rw [List.cons_append, List.intercalate_cons_of_ne_nil (List.append_ne_nil_of_left_ne_nil hne _),
        List.intercalate_cons_of_ne_nil hne, ih hne]
      simp only [List.append_assoc]

/-- A text is determined by its parts. -/
theorem splitOn_inj {sep : Char} {s t : List Char} : s.splitOn sep = t.splitOn sep ↔ s = t := by
  constructor
  · intro h
    rw [← @List.intercalate_splitOn _ s _ _ sep, h, List.intercalate_splitOn]
  · exact congrArg _

/-- A text ends in a separator and another text exactly when its parts are some and those
    of that text. -/
theorem endsWith_sep_iff {sep : Char} {s t : List Char} :
    endsWith s (sep :: t) = true ↔ ∃ pre, pre ≠ [] ∧ s.splitOn sep = pre ++ t.splitOn sep := by
  rw [endsWith, List.isSuffixOf_iff_suffix]
  constructor
  · rintro ⟨pre, rfl⟩
    exact ⟨pre.splitOn sep, List.splitOn_ne_nil _ _, List.splitOn_append_cons_self _ _⟩
  · rintro ⟨pre, hne, hsplit⟩
    refine ⟨[sep].intercalate pre, ?_⟩
    have hjoin := @intercalate_append sep _ _ hne (List.splitOn_ne_nil sep t)
    rw [← hsplit, List.intercalate_splitOn, List.intercalate_splitOn] at hjoin
    exact hjoin.symm

end Py
