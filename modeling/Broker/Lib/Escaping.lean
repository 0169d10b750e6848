import Mathlib.Data.List.Basic
import Mathlib.Data.List.Pairwise

/-!
# Escaped text

A table of escapes gives some characters a text to stand for them. Replacing the
characters one after the other (`replaceAll`) is replacing them all at once
(`escape`), as long as no text has a character that is replaced after it
(`replaceAll_eq_escape`).

When the texts begin with a mark that is itself escaped, and none begins another
(`Escapes`), what was escaped can be read back (`unescape_escape`).
-/

namespace Escaping

/-! ## Replacing characters -/

/-- `s.replace(c, text)`, for a character `c`. -/
def replace (c : Char) (text s : List Char) : List Char :=
  s.flatMap fun d => if d = c then text else [d]

/-- The characters of the table are replaced in turn. -/
def replaceAll (table : List (Char × List Char)) (s : List Char) : List Char :=
  table.foldl (fun s e => replace e.1 e.2 s) s

/-- What stands for a character. -/
def escapeChar (table : List (Char × List Char)) (c : Char) : List Char :=
  (table.lookup c).getD [c]

/-- The characters of the table are replaced at once. -/
def escape (table : List (Char × List Char)) (s : List Char) : List Char :=
  s.flatMap (escapeChar table)

theorem escape_append (table : List (Char × List Char)) (s t : List Char) :
    escape table (s ++ t) = escape table s ++ escape table t :=
  List.flatMap_append

theorem escape_cons (table : List (Char × List Char)) (c : Char) (s : List Char) :
    escape table (c :: s) = escapeChar table c ++ escape table s :=
  List.flatMap_cons

theorem escapeChar_cons (e : Char × List Char) (table : List (Char × List Char)) (c : Char) :
    escapeChar (e :: table) c = if c = e.1 then e.2 else escapeChar table c := by
  rw [escapeChar, List.lookup_cons]
  by_cases h : c = e.1
  · rw [if_pos h, h, beq_self_eq_true]
    rfl
  · rw [if_neg h, beq_false_of_ne h]
    rfl

theorem escapeChar_of_notMem {table : List (Char × List Char)} {c : Char}
    (h : c ∉ table.map Prod.fst) : escapeChar table c = [c] := by
  induction table with
  | nil => rfl
  | cons e table ih =>
    rw [List.map_cons, List.mem_cons, not_or] at h
    rw [escapeChar_cons, if_neg h.1, ih h.2]

/-- A text without characters of the table is left as it is. -/
theorem escape_of_notMem {table : List (Char × List Char)} {s : List Char}
    (h : ∀ c ∈ s, c ∉ table.map Prod.fst) : escape table s = s := by
  induction s with
  | nil => rfl
  | cons c s ih =>
    rw [List.forall_mem_cons] at h
    rw [escape_cons, escapeChar_of_notMem h.1, ih h.2]
    rfl

/-- What stands for a character is its text, or the character itself. -/
theorem escapeChar_cases (table : List (Char × List Char)) (c : Char) :
    (c, escapeChar table c) ∈ table ∨ escapeChar table c = [c] ∧ c ∉ table.map Prod.fst := by
  induction table with
  | nil => exact .inr ⟨rfl, List.not_mem_nil⟩
  | cons e table ih =>
    rw [escapeChar_cons]
    by_cases h : c = e.1
    · rw [if_pos h, h]
      exact .inl List.mem_cons_self
    · rw [if_neg h]
      rcases ih with hmem | ⟨hself, hnone⟩
      · exact .inl (List.mem_cons_of_mem e hmem)
      · exact .inr ⟨hself, List.not_mem_cons_of_ne_of_not_mem h hnone⟩

/-- A replacement, and then the escapes of a table that neither its character nor its text
    has to do with. -/
theorem escape_replace {e : Char × List Char} {table : List (Char × List Char)}
    (h : ∀ f ∈ table, f.1 ∉ e.2) (s : List Char) :
    escape table (replace e.1 e.2 s) = escape (e :: table) s := by
  rw [escape, replace, List.flatMap_assoc, escape]
  congr 1
  funext c
  rw [escapeChar_cons]
  split_ifs
  · refine escape_of_notMem fun d hd hkey => ?_
    obtain ⟨f, hf, rfl⟩ := List.mem_map.1 hkey
    exact h f hf hd
  · exact List.append_nil _

/-- Replacing characters in turn is replacing them at once, when no text has a character
    that is replaced later. -/
theorem replaceAll_eq_escape {table : List (Char × List Char)}
    (h : table.Pairwise fun e f => f.1 ∉ e.2) (s : List Char) :
    replaceAll table s = escape table s := by
  induction table generalizing s with
  | nil =>
    rw [escape_of_notMem fun c _ => List.not_mem_nil]
    rfl
  | cons e table ih =>
    rw [List.pairwise_cons] at h
    rw [replaceAll, List.foldl_cons, ← escape_replace h.1]
    exact ih h.2 _

/-! ## Reading back -/

/-- A table of escapes that can be read back: its texts begin with a mark, which is escaped
    itself, and none of them begins another. -/
structure Escapes where
  mark : Char
  table : List (Char × List Char)
  marked : ∀ e ∈ table, e.2.head? = some mark
  escaped : mark ∈ table.map Prod.fst
  prefixFree : ∀ e ∈ table, ∀ f ∈ table, e.2 <+: f.2 → e = f

namespace Escapes

variable (escapes : Escapes)

/-- Reads a text back, after skipping what is left of an escape. -/
def unescapeAfter : (skip : ℕ) → List Char → List Char
  | _, [] => []
  | skip + 1, _ :: s => unescapeAfter skip s
  | 0, c :: s =>
    match escapes.table.find? fun e => e.2.isPrefixOf (c :: s) with
    | some e => e.1 :: unescapeAfter (e.2.length - 1) s
    | none => c :: unescapeAfter 0 s

/-- The text that an escaped one stands for. -/
def unescape (s : List Char) : List Char := escapes.unescapeAfter 0 s

variable {escapes}

theorem unescapeAfter_append (t s : List Char) :
    escapes.unescapeAfter t.length (t ++ s) = escapes.unescapeAfter 0 s := by
  induction t with
  | nil => rfl
  | cons c t ih =>
    rw [List.length_cons, List.cons_append, unescapeAfter, ih]

/-- Of the escapes, only the one that a text begins with is found there. -/
theorem find?_eq_some {e : Char × List Char} (he : e ∈ escapes.table) (s : List Char) :
    (escapes.table.find? fun f => f.2.isPrefixOf (e.2 ++ s)) = some e := by
  cases hfind : escapes.table.find? fun f => f.2.isPrefixOf (e.2 ++ s) with
  | none =>
    have hnone := List.find?_eq_none.1 hfind e he
    exact absurd (List.isPrefixOf_iff_prefix.2 (List.prefix_append e.2 s)) hnone
  | some f =>
    have hf := List.mem_of_find?_eq_some hfind
    have hprefix : f.2 <+: e.2 ++ s := List.isPrefixOf_iff_prefix.1 (by simpa using List.find?_some hfind)
    rcases List.prefix_or_prefix_of_prefix hprefix (List.prefix_append e.2 s) with h | h
    · rw [escapes.prefixFree f hf e he h]
    · rw [escapes.prefixFree e he f hf h]

/-- No escape is found where a text does not begin with the mark. -/
theorem find?_eq_none {c : Char} (h : c ≠ escapes.mark) (s : List Char) :
    (escapes.table.find? fun f => f.2.isPrefixOf (c :: s)) = none := by
  rw [List.find?_eq_none]
  intro f hf hprefix
  obtain ⟨t, ht⟩ := List.isPrefixOf_iff_prefix.1 hprefix
  have hmark := escapes.marked f hf
  cases htext : f.2 with
  | nil =>
    rw [htext] at hmark
    cases hmark
  | cons d text =>
    rw [htext] at hmark ht
    rw [List.cons_append] at ht
    rw [List.head?_cons, Option.some.injEq] at hmark
    exact h ((List.cons.inj ht).1.symm.trans hmark)

theorem unescape_escapeChar (c : Char) (s : List Char) :
    escapes.unescape (escapeChar escapes.table c ++ s) = c :: escapes.unescape s := by
  rcases escapeChar_cases escapes.table c with hmem | ⟨hself, hnone⟩
  · have hmark := escapes.marked _ hmem
    have hfind := find?_eq_some hmem s
    dsimp only at hmark hfind
    cases htext : escapeChar escapes.table c with
    | nil =>
      rw [htext] at hmark
      cases hmark
    | cons d text =>
      rw [htext, List.cons_append] at hfind
      rw [unescape, List.cons_append, unescapeAfter, hfind]
      dsimp only
      rw [List.length_cons, Nat.add_sub_cancel, unescapeAfter_append, unescape]
  · have hne : c ≠ escapes.mark := fun h => hnone (h ▸ escapes.escaped)
    rw [hself, unescape, List.singleton_append, unescapeAfter, find?_eq_none hne]
    rfl

/-- What is escaped is read back. -/
theorem unescape_escape (s : List Char) : escapes.unescape (escape escapes.table s) = s := by
  induction s with
  | nil => rfl
  | cons c s ih => rw [escape_cons, unescape_escapeChar, ih]

end Escapes

/-- A character that has an escape, and is in none of the texts, is in no escaped text. -/
theorem notMem_escape {table : List (Char × List Char)} {c : Char} (h : c ∈ table.map Prod.fst)
    (hfree : ∀ e ∈ table, c ∉ e.2) (s : List Char) : c ∉ escape table s := by
  intro hc
  obtain ⟨d, -, hd⟩ := List.mem_flatMap.1 hc
  rcases escapeChar_cases table d with hmem | ⟨hself, hnone⟩
  · exact hfree _ hmem hd
  · rw [hself, List.mem_singleton] at hd
    exact hnone (hd ▸ h)

end Escaping
