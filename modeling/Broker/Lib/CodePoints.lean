import Broker.Lib.JsonText

/-!
# Code points

A Python string may hold any code points, surrogates included, which stand alone and are no
characters. `json.dumps` writes such a string by its UTF-16 units, so it does not tell a high
surrogate that a low one follows from the character that the two encode (`dumpText_append_inj`).
-/

namespace Py

/-- A code point: a character or a surrogate. -/
abbrev CodePoint := Fin 0x110000

namespace CodePoint

/-- The code point of a character. -/
def ofChar (c : Char) : CodePoint := ⟨c.toNat, by
  have hvalid := Json.toNat_valid c
  omega⟩

/-- A code point that is no character. -/
def isSurrogate (p : CodePoint) : Bool := 0xd800 ≤ p.val && p.val < 0xe000

/-- The character of a code point. -/
def toChar (p : CodePoint) : Char := Char.ofNat p

@[simp]
theorem toChar_ofChar (c : Char) : (ofChar c).toChar = c := Char.ofNat_toNat c

theorem isSurrogate_ofChar (c : Char) : (ofChar c).isSurrogate = false := by
  have hvalid := Json.toNat_valid c
  refine Bool.eq_false_of_not_eq_true fun h => ?_
  rw [isSurrogate, Bool.and_eq_true, decide_eq_true_eq, decide_eq_true_eq] at h
  change 0xd800 ≤ c.toNat ∧ c.toNat < 0xe000 at h
  omega

/-- A code point is that of its character, unless it is a surrogate. -/
theorem ofChar_toChar {p : CodePoint} (h : p.isSurrogate = false) : ofChar p.toChar = p := by
  have hlt := p.isLt
  have hvalid : p.val.isValidChar := by
    have hrange := Bool.and_eq_false_iff.1 h
    rw [decide_eq_false_iff_not, decide_eq_false_iff_not] at hrange
    rw [Nat.isValidChar]
    omega
  refine Fin.ext ?_
  change (Char.ofNat p.val).toNat = p.val
  rw [Char.ofNat, dif_pos hvalid]
  rfl

theorem any_isSurrogate_iff {s : List CodePoint} :
    ¬s.any isSurrogate = true ↔ ∀ p ∈ s, p.isSurrogate = false := by
  rw [Bool.not_eq_true, List.any_eq_false]
  exact forall₂_congr fun p _ => Bool.not_eq_true p.isSurrogate ▸ Iff.rfl

/-- The UTF-16 units of a code point. -/
def units (p : CodePoint) : List ℕ :=
  if p.val < 0x10000 then [p.val]
  else [0xd800 + (p.val - 0x10000) / 1024, 0xdc00 + (p.val - 0x10000) % 1024]

theorem units_lt (p : CodePoint) : ∀ unit ∈ p.units, unit < 0x10000 := by
  have hlt := p.isLt
  intro unit hunit
  rw [units] at hunit
  split_ifs at hunit with hbasic
  · rwa [List.mem_singleton.1 hunit]
  · rw [List.mem_pair] at hunit
    omega

end CodePoint

/-- A Python string. -/
abbrev Text := List CodePoint

namespace Text

/-- The string of a text without surrogates. -/
def ofString (s : String) : Text := s.toList.map CodePoint.ofChar

/-- The UTF-16 units of a string. -/
def units (s : Text) : List ℕ := s.flatMap CodePoint.units

theorem units_ofString (s : String) : (ofString s).units = s.toList.flatMap Json.units := by
  rw [units, ofString, List.flatMap_map]
  rfl

end Text

namespace Json

/-- The text of a unit in a string. -/
def escapeUnit (unit : ℕ) : List Char :=
  match shortEscapes.find? (·.2.toNat = unit) with
  | some (escape, _) => ['\\', escape]
  | none => if 0x20 ≤ unit ∧ unit ≤ 0x7e then [Char.ofNat unit] else unicodeEscape unit

/-- The text of a string, whose code points are written by their units. -/
def dumpText (s : Text) : List Char := '"' :: s.units.flatMap escapeUnit ++ ['"']

theorem find?_toNat (c : Char) :
    shortEscapes.find? (·.2.toNat = c.toNat) = shortEscapes.find? (·.2 = c) := by
  congr 1
  funext e
  exact decide_eq_decide.2 Char.toNat_inj

/-- Only a small unit has a short escape. -/
theorem find?_eq_none {unit : ℕ} (h : 0x80 ≤ unit) :
    shortEscapes.find? (·.2.toNat = unit) = none := by
  rw [List.find?_eq_none]
  intro e he
  have hsmall : ∀ e ∈ shortEscapes, e.2.toNat < 0x80 := by decide
  have hlt := hsmall e he
  simp only [decide_eq_true_eq]
  omega

theorem escapeUnit_of_le {unit : ℕ} (h : 0x80 ≤ unit) : escapeUnit unit = unicodeEscape unit := by
  have hwide : ¬(0x20 ≤ unit ∧ unit ≤ 0x7e) := by omega
  rw [escapeUnit, find?_eq_none h]
  exact if_neg hwide

/-- A character is written by its units. -/
theorem escapeChar_eq (c : Char) : escapeChar c = (units c).flatMap escapeUnit := by
  have hplain : (' ' ≤ c && c ≤ '~') = decide (0x20 ≤ c.toNat ∧ c.toNat ≤ 0x7e) := by
    rw [Bool.decide_and]
    rfl
  rw [escapeChar, hplain]
  by_cases hbasic : c.toNat < 0x10000
  · have hunits : units c = [c.toNat] := if_pos hbasic
    simp only [hunits, List.flatMap_singleton, decide_eq_true_eq]
    cases hfind : shortEscapes.find? (·.2 = c) with
    | none => simp only [escapeUnit, find?_toNat, hfind, Char.ofNat_toNat]
    | some e => simp only [escapeUnit, find?_toNat, hfind]
  · -- Neither half of a pair is written in a shorter way.
    have hunits : units c = [0xd800 + (c.toNat - 0x10000) / 1024,
        0xdc00 + (c.toNat - 0x10000) % 1024] := if_neg hbasic
    have hwide : ¬(0x20 ≤ c.toNat ∧ c.toNat ≤ 0x7e) := by omega
    rw [← find?_toNat, find?_eq_none (by omega), hunits, decide_eq_false hwide]
    rw [List.flatMap_cons, List.flatMap_singleton, List.flatMap_cons, List.flatMap_singleton,
      escapeUnit_of_le (by omega), escapeUnit_of_le (by omega)]
    rfl

/-- A string without surrogates is written as its text is. -/
theorem dumpText_ofString (s : String) : dumpText (Text.ofString s) = dumpString s.toList := by
  have hchars : escapeChar = fun c => (units c).flatMap escapeUnit := funext escapeChar_eq
  rw [dumpText, dumpString, Text.units_ofString, List.flatMap_assoc, hchars]

/-- A unit is read back from its text, whatever follows. -/
theorem scanUnits_escapeUnit {unit : ℕ} (h : unit < 0x10000) (s : List Char) :
    scanUnits (escapeUnit unit ++ s) = (scanUnits s).map fun (us, s) => (unit :: us, s) := by
  by_cases hsmall : unit < 0x80
  · -- A small unit is a character.
    have hall : ∀ n < 0x80, (Char.ofNat n).toNat = n := by decide
    have hvalid := hall unit hsmall
    have hunits : units (Char.ofNat unit) = [unit] := by
      rw [units, hvalid]
      exact if_pos h
    have hread := scanUnits_escapeChar (Char.ofNat unit) s
    rw [escapeChar_eq, hunits, List.flatMap_singleton] at hread
    exact hread
  · rw [escapeUnit_of_le (by omega)]
    exact scanUnits_unicodeEscape h s

/-- Units are read back up to the closing quote. -/
theorem scanUnits_escapeUnits {us : List ℕ} (h : ∀ unit ∈ us, unit < 0x10000) (rest : List Char) :
    scanUnits (us.flatMap escapeUnit ++ '"' :: rest) = some (us, rest) := by
  induction us with
  | nil => rw [List.flatMap_nil, List.nil_append, scanUnits]
  | cons unit us ih =>
    rw [List.flatMap_cons, List.append_assoc, scanUnits_escapeUnit (h unit (.head _)),
      ih fun u hu => h u (.tail _ hu)]
    rfl

/-- The text of a string tells its units, and where it ends. -/
theorem dumpText_append_inj {s s' : Text} {rest rest' : List Char}
    (h : dumpText s ++ rest = dumpText s' ++ rest') : s.units = s'.units ∧ rest = rest' := by
  have hread : ∀ (s : Text) (rest : List Char),
      scanUnits ((dumpText s ++ rest).drop 1) = some (s.units, rest) := by
    intro s rest
    have hunits : ∀ unit ∈ s.units, unit < 0x10000 := by
      intro unit hunit
      obtain ⟨p, -, hunit⟩ := List.mem_flatMap.1 hunit
      exact p.units_lt unit hunit
    rw [dumpText, List.append_assoc]
    exact scanUnits_escapeUnits hunits rest
  have heq := hread s rest
  rw [h, hread s' rest', Option.some.injEq, Prod.mk.injEq] at heq
  exact ⟨heq.1.symm, heq.2.symm⟩

/-- The units of a string without surrogates tell the string. -/
theorem units_ofString_inj {s s' : String}
    (h : (Text.ofString s).units = (Text.ofString s').units) : s = s' := by
  have hread : ∀ l : List Char, ofUnits (l.flatMap units) = l := by
    intro l
    induction l with
    | nil => rfl
    | cons c l ih => rw [List.flatMap_cons, ofUnits_units, ih]
  rw [Text.units_ofString, Text.units_ofString] at h
  rw [← String.toList_inj, ← hread s.toList, h, hread]

end Json

theorem Text.ofString_injective : Function.Injective Text.ofString := fun _ _ h =>
  Json.units_ofString_inj (congrArg Text.units h)

end Py
