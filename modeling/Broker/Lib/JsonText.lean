import Broker.Lib.Json

/-!
# JSON text

`json.dumps` without blanks (`separators=(",", ":")`), whose text is ASCII, and
`json.loads`, which also accepts blanks between tokens, `NaN` and infinities,
and objects with a key given twice, of which the last value counts.

What `dumps` writes for a value without floats `loads` reads back
(`loads_dumps`), as long as its integers are short enough for Python to read
and it is not nested too deeply.

A lone surrogate escape, which names no character, is read as U+FFFD.
-/

namespace Py

namespace Json

/-! ## Writing -/

/-- The escape of a UTF-16 unit. -/
def unicodeEscape (unit : ℕ) : List Char :=
  ['\\', 'u', (unit / 4096 % 16).digitChar, (unit / 256 % 16).digitChar, (unit / 16 % 16).digitChar,
    (unit % 16).digitChar]

/-- The UTF-16 units of a character. -/
def units (c : Char) : List ℕ :=
  if c.toNat < 0x10000 then [c.toNat]
  else [0xd800 + (c.toNat - 0x10000) / 1024, 0xdc00 + (c.toNat - 0x10000) % 1024]

/-- The short escapes and the characters they stand for. -/
def shortEscapes : List (Char × Char) :=
  [('"', '"'), ('\\', '\\'), ('b', '\x08'), ('f', '\x0c'), ('n', '\n'), ('r', '\r'), ('t', '\t')]

/-- The text of a character in a string. -/
def escapeChar (c : Char) : List Char :=
  match shortEscapes.find? (·.2 = c) with
  | some (escape, _) => ['\\', escape]
  | none => if ' ' ≤ c && c ≤ '~' then [c] else (units c).flatMap unicodeEscape

/-- The text of a string. -/
def dumpString (s : List Char) : List Char := '"' :: s.flatMap escapeChar ++ ['"']

mutual

/-- `json.dumps(value, separators=(",", ":"))`, for what `repr` gives for a finite
    float. -/
def dumps (repr : Json → String) : Json → List Char
  | null => "null".toList
  | bool b => (if b then "true" else "false").toList
  | int n => (toString n).toList
  | float .nan => "NaN".toList
  | float (.infinite negative) => (if negative then "-Infinity" else "Infinity").toList
  | float (.finite q) => (repr (float (.finite q))).toList
  | str s => dumpString s.toList
  | list [] => ['[', ']']
  | list (v :: vs) => '[' :: (dumps repr v ++ dumpsItems repr vs)
  | dict [] => ['{', '}']
  | dict ((k, v) :: es) =>
    '{' :: (dumpString k.toList ++ ':' :: (dumps repr v ++ dumpsEntries repr es))

/-- The text of the items that follow the first of a list. -/
def dumpsItems (repr : Json → String) : List Json → List Char
  | [] => [']']
  | v :: vs => ',' :: (dumps repr v ++ dumpsItems repr vs)

/-- The text of the entries that follow the first of an object. -/
def dumpsEntries (repr : Json → String) : List (String × Json) → List Char
  | [] => ['}']
  | (k, v) :: es => ',' :: (dumpString k.toList ++ ':' :: (dumps repr v ++ dumpsEntries repr es))

end

/-! ## Reading -/

/-- What `json.loads` raises: a `JSONDecodeError`, another `ValueError` for an integer of too many
    digits, or a `RecursionError`. -/
inductive LoadsError
  | value
  | digits
  | recursion
  deriving DecidableEq, Repr

/-- The text without leading blanks. -/
def skipSpace (s : List Char) : List Char := s.dropWhile [' ', '\t', '\n', '\r'].contains

/-- The value of four hexadecimal digits. -/
def hexUnit (a b c d : Char) : Option ℕ := do
  return (← hexDigit? a) * 4096 + (← hexDigit? b) * 256 + (← hexDigit? c) * 16 + (← hexDigit? d)

/-- Reads a string up to its closing quote, to its units. -/
def scanUnits : List Char → Option (List ℕ × List Char)
  | [] => none
  | '"' :: s => some ([], s)
  | '\\' :: 'u' :: a :: b :: c :: d :: s => do
    let unit ← hexUnit a b c d
    let (us, s) ← scanUnits s
    return (unit :: us, s)
  | '\\' :: c :: s => do
    let unit ← if c = '/' then some '/' else shortEscapes.lookup c
    let (us, s) ← scanUnits s
    return (unit.toNat :: us, s)
  | c :: s =>
    if c.toNat < 0x20 then none
    else do
      let (us, s) ← scanUnits s
      return (c.toNat :: us, s)

/-- A high surrogate. -/
def isHigh (unit : ℕ) : Bool := 0xd800 ≤ unit && unit < 0xdc00

/-- A low surrogate. -/
def isLow (unit : ℕ) : Bool := 0xdc00 ≤ unit && unit < 0xe000

/-- The character of a unit that is not half of a pair. -/
def unitChar (unit : ℕ) : Char :=
  if isHigh unit || isLow unit then Char.ofNat 0xfffd else Char.ofNat unit

/-- The characters of units, whose surrogate pairs are joined. -/
def ofUnits : List ℕ → List Char
  | [] => []
  | [unit] => [unitChar unit]
  | high :: low :: us =>
    if isHigh high && isLow low then
      Char.ofNat (0x10000 + (high - 0xd800) * 1024 + (low - 0xdc00)) :: ofUnits us
    else unitChar high :: ofUnits (low :: us)

/-- Reads a string after its opening quote. -/
def scanString (s : List Char) : Option (List Char × List Char) :=
  (scanUnits s).map fun (us, s) => (ofUnits us, s)

/-- Reads the fraction of a number, if there is one, to its digits. -/
def scanFraction : List Char → Option (List Char) × List Char
  | '.' :: s =>
    match s.span isDigit with
    | ([], _) => (none, '.' :: s)
    | (digits, rest) => (some digits, rest)
  | s => (none, s)

/-- Reads the exponent of a number, if there is one. -/
def scanExponent : List Char → Option ℤ × List Char
  | [] => (none, [])
  | e :: s =>
    if e = 'e' || e = 'E' then
      let (negative, t) :=
        match s with
        | '-' :: t => (true, t)
        | '+' :: t => (false, t)
        | t => (false, t)
      match t.span isDigit with
      | ([], _) => (none, e :: s)
      | (digits, rest) =>
        let n : ℤ := Nat.ofDigitChars 10 digits 0
        (some (if negative then -n else n), rest)
    else (none, e :: s)

/-- The float of a sign, digits and an exponent. -/
def floatOf (negative : Bool) (digits fraction : List Char) (exponent : ℤ) : PyFloat :=
  let n : ℚ := Nat.ofDigitChars 10 (digits ++ fraction) 0
  match Double.round (n * 10 ^ (exponent - fraction.length)) with
  | some q => .finite (if negative then -q else q)
  | none => .infinite negative

/-- Reads the digits before the point: a zero stands alone. -/
def scanWhole : List Char → List Char × List Char
  | '0' :: s => (['0'], s)
  | s => s.span isDigit

/-- Reads a number after its sign. -/
def scanUnsigned (negative : Bool) (s : List Char) : Except LoadsError (Json × List Char) :=
  let (digits, s) := scanWhole s
  let (fraction, s) := scanFraction s
  let (exponent, s) := scanExponent s
  if digits.isEmpty then .error .value
  else if fraction.isSome || exponent.isSome then
    .ok (float (floatOf negative digits (fraction.getD []) (exponent.getD 0)), s)
  else if digits.length ≤ intMaxStrDigits then
    let n : ℤ := Nat.ofDigitChars 10 digits 0
    .ok (int (if negative then -n else n), s)
  else .error .digits

/-- Reads a number. -/
def scanNumber : List Char → Except LoadsError (Json × List Char)
  | '-' :: s => scanUnsigned true s
  | s => scanUnsigned false s

/-- Reads a constant or a number. -/
def scanAtom (s : List Char) : Except LoadsError (Json × List Char) :=
  let constants : List (String × Json) :=
    [("null", null), ("true", bool true), ("false", bool false), ("NaN", float .nan),
      ("Infinity", float (.infinite false)), ("-Infinity", float (.infinite true))]
  match constants.find? fun (name, _) => startsWith s name.toList with
  | some (name, v) => .ok (v, s.drop name.length)
  | none => scanNumber s

/-- The entries of an object: every key once, with its last value. -/
def ofPairs (pairs : List (String × Json)) : List (String × Json) :=
  (pairs.foldl (fun (d : Dict String Json) (k, v) => d.set k v) ∅).entries

mutual

/-- Reads a value. The first number bounds the calls, the second the depth. -/
def scanOnce : ℕ → ℕ → List Char → Except LoadsError (Json × List Char)
  | 0, _, _ => .error .value
  | _ + 1, _, '"' :: s =>
    match scanString s with
    | some (text, s) => .ok (str (String.ofList text), s)
    | none => .error .value
  | _ + 1, 0, '[' :: _ => .error .recursion
  | fuel + 1, depth + 1, '[' :: s =>
    match skipSpace s with
    | ']' :: s => .ok (list [], s)
    | s => do
      let (vs, s) ← scanItems fuel depth s
      return (list vs, s)
  | _ + 1, 0, '{' :: _ => .error .recursion
  | fuel + 1, depth + 1, '{' :: s =>
    match skipSpace s with
    | '}' :: s => .ok (dict [], s)
    | s => do
      let (es, s) ← scanEntries fuel depth s
      return (dict (ofPairs es), s)
  | _ + 1, _, s => scanAtom s

/-- Reads the items of a list, up to its bracket. -/
def scanItems : ℕ → ℕ → List Char → Except LoadsError (List Json × List Char)
  | 0, _, _ => .error .value
  | fuel + 1, depth, s => do
    let (v, s) ← scanOnce fuel depth s
    match skipSpace s with
    | ',' :: s =>
      let (vs, s) ← scanItems fuel depth (skipSpace s)
      return (v :: vs, s)
    | ']' :: s => return ([v], s)
    | _ => throw .value

/-- Reads the entries of an object, up to its brace. -/
def scanEntries : ℕ → ℕ → List Char → Except LoadsError (List (String × Json) × List Char)
  | 0, _, _ => .error .value
  | fuel + 1, depth, '"' :: s => do
    match scanString s with
    | none => throw .value
    | some (k, s) =>
      match skipSpace s with
      | ':' :: s =>
        let (v, s) ← scanOnce fuel depth (skipSpace s)
        match skipSpace s with
        | ',' :: s =>
          let (es, s) ← scanEntries fuel depth (skipSpace s)
          return ((String.ofList k, v) :: es, s)
        | '}' :: s => return ([(String.ofList k, v)], s)
        | _ => throw .value
      | _ => throw .value
  | _ + 1, _, _ => .error .value

end

/-- `json.loads` of a string, when values may be nested up to `depth`. -/
def loads (depth : ℕ) (s : List Char) : Except LoadsError Json :=
  match scanOnce (2 * s.length + 1) depth (skipSpace s) with
  | .ok (v, rest) => if (skipSpace rest).isEmpty then .ok v else .error .value
  | .error e => .error e

example : loads 2 " \x7b\"a\": [1, -2.5e1, \"\\ud83d\\ude00\\n\"], \"a\":null\x7d ".toList =
    .ok (dict [("a", null)]) := by
  decide +kernel

/-! ## Strings read back -/

theorem scanUnits_unicodeEscape {unit : ℕ} (h : unit < 0x10000) (s : List Char) :
    scanUnits (unicodeEscape unit ++ s) = (scanUnits s).map fun (us, s) => (unit :: us, s) := by
  have hunit : hexUnit (unit / 4096 % 16).digitChar (unit / 256 % 16).digitChar
      (unit / 16 % 16).digitChar (unit % 16).digitChar = some unit := by
    simp only [hexUnit, hexDigit?_digitChar (Nat.mod_lt _ (by decide : 0 < 16)), Option.bind_eq_bind,
      Option.bind_some, Option.pure_def, Option.some.injEq]
    omega
  simp only [unicodeEscape, List.cons_append, List.nil_append, scanUnits, hunit]
  cases scanUnits s <;> rfl

/-- A character is no surrogate. -/
theorem toNat_valid (c : Char) :
    c.toNat < 0xd800 ∨ 0xe000 ≤ c.toNat ∧ c.toNat < 0x110000 := by
  have h : c.toNat < 0xd800 ∨ 0xdfff < c.toNat ∧ c.toNat < 0x110000 := c.valid
  omega

/-- The escape of several units is read back, whatever follows. -/
theorem scanUnits_unicodeEscapes {us : List ℕ} (h : ∀ unit ∈ us, unit < 0x10000) (s : List Char) :
    scanUnits (us.flatMap unicodeEscape ++ s) =
      (scanUnits s).map fun (us', s) => (us ++ us', s) := by
  induction us with
  | nil =>
    rw [List.flatMap_nil, List.nil_append]
    cases scanUnits s <;> rfl
  | cons unit us ih =>
    rw [List.forall_mem_cons] at h
    rw [List.flatMap_cons, List.append_assoc, scanUnits_unicodeEscape h.1, ih h.2, Option.map_map]
    rfl

theorem units_lt (c : Char) : ∀ unit ∈ units c, unit < 0x10000 := by
  have hvalid := toNat_valid c
  rw [units]
  split_ifs with hbasic
  · rintro _ (_ | ⟨_, ⟨⟩⟩)
    exact hbasic
  · intro unit hunit
    rw [List.mem_pair] at hunit
    omega

/-- What a backslash and the letter of a short escape are read to. -/
theorem shortEscapes_lookup : ∀ e ∈ shortEscapes, e.1 ≠ 'u' ∧ e.1 ≠ '/' ∧
    shortEscapes.lookup e.1 = some e.2 ∧ units e.2 = [e.2.toNat] := by
  decide

/-- The text of a character is read back, whatever follows. -/
theorem scanUnits_escapeChar (c : Char) (s : List Char) :
    scanUnits (escapeChar c ++ s) = (scanUnits s).map fun (us, s) => (units c ++ us, s) := by
  rw [escapeChar]
  cases hshort : shortEscapes.find? (·.2 = c) with
  | some e =>
    have hc : e.2 = c := by simpa using List.find?_some hshort
    obtain ⟨hu, hslash, hlookup, hunits⟩ :=
      shortEscapes_lookup e (List.mem_of_find?_eq_some hshort)
    subst hc
    cases hs : scanUnits s <;> simp [scanUnits, hs, hu, hslash, hlookup, hunits]
  | none =>
    have hne : ∀ e ∈ shortEscapes, e.2 ≠ c := by simpa using hshort
    have hquote : c ≠ '"' := fun h => hne ('"', '"') (by decide) h.symm
    have hslash : c ≠ '\\' := fun h => hne ('\\', '\\') (by decide) h.symm
    dsimp only
    split_ifs with hplain
    · rw [Bool.and_eq_true, decide_eq_true_eq, decide_eq_true_eq] at hplain
      have hlow : 0x20 ≤ c.toNat := hplain.1
      have hhigh : c.toNat ≤ 0x7e := hplain.2
      have hunits : units c = [c.toNat] := if_pos (by omega)
      rw [hunits, List.singleton_append]
      cases hs : scanUnits s <;> simp [scanUnits, hs, hslash, not_lt.2 hlow]
    · exact scanUnits_unicodeEscapes (units_lt c) s

theorem ofUnits_cons {unit : ℕ} (h : isHigh unit = false) (us : List ℕ) :
    ofUnits (unit :: us) = unitChar unit :: ofUnits us := by
  cases us with
  | nil => rfl
  | cons low us => rw [ofUnits, h, Bool.false_and, if_neg (by decide)]

theorem ofUnits_units (c : Char) (us : List ℕ) : ofUnits (units c ++ us) = c :: ofUnits us := by
  have hvalid := toNat_valid c
  rw [units]
  split_ifs with hbasic
  · have hhigh : isHigh c.toNat = false := by
      simp only [isHigh, Bool.and_eq_false_iff, decide_eq_false_iff_not]
      omega
    have hlow : isLow c.toNat = false := by
      simp only [isLow, Bool.and_eq_false_iff, decide_eq_false_iff_not]
      omega
    rw [List.singleton_append, ofUnits_cons hhigh, unitChar, hhigh, hlow, Bool.or_false,
      if_neg (by decide), Char.ofNat_toNat]
  · have hhigh : isHigh (0xd800 + (c.toNat - 0x10000) / 1024) = true := by
      simp only [isHigh, Bool.and_eq_true, decide_eq_true_eq]
      omega
    have hlow : isLow (0xdc00 + (c.toNat - 0x10000) % 1024) = true := by
      simp only [isLow, Bool.and_eq_true, decide_eq_true_eq]
      omega
    have hjoined : 0x10000 + (0xd800 + (c.toNat - 0x10000) / 1024 - 0xd800) * 1024 +
        (0xdc00 + (c.toNat - 0x10000) % 1024 - 0xdc00) = c.toNat := by
      omega
    rw [List.cons_append, List.singleton_append, ofUnits, hhigh, hlow, Bool.and_self, if_pos rfl,
      hjoined, Char.ofNat_toNat]

/-- A string is read back. -/
theorem scanString_escaped (s rest : List Char) :
    scanString (s.flatMap escapeChar ++ '"' :: rest) = some (s, rest) := by
  have hunits : scanUnits (s.flatMap escapeChar ++ '"' :: rest) = some (s.flatMap units, rest) := by
    induction s with
    | nil => rfl
    | cons c s ih =>
      rw [List.flatMap_cons, List.append_assoc, scanUnits_escapeChar, ih]
      rfl
  have htext : ofUnits (s.flatMap units) = s := by
    clear hunits
    induction s with
    | nil => rfl
    | cons c s ih => rw [List.flatMap_cons, ofUnits_units, ih]
  rw [scanString, hunits, Option.map_some]
  dsimp only
  rw [htext]

/-! ## Numbers read back -/

/-- The text cannot continue a number. -/
def EndsNumber (s : List Char) : Prop :=
  ∀ c ∈ s.head?, isDigit c = false ∧ c ≠ '.' ∧ c ≠ 'e' ∧ c ≠ 'E'

/-- The digits of a positive number do not start with a zero. -/
theorem head?_toDigits {n : ℕ} (h : 0 < n) : (Nat.toDigits 10 n).head? ≠ some '0' := by
  induction n using Nat.base_induction 10 (by decide) with
  | single m hm =>
    rw [Nat.toDigits_of_lt_base hm]
    revert m
    decide
  | digit m k hk hm ih =>
    rw [← Nat.toDigits_append_toDigits (by decide) hm hk, List.head?_append_of_ne_nil]
    · exact ih hm
    · exact Nat.toDigits_ne_nil

theorem scanWhole_toDigits (n : ℕ) {rest : List Char} (h : EndsNumber rest) :
    scanWhole (Nat.toDigits 10 n ++ rest) = (Nat.toDigits 10 n, rest) := by
  have hspan : (Nat.toDigits 10 n ++ rest).span isDigit = (Nat.toDigits 10 n, rest) := by
    have hdigits : ∀ c ∈ Nat.toDigits 10 n, isDigit c = true := fun _ => isDigit_of_mem_toDigits
    rw [List.span_eq_takeWhile_dropWhile, List.takeWhile_append_of_pos hdigits,
      List.dropWhile_append_of_pos hdigits]
    cases rest with
    | nil => rw [List.takeWhile_nil, List.dropWhile_nil, List.append_nil]
    | cons c rest =>
      have hc : ¬isDigit c = true := by rw [(h c rfl).1]; decide
      rw [List.takeWhile_cons_of_neg hc, List.dropWhile_cons_of_neg hc, List.append_nil]
  rcases n.eq_zero_or_pos with rfl | hpos
  · rfl
  · have hhead := head?_toDigits hpos
    cases hdigits : Nat.toDigits 10 n with
    | nil => exact absurd hdigits Nat.toDigits_ne_nil
    | cons c digits =>
      rw [hdigits] at hhead hspan
      rw [← hspan, List.cons_append]
      unfold scanWhole
      split
      · rename_i hzero
        cases hzero
        exact absurd rfl hhead
      · rfl

theorem scanFraction_of_endsNumber {s : List Char} (h : EndsNumber s) :
    scanFraction s = (none, s) := by
  unfold scanFraction
  split
  · exact absurd rfl (h '.' rfl).2.1
  · rfl

theorem scanExponent_of_endsNumber {s : List Char} (h : EndsNumber s) :
    scanExponent s = (none, s) := by
  cases s with
  | nil => rfl
  | cons c s =>
    obtain ⟨-, -, he, hE⟩ := h c rfl
    simp [scanExponent, he, hE]

theorem scanUnsigned_toDigits (negative : Bool) {n : ℕ} {rest : List Char}
    (hshort : (Nat.toDigits 10 n).length ≤ intMaxStrDigits) (hrest : EndsNumber rest) :
    scanUnsigned negative (Nat.toDigits 10 n ++ rest) =
      .ok (int (if negative then -n else n), rest) := by
  rw [scanUnsigned, scanWhole_toDigits n hrest]
  dsimp only
  rw [scanFraction_of_endsNumber hrest]
  dsimp only
  rw [scanExponent_of_endsNumber hrest]
  dsimp only
  rw [if_neg (by simp), if_neg (by decide), if_pos hshort,
    Nat.ofDigitChars_toDigits (by decide) (by decide)]

/-- A digit starts no constant. -/
theorem scanAtom_digit {c : Char} (h : isDigit c = true) (s : List Char) :
    scanAtom (c :: s) = scanUnsigned false (c :: s) := by
  have hne : ∀ d, isDigit d = false → d ≠ c := by
    rintro d hd rfl
    exact absurd h (by rw [hd]; decide)
  have hn := hne 'n' (by decide)
  have ht := hne 't' (by decide)
  have hf := hne 'f' (by decide)
  have hN := hne 'N' (by decide)
  have hI := hne 'I' (by decide)
  have hminus := hne '-' (by decide)
  simp [scanAtom, startsWith, List.isPrefixOf, hn, ht, hf, hN, hI, hminus, scanNumber, hminus.symm]

theorem scanAtom_minus {c : Char} (h : isDigit c = true) (s : List Char) :
    scanAtom ('-' :: c :: s) = scanUnsigned true (c :: s) := by
  have hI : 'I' ≠ c := by
    rintro rfl
    exact absurd h (by decide)
  simp [scanAtom, startsWith, List.isPrefixOf, hI, scanNumber]

/-- An integer is read back. -/
theorem scanAtom_int {n : ℤ} {rest : List Char}
    (hshort : (Nat.toDigits 10 n.natAbs).length ≤ intMaxStrDigits) (hrest : EndsNumber rest) :
    scanAtom ((toString n).toList ++ rest) = .ok (int n, rest) := by
  rw [toList_toString]
  cases hdigits : Nat.toDigits 10 n.natAbs with
  | nil => exact absurd hdigits Nat.toDigits_ne_nil
  | cons c digits =>
    have hc : isDigit c = true := isDigit_of_mem_toDigits (n := n.natAbs) (by simp [hdigits])
    split_ifs with hn
    · have habs : n.toNat = n.natAbs := by omega
      rw [habs, hdigits, List.cons_append, scanAtom_digit hc, ← List.cons_append, ← hdigits,
        scanUnsigned_toDigits _ hshort hrest]
      simp [hn]
    · have habs : (-n).toNat = n.natAbs := by omega
      rw [habs, hdigits, List.cons_append, List.cons_append, scanAtom_minus hc, ← List.cons_append,
        ← hdigits, scanUnsigned_toDigits _ hshort hrest]
      simp only [if_true, Except.ok.injEq, Prod.mk.injEq, int.injEq, and_true]
      omega

/-! ## Values read back -/

mutual

/-- The values that are read back: without floats, their integers short enough
    to read, the keys of their objects distinct, nested up to `depth`. -/
def Plain : (depth : ℕ) → Json → Prop
  | _, null | _, bool _ | _, str _ => True
  | _, int n => (Nat.toDigits 10 n.natAbs).length ≤ intMaxStrDigits
  | _, float _ | 0, list _ | 0, dict _ => False
  | depth + 1, list items => PlainItems depth items
  | depth + 1, dict entries => (entries.map Prod.fst).Nodup ∧ PlainEntries depth entries

/-- The items of a list are read back. -/
def PlainItems : (depth : ℕ) → List Json → Prop
  | _, [] => True
  | depth, v :: vs => Plain depth v ∧ PlainItems depth vs

/-- The values of an object are read back. -/
def PlainEntries : (depth : ℕ) → List (String × Json) → Prop
  | _, [] => True
  | depth, (_, v) :: es => Plain depth v ∧ PlainEntries depth es

end

/-- The entries of an object with distinct keys are kept. -/
theorem ofPairs_of_nodup {es : List (String × Json)} (h : (es.map Prod.fst).Nodup) :
    ofPairs es = es := by
  have hentries := Dict.entries_foldl_set Prod.fst Prod.snd (∅ : Dict String Json) h fun _ _ => rfl
  rw [ofPairs, hentries]
  exact List.map_id' es

/-- The text of a value starts with no blank and no closing bracket. -/
theorem dumps_head (repr : Json → String) {depth : ℕ} {v : Json} (h : v.Plain depth) :
    ∃ c s, dumps repr v = c :: s ∧ c ∉ [' ', '\t', '\n', '\r', ']', '}'] := by
  cases v with
  | null => exact ⟨_, _, rfl, by decide⟩
  | bool b => cases b <;> exact ⟨_, _, rfl, by decide⟩
  | int n =>
    rw [dumps, toList_toString]
    split_ifs with hn
    · cases hdigits : Nat.toDigits 10 n.toNat with
      | nil => exact absurd hdigits Nat.toDigits_ne_nil
      | cons c digits =>
        refine ⟨c, digits, rfl, fun hc => ?_⟩
        have hdigit : isDigit c = true := isDigit_of_mem_toDigits (n := n.toNat) (by simp [hdigits])
        simp only [List.mem_cons, List.not_mem_nil, or_false] at hc
        rcases hc with rfl | rfl | rfl | rfl | rfl | rfl <;> exact absurd hdigit (by decide)
    · exact ⟨_, _, rfl, by decide⟩
  | float x => exact h.elim
  | str s => exact ⟨_, _, rfl, by decide⟩
  | list vs => cases vs <;> exact ⟨_, _, rfl, by decide⟩
  | dict es => cases es <;> exact ⟨_, _, rfl, by decide⟩

theorem skipSpace_cons {c : Char} (h : c ∉ [' ', '\t', '\n', '\r', ']', '}']) (s : List Char) :
    skipSpace (c :: s) = c :: s := by
  simp only [List.mem_cons, List.not_mem_nil, or_false, not_or] at h
  simp [skipSpace, h]

theorem skipSpace_dumps (repr : Json → String) {depth : ℕ} {v : Json} (h : v.Plain depth)
    (s : List Char) : skipSpace (dumps repr v ++ s) = dumps repr v ++ s := by
  obtain ⟨c, t, htext, hc⟩ := dumps_head repr h
  rw [htext, List.cons_append, skipSpace_cons hc]

theorem endsNumber_cons {c : Char} (h : c ∈ [',', ']', '}']) (s : List Char) :
    EndsNumber (c :: s) := by
  rintro d hd
  obtain rfl : c = d := by simpa using hd
  simp only [List.mem_cons, List.not_mem_nil, or_false] at h
  rcases h with rfl | rfl | rfl <;> decide

theorem endsNumber_dumpsItems (repr : Json → String) (vs : List Json) (s : List Char) :
    EndsNumber (dumpsItems repr vs ++ s) := by
  cases vs <;> exact endsNumber_cons (by decide) _

theorem endsNumber_dumpsEntries (repr : Json → String) (es : List (String × Json))
    (s : List Char) : EndsNumber (dumpsEntries repr es ++ s) := by
  cases es with
  | nil => exact endsNumber_cons (by decide) _
  | cons e es => exact endsNumber_cons (by decide) _

/-- That the text of `v`, at a depth, is read back. -/
def ReadBack (repr : Json → String) (depth : ℕ) (v : Json) : Prop :=
  ∀ fuel rest, 2 * (dumps repr v).length ≤ fuel + 1 → EndsNumber rest →
    scanOnce fuel depth (dumps repr v ++ rest) = .ok (v, rest)

/-- A text that starts neither a string nor a list nor an object is an atom. -/
theorem scanOnce_atom {c : Char} (h : c ∉ ['"', '[', '{']) (fuel depth : ℕ) (s : List Char) :
    scanOnce (fuel + 1) depth (c :: s) = scanAtom (c :: s) := by
  simp only [List.mem_cons, List.not_mem_nil, or_false, not_or] at h
  rw [scanOnce] <;> simp [h]

/-- A value whose text is an atom is read back. -/
theorem readBack_of_scanAtom {repr : Json → String} {depth : ℕ} {v : Json} {c : Char}
    {s : List Char} (htext : dumps repr v = c :: s) (hc : c ∉ ['"', '[', '{'])
    (h : ∀ rest, EndsNumber rest → scanAtom (c :: s ++ rest) = .ok (v, rest)) :
    ReadBack repr depth v := by
  intro fuel rest hfuel hrest
  rw [htext] at hfuel ⊢
  obtain ⟨fuel, rfl⟩ : ∃ n, fuel = n + 1 := ⟨fuel - 1, by simp at hfuel; omega⟩
  rw [List.cons_append, scanOnce_atom hc]
  exact h rest hrest

theorem readBack_int (repr : Json → String) {depth : ℕ} {n : ℤ} (h : (int n).Plain depth) :
    ReadBack repr depth (int n) := by
  obtain ⟨c, s, htext, -⟩ := dumps_head repr h
  refine readBack_of_scanAtom htext ?_ fun rest hrest => ?_
  · rw [dumps, toList_toString] at htext
    split_ifs at htext
    · have hdigit : isDigit c = true :=
        isDigit_of_mem_toDigits (n := n.toNat) (by simp [htext])
      intro hc
      simp only [List.mem_cons, List.not_mem_nil, or_false] at hc
      rcases hc with rfl | rfl | rfl <;> exact absurd hdigit (by decide)
    · cases htext
      decide
  · rw [← htext, dumps]
    exact scanAtom_int h hrest

/-! ### One item or entry -/

section

variable {fuel depth : ℕ} {s t r r' : List Char} {k : String} {v : Json}

theorem scanItems_last (h : scanOnce fuel depth s = .ok (v, ']' :: r)) :
    scanItems (fuel + 1) depth s = .ok ([v], r) := by
  rw [scanItems, h]
  rfl

theorem scanItems_more {vs : List Json} (h : scanOnce fuel depth s = .ok (v, ',' :: r))
    (h' : scanItems fuel depth (skipSpace r) = .ok (vs, r')) :
    scanItems (fuel + 1) depth s = .ok (v :: vs, r') := by
  rw [scanItems, h]
  change (scanItems fuel depth (skipSpace r) >>= fun p => pure (v :: p.1, p.2)) = _
  rw [h']
  rfl

/-- Reading an entry is reading the value after its key and colon. -/
theorem scanEntries_key :
    scanEntries (fuel + 1) depth (dumpString k.toList ++ ':' :: t) =
      (scanOnce fuel depth (skipSpace t) >>= fun (v, s) =>
        match skipSpace s with
        | ',' :: s => do
          let (es, s) ← scanEntries fuel depth (skipSpace s)
          return ((k, v) :: es, s)
        | '}' :: s => return ([(k, v)], s)
        | _ => throw .value) := by
  have hkey : dumpString k.toList ++ ':' :: t =
      '"' :: (k.toList.flatMap escapeChar ++ '"' :: ':' :: t) := by
    simp [dumpString]
  rw [hkey, scanEntries, scanString_escaped]
  simp only [skipSpace_cons (c := ':') (by decide), String.ofList_toList]

theorem scanEntries_last (h : scanOnce fuel depth (skipSpace t) = .ok (v, '}' :: r)) :
    scanEntries (fuel + 1) depth (dumpString k.toList ++ ':' :: t) = .ok ([(k, v)], r) := by
  rw [scanEntries_key, h]
  rfl

theorem scanEntries_more {es : List (String × Json)}
    (h : scanOnce fuel depth (skipSpace t) = .ok (v, ',' :: r))
    (h' : scanEntries fuel depth (skipSpace r) = .ok (es, r')) :
    scanEntries (fuel + 1) depth (dumpString k.toList ++ ':' :: t) = .ok ((k, v) :: es, r') := by
  rw [scanEntries_key, h]
  change (scanEntries fuel depth (skipSpace r) >>= fun p => pure ((k, v) :: p.1, p.2)) = _
  rw [h']
  rfl

end

/-! ### Whole values -/

theorem skipSpace_dumpString (k : List Char) (s : List Char) :
    skipSpace (dumpString k ++ s) = dumpString k ++ s := by
  rw [dumpString, List.cons_append, List.cons_append, skipSpace_cons (by decide)]

mutual

/-- A value is read back. -/
theorem readBack (repr : Json → String) :
    ∀ (v : Json) {depth : ℕ}, v.Plain depth → ReadBack repr depth v
  | null, _, _ => readBack_of_scanAtom rfl (by decide) fun _ _ => rfl
  | bool true, _, _ => readBack_of_scanAtom rfl (by decide) fun _ _ => rfl
  | bool false, _, _ => readBack_of_scanAtom rfl (by decide) fun _ _ => rfl
  | int _, _, h => readBack_int repr h
  | float _, _, h => h.elim
  | str text, _, _ => by
    intro fuel rest hfuel _
    rw [dumps, dumpString, List.cons_append] at hfuel ⊢
    obtain ⟨fuel, rfl⟩ : ∃ n, fuel = n + 1 := ⟨fuel - 1, by simp at hfuel; omega⟩
    rw [List.cons_append, scanOnce, List.append_assoc, List.singleton_append, scanString_escaped]
    simp
  | list [], 0, h => h.elim
  | list [], depth + 1, _ => by
    intro fuel rest hfuel _
    obtain ⟨fuel, rfl⟩ : ∃ n, fuel = n + 1 := ⟨fuel - 1, by simp [dumps] at hfuel; omega⟩
    rfl
  | list (_ :: _), 0, h => h.elim
  | list (v :: vs), depth + 1, h => by
    obtain ⟨hv, hvs⟩ := h
    intro fuel rest hfuel _
    rw [dumps, List.length_cons, List.length_append] at hfuel
    obtain ⟨fuel, rfl⟩ : ∃ n, fuel = n + 1 := ⟨fuel - 1, by omega⟩
    have hitems := scanItems_dumps repr vs (readBack repr v hv) hvs fuel rest (by omega)
    obtain ⟨c, s, htext, hc⟩ := dumps_head repr hv
    have hbracket : c ≠ ']' := by
      rintro rfl
      exact hc (by decide)
    rw [dumps, List.cons_append, scanOnce, List.append_assoc, skipSpace_dumps repr hv]
    rw [htext, List.cons_append] at hitems ⊢
    split
    · rename_i hs
      exact absurd (List.cons.inj hs).1 hbracket
    · rw [hitems]
      rfl
  | dict [], 0, h => h.elim
  | dict [], depth + 1, _ => by
    intro fuel rest hfuel _
    obtain ⟨fuel, rfl⟩ : ∃ n, fuel = n + 1 := ⟨fuel - 1, by simp [dumps] at hfuel; omega⟩
    rfl
  | dict (_ :: _), 0, h => h.elim
  | dict ((k, v) :: es), depth + 1, h => by
    obtain ⟨hkeys, hv, hes⟩ := h
    intro fuel rest hfuel _
    rw [dumps, List.length_cons, List.length_append, List.length_cons, List.length_append] at hfuel
    obtain ⟨fuel, rfl⟩ : ∃ n, fuel = n + 1 := ⟨fuel - 1, by omega⟩
    have hentries := scanEntries_dumps repr es (k := k) (readBack repr v hv) hes
      (skipSpace_dumps repr hv) fuel rest (by omega)
    have htext : dumps repr (dict ((k, v) :: es)) ++ rest = '{' :: (dumpString k.toList ++
        ':' :: (dumps repr v ++ (dumpsEntries repr es ++ rest))) := by
      simp [dumps]
    rw [htext, scanOnce, skipSpace_dumpString]
    split
    · rename_i hs
      cases hs
    · rw [hentries]
      change Except.ok (dict (ofPairs ((k, v) :: es)), rest) = _
      rw [ofPairs_of_nodup hkeys]

/-- The items of a list are read back. -/
theorem scanItems_dumps (repr : Json → String) :
    ∀ (vs : List Json) {depth : ℕ} {v : Json}, ReadBack repr depth v → PlainItems depth vs →
      ∀ fuel rest, 2 * ((dumps repr v).length + (dumpsItems repr vs).length) ≤ fuel →
        scanItems fuel depth (dumps repr v ++ (dumpsItems repr vs ++ rest)) = .ok (v :: vs, rest)
  | [], _, v, hv, _ => by
    intro fuel rest hfuel
    rw [dumpsItems, List.length_singleton] at hfuel
    obtain ⟨fuel, rfl⟩ : ∃ n, fuel = n + 1 := ⟨fuel - 1, by omega⟩
    exact scanItems_last (hv fuel _ (by omega) (endsNumber_dumpsItems repr [] rest))
  | w :: vs, _, v, hv, hvs => by
    obtain ⟨hw, hvs⟩ := hvs
    intro fuel rest hfuel
    rw [dumpsItems, List.length_cons, List.length_append] at hfuel
    obtain ⟨fuel, rfl⟩ : ∃ n, fuel = n + 1 := ⟨fuel - 1, by omega⟩
    have hitems := scanItems_dumps repr vs (readBack repr w hw) hvs fuel rest (by omega)
    rw [← skipSpace_dumps repr hw, ← List.append_assoc] at hitems
    rw [dumpsItems, List.cons_append]
    refine scanItems_more (hv fuel _ (by omega) (endsNumber_cons (by decide) _)) ?_
    rwa [List.append_assoc, ← List.append_assoc]

/-- The entries of an object are read back. -/
theorem scanEntries_dumps (repr : Json → String) :
    ∀ (es : List (String × Json)) {depth : ℕ} {k : String} {v : Json}, ReadBack repr depth v →
      PlainEntries depth es → (∀ s, skipSpace (dumps repr v ++ s) = dumps repr v ++ s) →
      ∀ fuel rest, 2 * ((dumps repr v).length + (dumpsEntries repr es).length + 1) ≤ fuel →
        scanEntries fuel depth (dumpString k.toList ++ ':' :: (dumps repr v ++
          (dumpsEntries repr es ++ rest))) = .ok ((k, v) :: es, rest)
  | [], depth, k, v, hv, _, hspace => by
    intro fuel rest hfuel
    obtain ⟨fuel, rfl⟩ : ∃ n, fuel = n + 1 := ⟨fuel - 1, by omega⟩
    refine scanEntries_last ?_
    rw [hspace]
    exact hv fuel _ (by omega) (endsNumber_dumpsEntries repr [] rest)
  | (l, w) :: es, depth, k, v, hv, hes, hspace => by
    obtain ⟨hw, hes⟩ := hes
    intro fuel rest hfuel
    rw [dumpsEntries, List.length_cons, List.length_append, List.length_cons,
      List.length_append] at hfuel
    obtain ⟨fuel, rfl⟩ : ∃ n, fuel = n + 1 := ⟨fuel - 1, by omega⟩
    have hentries := scanEntries_dumps repr es (k := l) (readBack repr w hw) hes
      (skipSpace_dumps repr hw) fuel rest (by omega)
    have htext : dumpsEntries repr ((l, w) :: es) ++ rest = ',' :: (dumpString l.toList ++
        ':' :: (dumps repr w ++ (dumpsEntries repr es ++ rest))) := by
      simp [dumpsEntries]
    rw [htext]
    refine scanEntries_more (r := dumpString l.toList ++ ':' :: (dumps repr w ++
      (dumpsEntries repr es ++ rest))) ?_ ?_
    · rw [hspace]
      exact hv fuel _ (by omega) (endsNumber_cons (by decide) _)
    · rwa [skipSpace_dumpString]

end

/-- The text of a value without floats is read back. -/
theorem loads_dumps (repr : Json → String) {depth : ℕ} {v : Json} (h : v.Plain depth) :
    loads depth (dumps repr v) = .ok v := by
  have hread := readBack repr v h (2 * (dumps repr v).length + 1) [] (by omega) (by simp [EndsNumber])
  have hspace := skipSpace_dumps repr h []
  rw [List.append_nil] at hread hspace
  rw [loads, hspace, hread]
  rfl

end Json

end Py
