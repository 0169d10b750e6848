import Mathlib.Data.Bool.AllAny
import Mathlib.Data.Int.Notation
import Mathlib.Data.List.TakeWhile
import Mathlib.Data.Nat.Digits.Defs

/-!
# Strings

Python's string methods and conversions, on lists of characters: `strip`,
`partition`, `split`, and the `int` of a string, with its Unicode digits and
spaces, its underscores between digits and its limit on their number. It reads
back the text of an integer (`int_toString`).
-/

namespace Py

/-- `str.isspace` of a character. -/
def isSpace (c : Char) : Bool :=
  let n := c.toNat
  (0x9 ≤ n && n ≤ 0xd) || (0x1c ≤ n && n ≤ 0x20) || (0x2000 ≤ n && n ≤ 0x200a) ||
    [0x85, 0xa0, 0x1680, 0x2028, 0x2029, 0x202f, 0x205f, 0x3000].contains n

/-- Removes leading and trailing characters satisfying `p`. -/
def stripWhere (p : Char → Bool) (s : List Char) : List Char :=
  ((s.dropWhile p).reverse.dropWhile p).reverse

/-- `str.strip()`. -/
def strip (s : List Char) : List Char := stripWhere isSpace s

/-- `s.partition(c)`: before and after the first `c`, and whether there is one. -/
def partition (c : Char) (s : List Char) : List Char × Bool × List Char :=
  let tail := s.dropWhile (· ≠ c)
  (s.takeWhile (· ≠ c), !tail.isEmpty, tail.tail)

/-- `s.rpartition(c)`: before and after the last `c`, and whether there is one. -/
def rpartition (c : Char) (s : List Char) : List Char × Bool × List Char :=
  match partition c s.reverse with
  | (tail, true, head) => (head.reverse, true, tail.reverse)
  | (_, false, _) => ([], false, s)

/-- `s.startswith(affix)`. -/
def startsWith (s affix : List Char) : Bool := affix.isPrefixOf s

/-- `s.endswith(affix)`. -/
def endsWith (s affix : List Char) : Bool := affix.isSuffixOf s

/-- `s.isascii()`. -/
def isAscii (s : List Char) : Bool := s.all (·.toNat < 128)

/-- An ASCII digit. -/
def isDigit (c : Char) : Bool := '0' ≤ c && c ≤ '9'

/-- An ASCII letter. -/
def isLetter (c : Char) : Bool := ('a' ≤ c && c ≤ 'z') || ('A' ≤ c && c ≤ 'Z')

/-- The value of a hexadecimal digit. -/
def hexDigit? (c : Char) : Option ℕ :=
  if isDigit c then some (c.toNat - 0x30)
  else if 'a' ≤ c && c ≤ 'f' then some (c.toNat - 0x57)
  else if 'A' ≤ c && c ≤ 'F' then some (c.toNat - 0x37)
  else none

/-- What the Unicode tables supply: lower case and the NFKC form. On ASCII
    text, lower case is that of the letters `A` to `Z`. -/
structure Unicode where
  /-- `s.lower()`. -/
  lower : List Char → List Char
  /-- `unicodedata.normalize("NFKC", s)`. -/
  nfkc : List Char → List Char
  lower_ascii : ∀ s, isAscii s → lower s = s.map Char.toLower

/-- Unicode tables that know ASCII only. -/
def Unicode.ascii : Unicode := ⟨List.map Char.toLower, id, fun _ _ => rfl⟩

/-! ## Splitting -/

theorem partition_append {c : Char} {pre : List Char} (h : c ∉ pre) (post : List Char) :
    partition c (pre ++ c :: post) = (pre, true, post) := by
  have hpre : ∀ d ∈ pre, decide (d ≠ c) = true := by
    intro d hd
    rw [decide_eq_true_eq]
    rintro rfl
    exact h hd
  rw [partition]
  rw [List.takeWhile_append_of_pos hpre, List.dropWhile_append_of_pos hpre,
    List.takeWhile_cons_of_neg (by simp), List.dropWhile_cons_of_neg (by simp), List.append_nil]
  rfl

theorem partition_of_notMem {c : Char} {s : List Char} (h : c ∉ s) :
    partition c s = (s, false, []) := by
  have hs : ∀ d ∈ s, decide (d ≠ c) = true := by
    intro d hd
    rw [decide_eq_true_eq]
    rintro rfl
    exact h hd
  have htake := @List.takeWhile_append_of_pos _ _ s [] hs
  have hdrop := @List.dropWhile_append_of_pos _ _ s [] hs
  rw [List.append_nil] at htake hdrop
  rw [partition, htake, hdrop, List.takeWhile_nil, List.dropWhile_nil, List.append_nil]
  rfl

/-- What is before and after the first `c`, when there is one. -/
theorem partition_cases (c : Char) (s : List Char) :
    partition c s = (s, false, []) ∧ c ∉ s ∨
    ∃ pre post, partition c s = (pre, true, post) ∧ s = pre ++ c :: post ∧ c ∉ pre := by
  by_cases h : c ∈ s
  · obtain ⟨pre, post, rfl, hfree⟩ := List.eq_append_cons_of_mem h
    exact .inr ⟨pre, post, partition_append hfree post, rfl, hfree⟩
  · exact .inl ⟨partition_of_notMem h, h⟩

theorem rpartition_of_notMem {c : Char} {s : List Char} (h : c ∉ s) :
    rpartition c s = ([], false, s) := by
  rw [rpartition, partition_of_notMem (by rwa [List.mem_reverse])]

/-- An element of an intercalated list is one of the separator or of a part. -/
theorem mem_or_mem_of_mem_intercalate {α : Type*} {sep : List α} {x : α} {l : List (List α)}
    (h : x ∈ sep.intercalate l) : x ∈ sep ∨ ∃ part ∈ l, x ∈ part := by
  induction l with
  | nil => cases h
  | cons part l ih =>
    cases l with
    | nil =>
      rw [List.intercalate_singleton] at h
      exact .inr ⟨part, List.mem_cons_self, h⟩
    | cons part' l =>
      rw [List.intercalate_cons_cons, List.mem_append, List.mem_append] at h
      rcases h with (h | h) | h
      · exact .inr ⟨part, List.mem_cons_self, h⟩
      · exact .inl h
      · rcases ih h with h | ⟨part'', hpart, h⟩
        · exact .inl h
        · exact .inr ⟨part'', List.mem_cons_of_mem part hpart, h⟩

/-! ## Integers -/

/-- The zeros of the Unicode blocks of ten decimal digits. -/
def decimalZeros : List ℕ :=
  [0x30, 0x660, 0x6f0, 0x7c0, 0x966, 0x9e6, 0xa66, 0xae6, 0xb66, 0xbe6, 0xc66, 0xce6, 0xd66,
    0xde6, 0xe50, 0xed0, 0xf20, 0x1040, 0x1090, 0x17e0, 0x1810, 0x1946, 0x19d0, 0x1a80, 0x1a90,
    0x1b50, 0x1bb0, 0x1c40, 0x1c50, 0xa620, 0xa8d0, 0xa900, 0xa9d0, 0xa9f0, 0xaa50, 0xabf0,
    0xff10, 0x104a0, 0x10d30, 0x11066, 0x110f0, 0x11136, 0x111d0, 0x112f0, 0x11450, 0x114d0,
    0x11650, 0x116c0, 0x11730, 0x118e0, 0x11950, 0x11c50, 0x11d50, 0x11da0, 0x16a60, 0x16ac0,
    0x16b50, 0x1d7ce, 0x1d7d8, 0x1d7e2, 0x1d7ec, 0x1d7f6, 0x1e140, 0x1e2f0, 0x1e950, 0x1fbf0]

/-- The value of a decimal digit, of any script. -/
def decimalDigit? (c : Char) : Option ℕ :=
  (decimalZeros.find? fun z => z ≤ c.toNat && c.toNat < z + 10).map (c.toNat - ·)

/-- The spaces that `int` skips around a number, once other Unicode spaces
    have become blanks. -/
def isIntSpace (c : Char) : Bool := c = ' ' || (0x9 ≤ c.toNat && c.toNat ≤ 0xd)

/-- The spelling of an integer literal's character in ASCII. -/
def intChar (c : Char) : Char :=
  if c.toNat < 127 then c
  else if isSpace c then ' '
  else (decimalDigit? c).elim '?' fun d => Char.ofNat (0x30 + d)

/-- Reads digits, with single underscores between them, to their value and
    number; `afterDigit` says that the character before was a digit. -/
def scanDigits (value number : ℕ) (afterDigit : Bool) : List Char → Option (ℕ × ℕ)
  | [] => if afterDigit then some (value, number) else none
  | c :: cs =>
    if c = '_' then
      if afterDigit then scanDigits value number false cs else none
    else if 0x30 ≤ c.toNat ∧ c.toNat < 0x3a then
      scanDigits (10 * value + (c.toNat - 0x30)) (number + 1) true cs
    else none

/-- The default of `sys.get_int_max_str_digits()`. -/
def intMaxStrDigits : ℕ := 4300

/-- The value of an unsigned literal. -/
def natOfDigits (s : List Char) : Option ℕ :=
  (scanDigits 0 0 false s).bind fun (value, number) =>
    if number ≤ intMaxStrDigits then some value else none

/-- `int(s)`, none for a `ValueError`. -/
def int (s : String) : Option ℤ :=
  match stripWhere isIntSpace (s.toList.map intChar) with
  | '-' :: digits => (natOfDigits digits).map fun n => -Int.ofNat n
  | '+' :: digits => (natOfDigits digits).map Int.ofNat
  | digits => (natOfDigits digits).map Int.ofNat

example : int " -1_000\t" = some (-1000) ∧ int "1__0" = none ∧ int "٣" = some 3 := by decide +kernel

/-! ## Integers read back -/

theorem isDigit_of_mem_toDigits {n : ℕ} {c : Char} (h : c ∈ Nat.toDigits 10 n) :
    isDigit c = true := by
  have hdigit := Nat.isDigit_of_mem_toDigits (by decide) (by decide) h
  rwa [Char.isDigit] at hdigit

theorem toList_toString (n : ℤ) :
    (toString n).toList =
      if 0 ≤ n then Nat.toDigits 10 n.toNat else '-' :: Nat.toDigits 10 (-n).toNat := by
  rw [Int.toString_eq_repr, Int.repr_eq_if]
  split_ifs <;> simp

theorem toNat_of_isDigit {c : Char} (h : isDigit c = true) : 0x30 ≤ c.toNat ∧ c.toNat < 0x3a := by
  rw [isDigit, Bool.and_eq_true, decide_eq_true_eq, decide_eq_true_eq, Char.le_def, Char.le_def,
    UInt32.le_iff_toNat_le, UInt32.le_iff_toNat_le] at h
  exact ⟨h.1, Nat.lt_succ_of_le h.2⟩

theorem hexDigit?_digitChar {n : ℕ} (h : n < 16) : hexDigit? n.digitChar = some n := by
  revert n
  decide

theorem hexDigit?_lt {c : Char} {d : ℕ} (h : hexDigit? c = some d) : d < 16 := by
  rw [hexDigit?] at h
  split_ifs at h with hdigit hlower hupper
  · have := (toNat_of_isDigit hdigit).2
    cases h
    omega
  all_goals
    rw [Bool.and_eq_true, decide_eq_true_eq, decide_eq_true_eq, Char.le_def, Char.le_def,
      UInt32.le_iff_toNat_le, UInt32.le_iff_toNat_le] at *
    cases h
  · have : c.toNat ≤ 0x66 := hlower.2
    omega
  · have : c.toNat ≤ 0x46 := hupper.2
    omega

/-- Digits are read to the number they are those of. -/
theorem scanDigits_of_digits {digits : List Char} (h : ∀ c ∈ digits, isDigit c = true)
    (value number : ℕ) :
    scanDigits value number true digits =
      some (Nat.ofDigitChars 10 digits value, number + digits.length) := by
  induction digits generalizing value number with
  | nil => rfl
  | cons c digits ih =>
    have hc := toNat_of_isDigit (h c List.mem_cons_self)
    have hunderscore : c ≠ '_' := by
      rintro rfl
      exact absurd hc.2 (by decide)
    rw [scanDigits, if_neg hunderscore, if_pos hc, ih fun d hd => h d (List.mem_cons_of_mem c hd),
      Nat.ofDigitChars_cons, List.length_cons, Nat.add_right_comm, Nat.add_assoc]
    rfl

theorem natOfDigits_toDigits {n : ℕ} (h : n < 10 ^ intMaxStrDigits) :
    natOfDigits (Nat.toDigits 10 n) = some n := by
  have hlength : (Nat.toDigits 10 n).length ≤ intMaxStrDigits :=
    Nat.toDigits_length 10 n intMaxStrDigits (by decide) h
  have hscan : scanDigits 0 0 false (Nat.toDigits 10 n) =
      scanDigits 0 0 true (Nat.toDigits 10 n) := by
    cases hdigits : Nat.toDigits 10 n with
    | nil => exact absurd hdigits Nat.toDigits_ne_nil
    | cons c digits =>
      have hc := toNat_of_isDigit (isDigit_of_mem_toDigits (hdigits ▸ List.mem_cons_self))
      have hunderscore : c ≠ '_' := by
        rintro rfl
        exact absurd hc.2 (by decide)
      rw [scanDigits, scanDigits, if_neg hunderscore, if_neg hunderscore]
  rw [natOfDigits, hscan, scanDigits_of_digits fun _ => isDigit_of_mem_toDigits, Option.bind_some,
    Nat.ofDigitChars_toDigits (by decide) (by decide)]
  dsimp only
  rw [Nat.zero_add, if_pos hlength]

/-- Stripping takes a text out of what is stripped around it. -/
theorem stripWhere_append {p : Char → Bool} {l m r : List Char} (hl : ∀ c ∈ l, p c = true)
    (hr : ∀ c ∈ r, p c = true) (hhead : ∀ c, m.head? = some c → p c = false)
    (hlast : ∀ c, m.getLast? = some c → p c = false) : stripWhere p (l ++ m ++ r) = m := by
  have hdrop : ∀ {l m : List Char}, (∀ c ∈ l, p c = true) → (∀ c, m.head? = some c → p c = false) →
      (l ++ m).dropWhile p = m := by
    intro l m hl hm
    induction l with
    | nil =>
      cases m with
      | nil => rfl
      | cons c m => simp [hm c rfl]
    | cons c l ih => simp [hl c List.mem_cons_self, ih fun d hd => hl d (List.mem_cons_of_mem c hd)]
  rcases eq_or_ne m [] with rfl | hne
  · have hall := hdrop (l := l ++ r) (m := []) (by
      intro c hc
      rcases List.mem_append.1 hc with hc | hc
      · exact hl c hc
      · exact hr c hc) (by simp)
    simp only [List.append_nil] at hall ⊢
    simp [stripWhere, hall]
  · have hhead' : ∀ c, (m ++ r).head? = some c → p c = false := by
      obtain ⟨d, m, rfl⟩ := List.exists_cons_of_ne_nil hne
      exact fun c hc => hhead c hc
    have hlast' : ∀ c, m.reverse.head? = some c → p c = false := by
      intro c hc
      rw [List.head?_reverse] at hc
      exact hlast c hc
    rw [stripWhere, List.append_assoc, hdrop hl hhead', List.reverse_append,
      hdrop (by simpa using hr) hlast', List.reverse_reverse]

/-- What is stripped around a text. -/
theorem stripWhere_cases (p : Char → Bool) (s : List Char) :
    ∃ l r, s = l ++ stripWhere p s ++ r ∧ (∀ c ∈ l, p c = true) ∧ (∀ c ∈ r, p c = true) ∧
      (∀ c, (stripWhere p s).head? = some c → p c = false) ∧
      ∀ c, (stripWhere p s).getLast? = some c → p c = false := by
  have hdrop : ∀ t : List Char, ∃ l, t = l ++ t.dropWhile p ∧ (∀ c ∈ l, p c = true) ∧
      ∀ c, (t.dropWhile p).head? = some c → p c = false := by
    refine fun t => ⟨t.takeWhile p, List.takeWhile_append_dropWhile.symm,
      fun c hc => List.mem_takeWhile_imp hc, fun c hc => ?_⟩
    have hhead := List.head?_dropWhile_not p t
    rw [hc] at hhead
    exact hhead
  obtain ⟨l, hl, hfront, hhead⟩ := hdrop s
  obtain ⟨r, hr, hback, hlast⟩ := hdrop (s.dropWhile p).reverse
  have hsplit : s.dropWhile p = stripWhere p s ++ r.reverse := by
    rw [stripWhere, ← List.reverse_append, ← hr, List.reverse_reverse]
  refine ⟨l, r.reverse, ?_, hfront, fun c hc => hback c (List.mem_reverse.1 hc), fun c hc => ?_,
    fun c hc => ?_⟩
  · rw [List.append_assoc, ← hsplit]
    exact hl
  · refine hhead c ?_
    rw [hsplit, List.head?_append, hc, Option.some_or]
  · rw [stripWhere, List.getLast?_reverse] at hc
    exact hlast c hc

theorem strip_strip (s : List Char) : strip (strip s) = strip s := by
  obtain ⟨-, -, -, -, -, hhead, hlast⟩ := stripWhere_cases isSpace s
  have hkeep := stripWhere_append (l := []) (r := []) (fun _ h => absurd h List.not_mem_nil)
    (fun _ h => absurd h List.not_mem_nil) hhead hlast
  rwa [List.nil_append, List.append_nil] at hkeep

/-- A text without characters to skip is not stripped. -/
theorem stripWhere_eq_self {p : Char → Bool} {s : List Char} (h : ∀ c ∈ s, p c = false) :
    stripWhere p s = s := by
  have hdrop : ∀ t : List Char, (∀ c ∈ t, p c = false) → t.dropWhile p = t := by
    intro t ht
    cases t with
    | nil => rfl
    | cons c t =>
      have hc : ¬p c = true := by
        rw [ht c List.mem_cons_self]
        exact Bool.false_ne_true
      rw [List.dropWhile_cons_of_neg hc]
  rw [stripWhere, hdrop s h, hdrop s.reverse fun c hc => h c (List.mem_reverse.1 hc),
    List.reverse_reverse]

theorem isSpace_of_isDigit {c : Char} (h : isDigit c = true) : isSpace c = false := by
  have hfree : ∀ n < 0x3a, 0x30 ≤ n → isSpace (Char.ofNat n) = false := by decide
  obtain ⟨hle, hlt⟩ := toNat_of_isDigit h
  have hspace := hfree c.toNat hlt hle
  rwa [Char.ofNat_toNat] at hspace

theorem isIntSpace_of_isDigit {c : Char} (h : isDigit c = true) : isIntSpace c = false := by
  have hc := toNat_of_isDigit h
  have hblank : c ≠ ' ' := by
    rintro rfl
    exact absurd hc.1 (by decide)
  have hcontrol : ¬(0x9 ≤ c.toNat ∧ c.toNat ≤ 0xd) := by omega
  rw [isIntSpace, decide_eq_false hblank, Bool.false_or, ← Bool.decide_and, decide_eq_false hcontrol]

theorem intChar_of_isDigit {c : Char} (h : isDigit c = true) : intChar c = c := by
  have hc := toNat_of_isDigit h
  rw [intChar, if_pos (by omega)]

/-- `int(str(n)) == n`, for an `n` that is not too long. -/
theorem int_toString {n : ℤ} (h : n.natAbs < 10 ^ intMaxStrDigits) : int (toString n) = some n := by
  have hplain : ∀ c ∈ (toString n).toList, intChar c = c ∧ isIntSpace c = false := by
    intro c hc
    rw [toList_toString] at hc
    split_ifs at hc
    · have hdigit := isDigit_of_mem_toDigits hc
      exact ⟨intChar_of_isDigit hdigit, isIntSpace_of_isDigit hdigit⟩
    · rcases List.mem_cons.1 hc with rfl | hc
      · decide
      · have hdigit := isDigit_of_mem_toDigits hc
        exact ⟨intChar_of_isDigit hdigit, isIntSpace_of_isDigit hdigit⟩
  have hmap : (toString n).toList.map intChar = (toString n).toList :=
    (List.map_congr_left fun c hc => (hplain c hc).1).trans (List.map_id _)
  rw [int, hmap, stripWhere_eq_self fun c hc => (hplain c hc).2, toList_toString]
  split_ifs with hn
  · have hread := natOfDigits_toDigits (n := n.toNat) (by omega)
    have hint : Int.ofNat n.toNat = n := Int.toNat_of_nonneg hn
    split
    · rename_i digits heq
      have hdigit := isDigit_of_mem_toDigits (heq ▸ List.mem_cons_self)
      cases hdigit
    · rename_i digits heq
      have hdigit := isDigit_of_mem_toDigits (heq ▸ List.mem_cons_self)
      cases hdigit
    · rw [hread, Option.map_some, hint]
  · have hread := natOfDigits_toDigits (n := (-n).toNat) (by omega)
    have hint : -((-n).toNat : ℤ) = n := by omega
    change (natOfDigits (Nat.toDigits 10 (-n).toNat)).map (fun n => -Int.ofNat n) = some n
    rw [hread, Option.map_some]
    exact congrArg some hint

/-- Integers with the same text are the same. -/
theorem toString_inj {m n : ℤ} (h : (toString m).toList = (toString n).toList) : m = n := by
  have hne : ∀ k : ℕ, ∀ s : List Char, '-' :: s ≠ Nat.toDigits 10 k := fun k s hs => by
    cases isDigit_of_mem_toDigits (hs ▸ List.mem_cons_self)
  have hinj : ∀ k l : ℕ, Nat.toDigits 10 k = Nat.toDigits 10 l → k = l := fun k l hkl => by
    rw [← Nat.ofDigitChars_ten_toDigits (n := k), hkl, Nat.ofDigitChars_ten_toDigits]
  rw [toList_toString, toList_toString] at h
  split_ifs at h
  · have heq := hinj _ _ h
    omega
  · exact absurd h.symm (hne _ _)
  · exact absurd h (hne _ _)
  · have heq := hinj _ _ (List.cons.inj h).2
    omega

/-! ## Bytes -/

/-- The bytes of an array from an index on, after those before it. -/
theorem toList_loop (bytes : ByteArray) (i : ℕ) (before : List UInt8) :
    ByteArray.toList.loop bytes i before = before.reverse ++ bytes.data.toList.drop i := by
  have hsize : bytes.data.toList.length = bytes.size := by
    rw [Array.length_toList, ByteArray.size_data]
  fun_induction ByteArray.toList.loop bytes i before with
  | case1 i before hi ih =>
    have hi' : i < bytes.data.toList.length := by omega
    have hget : bytes.get! i = bytes.data.toList[i] := by
      rw [Array.getElem_toList]
      exact getElem!_pos bytes.data i hi
    rw [ih, List.reverse_cons, List.append_assoc, List.singleton_append, hget,
      List.getElem_cons_drop]
  | case2 i before hi => rw [List.drop_eq_nil_of_le (by omega), List.append_nil]

/-- Strings with the same bytes in UTF-8 are the same. -/
theorem utf8_inj {s t : String} (h : s.toUTF8.toList = t.toUTF8.toList) : s = t := by
  rw [ByteArray.toList, ByteArray.toList, toList_loop, toList_loop] at h
  rw [← String.toByteArray_inj]
  exact ByteArray.ext (Array.toList_inj.1 h)

end Py
