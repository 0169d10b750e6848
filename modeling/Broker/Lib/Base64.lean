import Mathlib.Data.List.Basic
import Mathlib.Data.List.TakeWhile
import Mathlib.Tactic.Cases

/-!
# Base64

The URL-safe encoding of `base64.urlsafe_b64encode`: three bytes to four
characters, the last group padded with `=`, and the unpadded form that is left
by `.rstrip(b"=")`. Also the lenient decoding of `base64.urlsafe_b64decode`, which
decodes what was encoded (`decode_encode`).
-/

namespace Base64

/-- The URL-safe alphabet. -/
def alphabet : List Char :=
  "ABCDEFGHIJKLMNOPQRSTUVWXYZabcdefghijklmnopqrstuvwxyz0123456789-_".toList

/-- The character of a value below 64. -/
def symbol (n : ℕ) : Char := alphabet.getD n 'A'

/-- `base64.urlsafe_b64encode`. -/
def encode : List UInt8 → List Char
  | a :: b :: c :: bytes =>
    let n := a.toNat * 65536 + b.toNat * 256 + c.toNat
    symbol (n / 262144) :: symbol (n / 4096 % 64) :: symbol (n / 64 % 64) :: symbol (n % 64) ::
      encode bytes
  | [a, b] =>
    let n := a.toNat * 1024 + b.toNat * 4
    [symbol (n / 4096), symbol (n / 64 % 64), symbol (n % 64), '=']
  | [a] => [symbol (a.toNat / 4), symbol (a.toNat * 16 % 64), '=', '=']
  | [] => []

/-- `base64.urlsafe_b64encode(bytes).rstrip(b"=").decode("ascii")`. -/
def encodeUnpadded (bytes : List UInt8) : String :=
  String.ofList ((encode bytes).reverse.dropWhile (· = '=')).reverse

/-- The value of a character of the URL-safe alphabet or of the standard one,
    which is decoded as well. -/
def value? (c : Char) : Option ℕ :=
  if c = '+' then some 62
  else if c = '/' then some 63
  else
    let n := alphabet.findIdx (· = c)
    if n < 64 then some n else none

/-- The decoding after `quad` characters of a group of four, of which `left` is
    not yet part of a byte, and after `pads` characters of padding. Characters
    outside the alphabet are skipped, and what follows the padding of a group is
    not looked at. -/
def decodeFrom (quad left pads : ℕ) : List Char → Option (List UInt8)
  | [] => if quad = 0 then some [] else none
  | c :: cs =>
    if c = '=' then
      if 2 ≤ quad ∧ 4 ≤ quad + (pads + 1) then some []
      else decodeFrom quad left (if 2 ≤ quad then pads + 1 else pads) cs
    else
      match value? c with
      | none => decodeFrom quad left pads cs
      | some v =>
        match quad with
        | 0 => decodeFrom 1 v 0 cs
        | 1 => (decodeFrom 2 (v % 16) 0 cs).map (UInt8.ofNat (left * 4 + v / 16) :: ·)
        | 2 => (decodeFrom 3 (v % 4) 0 cs).map (UInt8.ofNat (left * 16 + v / 4) :: ·)
        | _ => (decodeFrom 0 0 0 cs).map (UInt8.ofNat (left * 64 + v) :: ·)

/-- `base64.urlsafe_b64decode`, none for a `ValueError`. -/
def decode (s : List Char) : Option (List UInt8) :=
  if s.all (·.toNat < 128) then decodeFrom 0 0 0 s else none

example :
    encodeUnpadded [0xfb, 0xef, 0xff, 0x00] = "--__AA" ∧
    decode "-+ /_AA==".toList = some [0xfb, 0xef, 0xff, 0x00] ∧
    decode "AAA".toList = none := by decide +kernel

/-! ## The characters of an encoding -/

theorem symbol_mem (n : ℕ) : symbol n ∈ alphabet := by
  rw [symbol, List.getD_eq_getElem?_getD]
  cases h : alphabet[n]? with
  | none => decide
  | some c => exact List.mem_of_getElem? h

/-- The encoding of bytes is in the alphabet, but for its padding. -/
theorem mem_encode {bytes : List UInt8} {c : Char} (h : c ∈ encode bytes) :
    c ∈ alphabet ∨ c = '=' := by
  fun_induction encode bytes with
  | case1 a b d bytes n ih =>
    simp only [List.mem_cons] at h
    rcases h with rfl | rfl | rfl | rfl | h
    · exact .inl (symbol_mem _)
    · exact .inl (symbol_mem _)
    · exact .inl (symbol_mem _)
    · exact .inl (symbol_mem _)
    · exact ih h
  | case2 a b n =>
    simp only [List.mem_cons, List.not_mem_nil, or_false] at h
    rcases h with rfl | rfl | rfl | rfl
    · exact .inl (symbol_mem _)
    · exact .inl (symbol_mem _)
    · exact .inl (symbol_mem _)
    · exact .inr rfl
  | case3 a =>
    simp only [List.mem_cons, List.not_mem_nil, or_false] at h
    rcases h with rfl | rfl | rfl | rfl
    · exact .inl (symbol_mem _)
    · exact .inl (symbol_mem _)
    · exact .inr rfl
    · exact .inr rfl
  | case4 => cases h

/-- The first character of an encoding is in the alphabet. -/
theorem head_encode {bytes : List UInt8} (h : bytes ≠ []) :
    ∃ c cs, encode bytes = c :: cs ∧ c ∈ alphabet := by
  fun_cases encode bytes with
  | case1 => exact ⟨_, _, rfl, symbol_mem _⟩
  | case2 => exact ⟨_, _, rfl, symbol_mem _⟩
  | case3 => exact ⟨_, _, rfl, symbol_mem _⟩
  | case4 => exact absurd rfl h

theorem ascii_encode (bytes : List UInt8) : (encode bytes).all (·.toNat < 128) = true := by
  have halphabet : alphabet.all (·.toNat < 128) = true := by decide
  rw [List.all_eq_true]
  intro c hc
  rcases mem_encode hc with h | rfl
  · exact List.all_eq_true.1 halphabet c h
  · rfl

theorem ascii_encodeUnpadded (bytes : List UInt8) :
    (encodeUnpadded bytes).toList.all (·.toNat < 128) = true := by
  rw [encodeUnpadded, String.toList_ofList, List.all_eq_true]
  intro c hc
  rw [List.mem_reverse] at hc
  have hmem := List.mem_reverse.1 ((List.dropWhile_sublist _).subset hc)
  exact List.all_eq_true.1 (ascii_encode bytes) c hmem

theorem encodeUnpadded_ne_empty {bytes : List UInt8} (h : bytes ≠ []) :
    encodeUnpadded bytes ≠ "" := by
  obtain ⟨c, cs, hencode, hc⟩ := head_encode h
  have hpadding : alphabet.all (· ≠ '=') = true := by decide
  intro hempty
  rw [encodeUnpadded, hencode, List.reverse_cons, List.dropWhile_append,
    ← String.toList_inj, String.toList_ofList, String.toList_empty, List.reverse_eq_nil_iff] at hempty
  split_ifs at hempty
  · have hkept : [c].dropWhile (fun x => decide (x = '=')) = [c] :=
      List.dropWhile_cons_of_neg (by simpa using List.all_eq_true.1 hpadding c hc)
    rw [hkept] at hempty
    cases hempty
  · exact List.cons_ne_nil c [] (List.append_eq_nil_iff.1 hempty).2

/-! ## Decoding an encoding -/

theorem value?_symbol {n : ℕ} (h : n < 64) : symbol n ≠ '=' ∧ value? (symbol n) = some n := by
  have hall : ∀ n : Fin 64, symbol n ≠ '=' ∧ value? (symbol n) = some n.val := by decide +kernel
  exact hall ⟨n, h⟩

section

variable {v : ℕ} (h : v < 64) (left pads : ℕ) (cs : List Char)
include h

theorem decodeFrom_first : decodeFrom 0 left pads (symbol v :: cs) = decodeFrom 1 v 0 cs := by
  rw [decodeFrom, if_neg (value?_symbol h).1, (value?_symbol h).2]
  rfl

theorem decodeFrom_second : decodeFrom 1 left pads (symbol v :: cs) =
    (decodeFrom 2 (v % 16) 0 cs).map (UInt8.ofNat (left * 4 + v / 16) :: ·) := by
  rw [decodeFrom, if_neg (value?_symbol h).1, (value?_symbol h).2]
  rfl

theorem decodeFrom_third : decodeFrom 2 left pads (symbol v :: cs) =
    (decodeFrom 3 (v % 4) 0 cs).map (UInt8.ofNat (left * 16 + v / 4) :: ·) := by
  rw [decodeFrom, if_neg (value?_symbol h).1, (value?_symbol h).2]
  rfl

theorem decodeFrom_fourth : decodeFrom 3 left pads (symbol v :: cs) =
    (decodeFrom 0 0 0 cs).map (UInt8.ofNat (left * 64 + v) :: ·) := by
  rw [decodeFrom, if_neg (value?_symbol h).1, (value?_symbol h).2]
  rfl

end

/-- The byte of that value. -/
theorem ofNat_eq {b : UInt8} {n : ℕ} (h : n = b.toNat) : UInt8.ofNat n = b := by
  rw [h, UInt8.ofNat_toNat]

/-- What is encoded is decoded. -/
theorem decode_encode (bytes : List UInt8) : decode (encode bytes) = some bytes := by
  have hascii := ascii_encode bytes
  rw [decode, if_pos hascii]
  fun_induction encode bytes with
  | case1 a b c bytes n ih =>
    have ha := a.toNat_lt
    have hb := b.toNat_lt
    have hc := c.toNat_lt
    have hrest : (encode bytes).all (·.toNat < 128) = true := by
      simp only [List.all_cons, Bool.and_eq_true] at hascii
      exact hascii.2.2.2.2
    rw [decodeFrom_first (by omega), decodeFrom_second (by omega), decodeFrom_third (by omega),
      decodeFrom_fourth (by omega), ih hrest, ofNat_eq (b := a) (by omega),
      ofNat_eq (b := b) (by omega), ofNat_eq (b := c) (by omega)]
    rfl
  | case2 a b n =>
    have ha := a.toNat_lt
    have hb := b.toNat_lt
    rw [decodeFrom_first (by omega), decodeFrom_second (by omega), decodeFrom_third (by omega),
      ofNat_eq (b := a) (by omega), ofNat_eq (b := b) (by omega)]
    rfl
  | case3 a =>
    have ha := a.toNat_lt
    rw [decodeFrom_first (by omega), decodeFrom_second (by omega), ofNat_eq (b := a) (by omega)]
    rfl
  | case4 => rfl

/-- An encoding is a text without padding and at most two characters of it. -/
theorem encode_eq (bytes : List UInt8) : ∃ body k, encode bytes = body ++ List.replicate k '=' ∧
    k ≤ 2 ∧ (body.length + k) % 4 = 0 ∧ '=' ∉ body ∧ body.length = (4 * bytes.length + 2) / 3 := by
  have hsymbol : ∀ n, '=' ≠ symbol n := fun n h => by
    have hmem := symbol_mem n
    rw [← h] at hmem
    exact absurd hmem (by decide)
  fun_induction encode bytes with
  | case1 a b c bytes n ih =>
    obtain ⟨body, k, hencode, hk, hpadded, hfree, hlength⟩ := ih
    refine ⟨symbol (n / 262144) :: symbol (n / 4096 % 64) :: symbol (n / 64 % 64) ::
      symbol (n % 64) :: body, k, by rw [hencode]; rfl, hk, ?_, by simp [hsymbol, hfree], ?_⟩
    · simp only [List.length_cons]
      omega
    · simp only [List.length_cons]
      omega
  | case2 a b n =>
    exact ⟨[symbol (n / 4096), symbol (n / 64 % 64), symbol (n % 64)], 1, rfl, by decide, by simp,
      by simp [hsymbol], by simp⟩
  | case3 a =>
    exact ⟨[symbol (a.toNat / 4), symbol (a.toNat * 16 % 64)], 2, rfl, by decide, by simp,
      by simp [hsymbol], by simp⟩
  | case4 => exact ⟨[], 0, rfl, by decide, rfl, List.not_mem_nil, rfl⟩

/-- The padding that is stripped is the one that completes the last group. -/
theorem encode_eq_encodeUnpadded (bytes : List UInt8) :
    ∃ k, encode bytes = (encodeUnpadded bytes).toList ++ List.replicate k '=' ∧ k ≤ 2 ∧
      ((encodeUnpadded bytes).toList.length + k) % 4 = 0 ∧
      (encodeUnpadded bytes).toList.length = (4 * bytes.length + 2) / 3 ∧
      '=' ∉ (encodeUnpadded bytes).toList := by
  obtain ⟨body, k, hencode, hk, hpadded, hfree, hlength⟩ := encode_eq bytes
  have hbody : (encodeUnpadded bytes).toList = body := by
    rw [encodeUnpadded, String.toList_ofList, hencode, List.reverse_append, List.reverse_replicate,
      List.dropWhile_append_of_pos (by simp), List.dropWhile_eq_self_iff.2, List.reverse_reverse]
    intro h
    simp only [decide_eq_true_eq]
    intro heq
    exact hfree (List.mem_reverse.1 (heq ▸ List.getElem_mem h))
  rw [hbody]
  exact ⟨k, hencode, hk, hpadded, hlength, hfree⟩

theorem encodeUnpadded_pad (bytes : List UInt8) :
    (encodeUnpadded bytes).toList ++
      List.replicate ((4 - (encodeUnpadded bytes).toList.length % 4) % 4) '=' = encode bytes := by
  obtain ⟨k, hencode, hk, hpadded, -, -⟩ := encode_eq_encodeUnpadded bytes
  have hpad : (4 - (encodeUnpadded bytes).toList.length % 4) % 4 = k := by omega
  rw [hpad, hencode]

/-! ## Unpadded encodings -/

theorem length_encodeUnpadded (bytes : List UInt8) :
    (encodeUnpadded bytes).toList.length = (4 * bytes.length + 2) / 3 := by
  obtain ⟨k, -, -, -, hlength, -⟩ := encode_eq_encodeUnpadded bytes
  exact hlength

/-- An unpadded encoding is in the alphabet. -/
theorem mem_encodeUnpadded {bytes : List UInt8} {c : Char} (h : c ∈ (encodeUnpadded bytes).toList) :
    c ∈ alphabet := by
  obtain ⟨k, hencode, -, -, -, hfree⟩ := encode_eq_encodeUnpadded bytes
  have hmem : c ∈ encode bytes := by
    rw [hencode]
    exact List.mem_append_left _ h
  rcases mem_encode hmem with hc | rfl
  · exact hc
  · exact absurd h hfree

/-- Bytes are determined by their unpadded encoding. -/
theorem encodeUnpadded_inj {bytes bytes' : List UInt8} :
    encodeUnpadded bytes = encodeUnpadded bytes' ↔ bytes = bytes' := by
  constructor
  · intro h
    have hencode := encodeUnpadded_pad bytes
    rw [h, encodeUnpadded_pad] at hencode
    have hdecode := decode_encode bytes
    rw [← hencode, decode_encode] at hdecode
    exact (Option.some.inj hdecode).symm
  · intro h
    rw [h]

end Base64
