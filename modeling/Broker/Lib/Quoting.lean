import Mathlib.Data.List.SplitBy
import Broker.Lib.Url

/-!
# Quoted text

What `quote_plus` writes is read back by `unquote_plus` (`unquotePlus_quotePlus`):
the text is quoted byte by byte, and its characters are decoded from the bytes
(`decodeReplace_utf8`). So are the pairs of a query string (`parseQsl_urlencode`).
-/

namespace Url

open Py

/-! ## Bytes -/

/-- The bytes of a text are those of its characters. -/
theorem utf8_eq (s : List Char) : utf8 s = s.flatMap String.utf8EncodeChar := by
  rw [utf8, String.toUTF8_eq_toByteArray, String.toByteArray_ofList, List.utf8Encode, ByteArray.toList,
    toList_loop]
  simp

theorem decodeStep_complete (lo hi acc count : ℕ) (s : List UInt8) :
    decodeStep.go 0 lo hi acc count s = (some (Char.ofNat acc), count) := by
  cases s <;> rfl

theorem decodeStep_continue {need lo hi : ℕ} (acc count : ℕ) {b : ℕ} (hb : lo ≤ b ∧ b ≤ hi)
    (byte : b < 256) (s : List UInt8) :
    decodeStep.go (need + 1) lo hi acc count (UInt8.ofNat b :: s) =
      decodeStep.go need 0x80 0xbf (acc * 64 + (b - 0x80)) (count + 1) s := by
  rw [decodeStep.go, UInt8.toNat_ofNat_of_lt' byte, if_pos hb]

theorem decodeStep_lead1 {n : ℕ} (h : n < 0x80) (bs : List UInt8) :
    decodeStep (UInt8.ofNat n :: bs) = (some (Char.ofNat n), 1) := by
  rw [decodeStep, UInt8.toNat_ofNat_of_lt' (by omega : n < 256)]
  dsimp only
  rw [if_pos h]
  exact decodeStep_complete 0 0 n 1 bs

theorem decodeStep_lead2 {n : ℕ} (h : 0xc2 ≤ n) (h' : n < 0xe0) (bs : List UInt8) :
    decodeStep (UInt8.ofNat n :: bs) = decodeStep.go 1 0x80 0xbf (n - 0xc0) 1 bs := by
  rw [decodeStep, UInt8.toNat_ofNat_of_lt' (by omega : n < 256)]
  dsimp only
  rw [if_neg (by omega : ¬n < 0x80), if_neg (not_lt.2 h), if_pos h']
  rfl

theorem decodeStep_lead3 {n : ℕ} (h : 0xe0 ≤ n) (h' : n < 0xf0) (bs : List UInt8) :
    decodeStep (UInt8.ofNat n :: bs) = decodeStep.go 2 (if n = 0xe0 then 0xa0 else 0x80)
      (if n = 0xed then 0x9f else 0xbf) (n - 0xe0) 1 bs := by
  rw [decodeStep, UInt8.toNat_ofNat_of_lt' (by omega : n < 256)]
  dsimp only
  rw [if_neg (by omega : ¬n < 0x80), if_neg (by omega : ¬n < 0xc2), if_neg (not_lt.2 h), if_pos h']
  rfl

theorem decodeStep_lead4 {n : ℕ} (h : 0xf0 ≤ n) (h' : n < 0xf5) (bs : List UInt8) :
    decodeStep (UInt8.ofNat n :: bs) = decodeStep.go 3 (if n = 0xf0 then 0x90 else 0x80)
      (if n = 0xf4 then 0x8f else 0xbf) (n - 0xf0) 1 bs := by
  rw [decodeStep, UInt8.toNat_ofNat_of_lt' (by omega : n < 256)]
  dsimp only
  rw [if_neg (by omega : ¬n < 0x80), if_neg (by omega : ¬n < 0xc2), if_neg (by omega : ¬n < 0xe0),
    if_neg (not_lt.2 h), if_pos h']
  rfl

/-- A character is decoded from its bytes, whatever follows them. -/
theorem decodeStep_encodeChar (c : Char) (rest : List UInt8) :
    decodeStep (String.utf8EncodeChar c ++ rest) = (some c, (String.utf8EncodeChar c).length) := by
  have hval : Char.ofNat c.val.toNat = c := Char.ofNat_toNat c
  have hrange : c.val.toNat < 0xd800 ∨ 0xdfff < c.val.toNat ∧ c.val.toNat < 0x110000 := c.valid
  rw [String.utf8EncodeChar]
  generalize c.val.toNat = v at *
  by_cases h1 : v ≤ 0x7f
  · rw [if_pos h1, List.cons_append, decodeStep_lead1 (by omega), hval]
    rfl
  rw [if_neg h1]
  by_cases h2 : v ≤ 0x7ff
  · have hv : (v / 64 % 0x20 + 0xc0 - 0xc0) * 64 + (v % 0x40 + 0x80 - 0x80) = v := by omega
    rw [if_pos h2, List.cons_append, decodeStep_lead2 (by omega) (by omega), List.cons_append,
      decodeStep_continue _ _ (by omega) (by omega), decodeStep_complete, hv, hval]
    rfl
  rw [if_neg h2]
  by_cases h3 : v ≤ 0xffff
  · have hv : ((v / 4096 % 0x10 + 0xe0 - 0xe0) * 64 + (v / 64 % 0x40 + 0x80 - 0x80)) * 64 +
        (v % 0x40 + 0x80 - 0x80) = v := by omega
    rw [if_pos h3, List.cons_append, decodeStep_lead3 (by omega) (by omega), List.cons_append,
      decodeStep_continue _ _ (by split_ifs <;> omega) (by omega), List.cons_append,
      decodeStep_continue _ _ (by omega) (by omega), decodeStep_complete, hv, hval]
    rfl
  · have hv : (((v / 262144 % 0x08 + 0xf0 - 0xf0) * 64 + (v / 4096 % 0x40 + 0x80 - 0x80)) * 64 +
        (v / 64 % 0x40 + 0x80 - 0x80)) * 64 + (v % 0x40 + 0x80 - 0x80) = v := by omega
    rw [if_neg h3, List.cons_append, decodeStep_lead4 (by omega) (by omega), List.cons_append,
      decodeStep_continue _ _ (by split_ifs <;> omega) (by omega), List.cons_append,
      decodeStep_continue _ _ (by omega) (by omega), List.cons_append,
      decodeStep_continue _ _ (by omega) (by omega), decodeStep_complete, hv, hval]
    rfl

theorem length_encodeChar_pos (c : Char) : 0 < (String.utf8EncodeChar c).length :=
  List.length_pos_iff.2 String.utf8EncodeChar_ne_nil

/-- The characters of a text are decoded from its bytes. -/
theorem decodeReplace_utf8 {s : List Char} {fuel : ℕ} (h : (utf8 s).length ≤ fuel) :
    decodeReplace fuel (utf8 s) = s := by
  rw [utf8_eq] at h ⊢
  induction s generalizing fuel with
  | nil => cases fuel <;> rfl
  | cons c s ih =>
    have hpos := length_encodeChar_pos c
    rw [List.flatMap_cons, List.length_append] at h
    obtain ⟨fuel, rfl⟩ : ∃ n, fuel = n + 1 := Nat.exists_eq_add_one.2 (by omega)
    obtain ⟨b, bs, hbs⟩ := List.exists_cons_of_ne_nil (@String.utf8EncodeChar_ne_nil c)
    have hstep := decodeStep_encodeChar c (s.flatMap String.utf8EncodeChar)
    rw [List.flatMap_cons]
    rw [hbs, List.cons_append] at hstep ⊢
    rw [decodeReplace, hstep, ← List.cons_append]
    dsimp only
    rw [List.drop_left]
    · rw [ih (by omega)]
      rfl
    · intro hnil
      cases hnil

/-- `bytes.decode("utf-8")`; none for a `UnicodeDecodeError`. -/
def decodeUtf8 (bytes : List UInt8) : Option (List Char) :=
  (String.fromUTF8? ⟨bytes.toArray⟩).map String.toList

theorem toByteArray_eq_iff {bytes : List UInt8} {s : List Char} :
    (⟨bytes.toArray⟩ : ByteArray) = (String.ofList s).toByteArray ↔ bytes = utf8 s := by
  have hutf8 : utf8 s = (String.ofList s).toByteArray.data.toList := by
    rw [utf8, String.toUTF8_eq_toByteArray, ByteArray.toList, toList_loop]
    rfl
  rw [hutf8, ByteArray.ext_iff, ← Array.toList_inj]

/-- Bytes are decoded to the text they are those of. -/
theorem decodeUtf8_eq_some_iff {bytes : List UInt8} {s : List Char} :
    decodeUtf8 bytes = some s ↔ bytes = utf8 s := by
  rw [← toByteArray_eq_iff, decodeUtf8, String.fromUTF8?]
  constructor
  · intro h
    split_ifs at h with hvalid
    · have hs : (String.fromUTF8 ⟨bytes.toArray⟩ hvalid).toList = s := Option.some.inj h
      rw [← hs, String.ofList_toList]
      rfl
    · cases h
  · intro h
    have hvalid : (String.ofList s).toByteArray.IsValidUTF8 := (String.ofList s).isValidUTF8
    rw [h, dif_pos hvalid]
    exact congrArg some String.toList_ofList

theorem decodeUtf8_utf8 (s : List Char) : decodeUtf8 (utf8 s) = some s :=
  decodeUtf8_eq_some_iff.2 rfl

/-! ## Quoting -/

/-- The quoted text of a byte. -/
def quoteByte (b : UInt8) : List Char :=
  if isUnreserved b then [Char.ofNat b.toNat]
  else if b = 0x20 then ['+']
  else ['%', hexUpper (b.toNat / 16), hexUpper (b.toNat % 16)]

theorem quotePlus_eq (s : List Char) : quotePlus s = (utf8 s).flatMap quoteByte := rfl

/-- A blank for a plus, as `unquote_plus` reads it. -/
def plusToSpace (c : Char) : Char := if c = '+' then ' ' else c

/-- The characters of quoted text. -/
def isQuoteChar (c : Char) : Bool :=
  isLetter c || isDigit c || ['_', '.', '-', '~', '+', '%'].contains c

theorem forall_byte {p : UInt8 → Prop} (h : ∀ n < 256, p (UInt8.ofNat n)) (b : UInt8) : p b := by
  have hb := h b.toNat b.toNat_lt_size
  rwa [UInt8.ofNat_toNat] at hb

theorem isQuoteChar_of_mem_quoteByte {b : UInt8} : ∀ c ∈ quoteByte b, isQuoteChar c = true :=
  List.all_eq_true.1 (forall_byte (p := fun b => (quoteByte b).all isQuoteChar = true)
    (by decide +kernel) b)

theorem isQuoteChar_of_mem_quotePlus {s : List Char} {c : Char} (h : c ∈ quotePlus s) :
    isQuoteChar c = true := by
  rw [quotePlus_eq, List.mem_flatMap] at h
  obtain ⟨b, -, hc⟩ := h
  exact isQuoteChar_of_mem_quoteByte c hc

theorem hexDigit?_hexUpper : ∀ n < 16, hexDigit? (hexUpper n) = some n := by decide

theorem unquoteBytes_cons {c : Char} (h : c ≠ '%') (cs : List Char) :
    unquoteBytes (c :: cs) = utf8 [c] ++ unquoteBytes cs := by
  rw [unquoteBytes.eq_def]
  split
  · rename_i heq
    cases heq
    exact absurd rfl h
  · rename_i heq
    cases heq
    rfl
  · rename_i heq
    cases heq

/-- A byte is read back from its quoted text. -/
theorem unquoteBytes_quoteByte (b : UInt8) (rest : List Char) :
    unquoteBytes ((quoteByte b).map plusToSpace ++ rest) = b :: unquoteBytes rest := by
  -- Unreserved bytes are characters of their own, and neither `%` nor `+`.
  have hplain : isUnreserved b = true → Char.ofNat b.toNat ≠ '%' ∧
      plusToSpace (Char.ofNat b.toNat) = Char.ofNat b.toNat ∧
      String.utf8EncodeChar (Char.ofNat b.toNat) = [b] :=
    forall_byte (p := fun b => isUnreserved b = true → Char.ofNat b.toNat ≠ '%' ∧
      plusToSpace (Char.ofNat b.toNat) = Char.ofNat b.toNat ∧
      String.utf8EncodeChar (Char.ofNat b.toNat) = [b]) (by decide +kernel) b
  rw [quoteByte]
  split_ifs with hb hspace
  · obtain ⟨hne, hsame, hbyte⟩ := hplain hb
    rw [List.map_cons, hsame, List.map_nil, List.cons_append, List.nil_append,
      unquoteBytes_cons hne, utf8_eq, List.flatMap_singleton, hbyte]
    rfl
  · subst hspace
    rw [List.map_cons, List.map_nil, List.cons_append, List.nil_append]
    change unquoteBytes (' ' :: rest) = _
    rw [unquoteBytes_cons (by decide), utf8_eq]
    rfl
  · have hlt : b.toNat < 256 := b.toNat_lt_size
    have hhex : ∀ n < 16, plusToSpace (hexUpper n) = hexUpper n := by decide
    have hhi : b.toNat / 16 < 16 := by omega
    have hlo : b.toNat % 16 < 16 := by omega
    have hbyte : UInt8.ofNat (b.toNat / 16 * 16 + b.toNat % 16) = b := by
      rw [Nat.div_add_mod' b.toNat 16, UInt8.ofNat_toNat]
    simp only [List.map_cons, List.map_nil, hhex _ hhi, hhex _ hlo, List.cons_append,
      List.nil_append]
    change unquoteBytes ('%' :: _ :: _ :: rest) = _
    rw [unquoteBytes, hexDigit?_hexUpper _ hhi, hexDigit?_hexUpper _ hlo]
    dsimp only
    rw [hbyte]

theorem unquoteBytes_quoted (bs : List UInt8) :
    unquoteBytes ((bs.flatMap quoteByte).map plusToSpace) = bs := by
  induction bs with
  | nil => rfl
  | cons b bs ih => rw [List.flatMap_cons, List.map_append, unquoteBytes_quoteByte, ih]

/-- ASCII text is unquoted through its bytes. -/
theorem unquote_of_ascii {s : List Char} (ascii : isAscii s = true) :
    unquote s = decodeReplace (unquoteBytes s).length (unquoteBytes s) := by
  rw [unquote]
  cases hpercent : s.contains '%' with
  | false =>
    -- Nothing is escaped, so the bytes are those of the text.
    have hbytes : unquoteBytes s = utf8 s := by
      clear ascii
      induction s with
      | nil => rw [unquoteBytes, utf8_eq, List.flatMap_nil]
      | cons c s ih =>
        rw [List.contains_cons, Bool.or_eq_false_iff] at hpercent
        rw [unquoteBytes_cons (beq_eq_false_iff_ne.1 hpercent.1).symm, ih hpercent.2, utf8_eq, utf8_eq,
          utf8_eq, ← List.flatMap_append]
        rfl
    rw [hbytes, decodeReplace_utf8 (le_refl _)]
    rfl
  | true =>
    have hall := List.all_eq_true.1 ascii
    have hne : s ≠ [] := by
      rintro rfl
      cases hpercent
    -- A text in ASCII is one run.
    have hruns : s.splitBy (fun a b => (a.toNat < 128) == (b.toNat < 128)) = [s] := by
      refine List.splitBy_of_isChain hne (List.Pairwise.isChain ?_)
      refine List.pairwise_of_forall_mem_list fun a ha b hb => ?_
      rw [hall a ha, hall b hb]
      rfl
    rw [hruns, if_neg (by decide), List.flatMap_singleton,
      if_pos ascii]

/-- Quoted text is read back. -/
theorem unquotePlus_quotePlus (s : List Char) : unquotePlus (quotePlus s) = s := by
  have hascii : isAscii ((quotePlus s).map plusToSpace) = true := by
    refine List.all_eq_true.2 fun c hc => ?_
    obtain ⟨c', hc', rfl⟩ := List.mem_map.1 hc
    rw [quotePlus_eq, List.mem_flatMap] at hc'
    obtain ⟨b, -, hc'⟩ := hc'
    exact List.all_eq_true.1 (forall_byte
      (p := fun b => (quoteByte b).all (fun c => decide ((plusToSpace c).toNat < 128)) = true)
      (by decide +kernel) b) c' hc'
  change unquote ((quotePlus s).map plusToSpace) = s
  rw [unquote_of_ascii hascii, quotePlus_eq, unquoteBytes_quoted, decodeReplace_utf8 (le_refl _)]

/-! ## Query strings -/

theorem notMem_quotePlus {c : Char} (h : isQuoteChar c = false) (s : List Char) :
    c ∉ quotePlus s := fun hc => by
  rw [isQuoteChar_of_mem_quotePlus hc] at h
  cases h

/-- The pairs of a query string are read back, blank ones too. -/
theorem parseQsl_urlencode (pairs : List (String × String)) : parseQsl (urlencode pairs) = pairs := by
  have hencode : urlencode pairs = ['&'].intercalate
      (pairs.map fun pair => quotePlus pair.1.toList ++ '=' :: quotePlus pair.2.toList) := rfl
  rw [hencode]
  generalize hpieces : (pairs.map fun pair => quotePlus pair.1.toList ++ '=' :: quotePlus pair.2.toList) =
    pieces
  -- Quoting escapes `&` and `=`, so the pieces are cut where they were joined.
  have hpiece : ∀ piece ∈ pieces, '&' ∉ piece ∧ piece ≠ [] := by
    intro piece hmem
    rw [← hpieces, List.mem_map] at hmem
    obtain ⟨⟨k, v⟩, -, rfl⟩ := hmem
    refine ⟨?_, List.append_ne_nil_of_right_ne_nil _ (List.cons_ne_nil _ _)⟩
    rw [List.mem_append, List.mem_cons, not_or, not_or]
    exact ⟨notMem_quotePlus (by decide) _, by decide, notMem_quotePlus (by decide) _⟩
  have hsplit : ((['&'].intercalate pieces).splitOn '&').filter (!·.isEmpty) = pieces := by
    cases pieces with
    | nil => rfl
    | cons piece pieces =>
      rw [List.splitOn_intercalate '&' (fun p hp => (hpiece p hp).1) (List.cons_ne_nil _ _)]
      refine List.filter_eq_self.2 fun p hp => ?_
      cases p with
      | nil => exact absurd rfl (hpiece _ hp).2
      | cons _ _ => rfl
  rw [parseQsl, hsplit, ← hpieces, List.map_map]
  refine (List.map_congr_left fun pair _ => ?_).trans (List.map_id pairs)
  obtain ⟨k, v⟩ := pair
  dsimp only [Function.comp]
  rw [partition_append (notMem_quotePlus (by decide) _)]
  dsimp only
  rw [unquotePlus_quotePlus, unquotePlus_quotePlus, String.ofList_toList, String.ofList_toList]
  rfl

end Url
