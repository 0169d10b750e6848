import Broker.Lib.JsonText

/-!
# JSON bytes

`json.loads` of bytes, which are decoded first: in UTF-8, UTF-16 or UTF-32, as
their first bytes tell (`json.detect_encoding`), with lone surrogates let pass.

What `dumps` writes for a value without floats is ASCII text, whose bytes are
read back (`loadsBytes_dumps`).
-/

namespace Py

namespace Json

/-! ## Decoding -/

/-- The value of a continuation byte. -/
def continuation? (b : UInt8) : Option ℕ :=
  if b.toNat / 64 = 2 then some (b.toNat % 64) else none

/-- The code points of a text in UTF-8, where surrogates pass. -/
def utf8Points : List UInt8 → Option (List ℕ)
  | [] => some []
  | a :: s =>
    if a.toNat < 0x80 then (utf8Points s).map (a.toNat :: ·)
    else if 0xc2 ≤ a.toNat ∧ a.toNat < 0xe0 then
      match s with
      | b :: s => do
        let b ← continuation? b
        return (a.toNat % 32 * 64 + b) :: (← utf8Points s)
      | _ => none
    else if 0xe0 ≤ a.toNat ∧ a.toNat < 0xf0 then
      match s with
      | b :: c :: s => do
        let point := a.toNat % 16 * 4096 + (← continuation? b) * 64 + (← continuation? c)
        if point < 0x800 then none else return point :: (← utf8Points s)
      | _ => none
    else if 0xf0 ≤ a.toNat ∧ a.toNat < 0xf5 then
      match s with
      | b :: c :: d :: s => do
        let point := a.toNat % 8 * 262144 + (← continuation? b) * 4096 + (← continuation? c) * 64 +
          (← continuation? d)
        if point < 0x10000 ∨ 0x110000 ≤ point then none else return point :: (← utf8Points s)
      | _ => none
    else none

/-- The units of a text in UTF-16. -/
def utf16Units (bigEndian : Bool) : List UInt8 → Option (List ℕ)
  | [] => some []
  | a :: b :: s =>
    let unit := if bigEndian then a.toNat * 256 + b.toNat else b.toNat * 256 + a.toNat
    (utf16Units bigEndian s).map (unit :: ·)
  | _ => none

/-- The code points of a text in UTF-32, where surrogates pass. -/
def utf32Points (bigEndian : Bool) : List UInt8 → Option (List ℕ)
  | [] => some []
  | a :: b :: c :: d :: s =>
    let point :=
      if bigEndian then ((a.toNat * 256 + b.toNat) * 256 + c.toNat) * 256 + d.toNat
      else ((d.toNat * 256 + c.toNat) * 256 + b.toNat) * 256 + a.toNat
    if 0x110000 ≤ point then none else (utf32Points bigEndian s).map (point :: ·)
  | _ => none

/-- `s.decode("utf-8", "surrogatepass")`. -/
def decodeUtf8 (s : List UInt8) : Option (List Char) := (utf8Points s).map (List.map unitChar)

def decodeUtf16 (bigEndian : Bool) (s : List UInt8) : Option (List Char) :=
  (utf16Units bigEndian s).map ofUnits

def decodeUtf32 (bigEndian : Bool) (s : List UInt8) : Option (List Char) :=
  (utf32Points bigEndian s).map (List.map unitChar)

/-- `s.decode(detect_encoding(s), "surrogatepass")`: by a byte order mark, or else
    by the zeros among the first bytes. -/
def decodeDetected : List UInt8 → Option (List Char)
  | 0x00 :: 0x00 :: 0xfe :: 0xff :: s => decodeUtf32 true s
  | 0xff :: 0xfe :: 0x00 :: 0x00 :: s => decodeUtf32 false s
  | 0xfe :: 0xff :: s => decodeUtf16 true s
  | 0xff :: 0xfe :: s => decodeUtf16 false s
  | 0xef :: 0xbb :: 0xbf :: s => decodeUtf8 s
  | a :: b :: c :: d :: s =>
    let bytes := a :: b :: c :: d :: s
    if a = 0 then (if b = 0 then decodeUtf32 else decodeUtf16) true bytes
    else if b = 0 then (if c = 0 ∧ d = 0 then decodeUtf32 else decodeUtf16) false bytes
    else decodeUtf8 bytes
  | [a, b] =>
    if a = 0 then decodeUtf16 true [a, b]
    else if b = 0 then decodeUtf16 false [a, b]
    else decodeUtf8 [a, b]
  | s => decodeUtf8 s

/-- `json.loads` of bytes. -/
def loadsBytes (depth : ℕ) (bytes : List UInt8) : Except LoadsError Json :=
  match decodeDetected bytes with
  | none => .error .value
  | some text => loads depth text

/-! ## ASCII text -/

/-- A character in ASCII that is not a control character. -/
def IsPrintable (c : Char) : Prop := 0x20 ≤ c.toNat ∧ c.toNat < 0x80

instance (c : Char) : Decidable (IsPrintable c) := inferInstanceAs (Decidable (_ ∧ _))

/-- The bytes of a text in UTF-8. -/
def utf8 (s : List Char) : List UInt8 := (String.ofList s).toUTF8.toList

theorem utf8_of_ascii {s : List Char} (h : ∀ c ∈ s, c.toNat < 0x80) :
    utf8 s = s.map fun c => UInt8.ofNat c.toNat := by
  have hencode : s.flatMap String.utf8EncodeChar = s.map fun c => UInt8.ofNat c.toNat := by
    induction s with
    | nil => rfl
    | cons c s ih =>
      rw [List.forall_mem_cons] at h
      have hsize : c.utf8Size = 1 := Char.utf8Size_eq_one_iff.2 (by
        rw [UInt32.le_iff_toNat_le]
        exact Nat.le_of_lt_succ h.1)
      rw [List.flatMap_cons, ih h.2, String.utf8EncodeChar_eq_singleton hsize]
      rfl
  rw [utf8, String.toUTF8_eq_toByteArray, String.toByteArray_ofList, List.utf8Encode, ByteArray.toList,
    toList_loop, hencode]
  simp

theorem utf8Points_cons {a : UInt8} (h : a.toNat < 0x80) (s : List UInt8) :
    utf8Points (a :: s) = (utf8Points s).map (a.toNat :: ·) := by
  conv_lhs => unfold utf8Points
  rw [if_pos h]

theorem unitChar_toNat (c : Char) : unitChar c.toNat = c := by
  have hvalid := toNat_valid c
  rw [unitChar, if_neg, Char.ofNat_toNat]
  simp only [isHigh, isLow, Bool.or_eq_true, Bool.and_eq_true, decide_eq_true_eq]
  omega

set_option linter.auxLemma false in
/-- Bytes of ASCII text without control characters are read as UTF-8. -/
theorem decodeDetected_eq {bytes : List UInt8} (h : ∀ b ∈ bytes, 0 < b.toNat ∧ b.toNat < 0x80) :
    decodeDetected bytes = decodeUtf8 bytes := by
  have hne : ∀ b ∈ bytes, b ≠ 0 ∧ b ≠ 0xef ∧ b ≠ 0xfe ∧ b ≠ 0xff := by
    intro b hb
    obtain ⟨hpos, hlt⟩ := h b hb
    refine ⟨?_, ?_, ?_, ?_⟩
    · rintro rfl
      exact Nat.lt_irrefl 0 hpos
    all_goals
      rintro rfl
      exact absurd hlt (by decide)
  -- The cases are those of the match, whose tests of a byte all fail. (`split` does not get
  -- through patterns of bytes.)
  delta decodeDetected decodeDetected.match_1
  rcases bytes with _ | ⟨a, _ | ⟨b, _ | ⟨c, _ | ⟨d, s⟩⟩⟩⟩
  · rfl
  · obtain ⟨h0, hef, hfe, hff⟩ := hne a List.mem_cons_self
    simp only [dif_neg h0, dif_neg hef, dif_neg hfe, dif_neg hff]
  all_goals
    obtain ⟨h0, hef, hfe, hff⟩ := hne a List.mem_cons_self
    have hb := (hne b (List.mem_cons_of_mem _ List.mem_cons_self)).1
    simp only [dif_neg h0, dif_neg hef, dif_neg hfe, dif_neg hff, if_neg h0, if_neg hb]

theorem decodeDetected_utf8 {s : List Char} (h : ∀ c ∈ s, IsPrintable c) :
    decodeDetected (utf8 s) = some s := by
  have hbytes := utf8_of_ascii fun c hc => (h c hc).2
  have htoNat : ∀ c ∈ s, (UInt8.ofNat c.toNat).toNat = c.toNat := by
    intro c hc
    rw [UInt8.toNat_ofNat']
    exact Nat.mod_eq_of_lt (lt_trans (h c hc).2 (by decide))
  have hpoints : utf8Points (s.map fun c => UInt8.ofNat c.toNat) = some (s.map Char.toNat) := by
    clear hbytes
    induction s with
    | nil => rfl
    | cons c s ih =>
      rw [List.forall_mem_cons] at h htoNat
      rw [List.map_cons, utf8Points_cons (by rw [htoNat.1]; exact h.1.2), ih h.2 htoNat.2, htoNat.1]
      rfl
  rw [hbytes, decodeDetected_eq, decodeUtf8, hpoints, Option.map_some, List.map_map,
    Option.some.injEq]
  · exact List.map_id'' unitChar_toNat s
  · intro b hb
    obtain ⟨c, hc, rfl⟩ := List.mem_map.1 hb
    rw [htoNat c hc]
    exact ⟨lt_of_lt_of_le (by decide) (h c hc).1, (h c hc).2⟩

/-! ## The text of a value -/

theorem printable_digitChar {n : ℕ} (h : n < 16) : IsPrintable n.digitChar := by
  have hall : ∀ n : Fin 16, IsPrintable n.val.digitChar := by decide
  exact hall ⟨n, h⟩

theorem printable_unicodeEscape (unit : ℕ) : ∀ c ∈ unicodeEscape unit, IsPrintable c := by
  intro c hc
  simp only [unicodeEscape, List.mem_cons, List.not_mem_nil, or_false] at hc
  rcases hc with rfl | rfl | rfl | rfl | rfl | rfl
  · decide
  · decide
  all_goals exact printable_digitChar (Nat.mod_lt _ (by decide))

theorem printable_escapeChar (c : Char) : ∀ d ∈ escapeChar c, IsPrintable d := by
  intro d hd
  rw [escapeChar] at hd
  split at hd
  · rename_i e _ hfind
    have hmem := List.mem_of_find?_eq_some hfind
    have hall : ∀ e ∈ shortEscapes, IsPrintable '\\' ∧ IsPrintable e.1 := by decide
    simp only [List.mem_cons, List.not_mem_nil, or_false] at hd
    rcases hd with rfl | rfl
    · exact (hall _ hmem).1
    · exact (hall _ hmem).2
  · split_ifs at hd with hprintable
    · rw [List.mem_singleton] at hd
      subst hd
      rw [Bool.and_eq_true, decide_eq_true_eq, decide_eq_true_eq, Char.le_def, Char.le_def,
        UInt32.le_iff_toNat_le, UInt32.le_iff_toNat_le] at hprintable
      exact ⟨hprintable.1, lt_of_le_of_lt hprintable.2 (by decide)⟩
    · obtain ⟨unit, -, hd⟩ := List.mem_flatMap.1 hd
      exact printable_unicodeEscape unit d hd

theorem printable_dumpString (s : List Char) : ∀ c ∈ dumpString s, IsPrintable c := by
  intro c hc
  rw [dumpString, List.mem_append, List.mem_cons, List.mem_flatMap, List.mem_singleton] at hc
  rcases hc with (rfl | ⟨d, -, hc⟩) | rfl
  · decide
  · exact printable_escapeChar d c hc
  · decide

theorem printable_toString (n : ℤ) : ∀ c ∈ (toString n).toList, IsPrintable c := by
  have hdigit : ∀ m, ∀ c ∈ Nat.toDigits 10 m, IsPrintable c := by
    intro m c hc
    have hc := toNat_of_isDigit (isDigit_of_mem_toDigits hc)
    exact ⟨le_trans (by decide) hc.1, lt_trans hc.2 (by decide)⟩
  intro c hc
  rw [toList_toString] at hc
  split_ifs at hc
  · exact hdigit _ c hc
  · rcases List.mem_cons.1 hc with rfl | hc
    · decide
    · exact hdigit _ c hc

mutual

/-- The text of a value without floats is ASCII without control characters. -/
theorem printable_dumps (repr : Json → String) :
    ∀ {depth : ℕ} {v : Json}, v.Plain depth → ∀ c ∈ dumps repr v, IsPrintable c
  | _, null, _ => by rw [dumps]; exact List.all_iff_forall_prop.1 (by decide)
  | _, bool true, _ => by rw [dumps]; exact List.all_iff_forall_prop.1 (by decide)
  | _, bool false, _ => by rw [dumps]; exact List.all_iff_forall_prop.1 (by decide)
  | _, int n, _ => by
    rw [dumps]
    exact printable_toString n
  | _, str s, _ => by
    rw [dumps]
    exact printable_dumpString _
  | _, float _, h => by simp [Plain] at h
  | 0, list _, h => by simp [Plain] at h
  | 0, dict _, h => by simp [Plain] at h
  | _ + 1, list [], _ => by rw [dumps]; exact List.all_iff_forall_prop.1 (by decide)
  | _ + 1, dict [], _ => by rw [dumps]; exact List.all_iff_forall_prop.1 (by decide)
  | depth + 1, list (v :: vs), h => by
    rw [Plain, PlainItems] at h
    rw [dumps]
    intro c hc
    rcases List.mem_cons.1 hc with rfl | hc
    · decide
    · rcases List.mem_append.1 hc with hc | hc
      · exact printable_dumps repr h.1 c hc
      · exact printable_dumpsItems repr h.2 c hc
  | depth + 1, dict ((k, v) :: es), h => by
    rw [Plain, PlainEntries] at h
    rw [dumps]
    intro c hc
    rcases List.mem_cons.1 hc with rfl | hc
    · decide
    · rcases List.mem_append.1 hc with hc | hc
      · exact printable_dumpString _ c hc
      · rcases List.mem_cons.1 hc with rfl | hc
        · decide
        · rcases List.mem_append.1 hc with hc | hc
          · exact printable_dumps repr h.2.1 c hc
          · exact printable_dumpsEntries repr h.2.2 c hc

theorem printable_dumpsItems (repr : Json → String) :
    ∀ {depth : ℕ} {vs : List Json}, PlainItems depth vs → ∀ c ∈ dumpsItems repr vs, IsPrintable c
  | _, [], _ => by rw [dumpsItems]; exact List.all_iff_forall_prop.1 (by decide)
  | _, v :: vs, h => by
    rw [PlainItems] at h
    rw [dumpsItems]
    intro c hc
    rcases List.mem_cons.1 hc with rfl | hc
    · decide
    · rcases List.mem_append.1 hc with hc | hc
      · exact printable_dumps repr h.1 c hc
      · exact printable_dumpsItems repr h.2 c hc

theorem printable_dumpsEntries (repr : Json → String) :
    ∀ {depth : ℕ} {es : List (String × Json)}, PlainEntries depth es →
      ∀ c ∈ dumpsEntries repr es, IsPrintable c
  | _, [], _ => by rw [dumpsEntries]; exact List.all_iff_forall_prop.1 (by decide)
  | _, (k, v) :: es, h => by
    rw [PlainEntries] at h
    rw [dumpsEntries]
    intro c hc
    rcases List.mem_cons.1 hc with rfl | hc
    · decide
    · rcases List.mem_append.1 hc with hc | hc
      · exact printable_dumpString _ c hc
      · rcases List.mem_cons.1 hc with rfl | hc
        · decide
        · rcases List.mem_append.1 hc with hc | hc
          · exact printable_dumps repr h.1 c hc
          · exact printable_dumpsEntries repr h.2 c hc

end

/-- The bytes of a value's text are read back to it. -/
theorem loadsBytes_dumps (repr : Json → String) {depth : ℕ} {v : Json} (h : v.Plain depth) :
    loadsBytes depth (utf8 (dumps repr v)) = .ok v := by
  rw [loadsBytes, decodeDetected_utf8 (printable_dumps repr h)]
  exact loads_dumps repr h

end Json

end Py
