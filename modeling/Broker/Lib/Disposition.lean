import Broker.Lib.Quoting

/-!
# Content dispositions

The value of a header `Content-Disposition`, as its recipient reads it (RFC 6266): a type,
and parameters with a token or a quoted text for a value, in which a backslash stands for the
character that follows it. The parameter `filename*` has an extended value, percent-encoded
UTF-8, for what `filename` cannot hold.

A quoted text is read as it stands exactly when it has no backslash (`scanQuoted_eq_iff`), and
quoted bytes are read back (`decodeValueChars_quote`).
-/

open Py Url

namespace Disposition

/-! ## Reading -/

/-- The characters of a token. -/
def isTokenChar (c : Char) : Bool :=
  isLetter c || isDigit c || "!#$%&'*+-.^_`|~".toList.contains c

/-- The characters of a quoted text that stand for themselves. -/
def isQuotedChar (c : Char) : Bool :=
  c = '\t' || (' ' ≤ c && c ≤ '~' && c ≠ '"' && c ≠ '\\') || '\x80' ≤ c

/-- The characters that a backslash may precede. -/
def isEscapable (c : Char) : Bool := c = '\t' || (' ' ≤ c && c ≤ '~') || '\x80' ≤ c

/-- Reads a quoted text up to its closing quote. -/
def scanQuoted : List Char → Option (List Char × List Char)
  | [] => none
  | '"' :: s => some ([], s)
  | '\\' :: c :: s =>
    if isEscapable c then (scanQuoted s).map fun (text, s) => (c :: text, s) else none
  | c :: s => if isQuotedChar c then (scanQuoted s).map fun (text, s) => (c :: text, s) else none

/-- Reads a token. -/
def scanToken (s : List Char) : Option (List Char × List Char) :=
  let token := s.takeWhile isTokenChar
  if token.isEmpty then none else some (token, s.dropWhile isTokenChar)

/-- The text without leading blanks. -/
def skipBlanks (s : List Char) : List Char := s.dropWhile fun c => c = ' ' || c = '\t'

/-- Reads the value of a parameter. -/
def scanValue : List Char → Option (List Char × List Char)
  | '"' :: s => scanQuoted s
  | s => scanToken s

/-- Reads the name of a parameter, whose case does not matter, and its value. -/
def scanParam (s : List Char) : Option ((List Char × List Char) × List Char) := do
  let (name, s) ← scanToken (skipBlanks s)
  match skipBlanks s with
  | '=' :: s => do
    let (value, s) ← scanValue (skipBlanks s)
    return ((name.map Char.toLower, value), s)
  | _ => none

/-- Reads the parameters, of which each follows a semicolon; there are at most `fuel`. -/
def scanParams : (fuel : ℕ) → List Char → Option (List (List Char × List Char))
  | fuel, s =>
    match fuel, skipBlanks s with
    | _, [] => some []
    | fuel + 1, ';' :: s => do
      let (param, s) ← scanParam s
      return param :: (← scanParams fuel s)
    | _, _ => none

/-- The characters of an extended value that stand for themselves. -/
def isAttrChar (c : Char) : Bool :=
  isLetter c || isDigit c || "!#$&+-.^_`|~".toList.contains c

/-- The bytes of the characters of an extended value. -/
def decodeValueChars : List Char → Option (List UInt8)
  | [] => some []
  | '%' :: a :: b :: s => do
    let high ← hexDigit? a
    let low ← hexDigit? b
    return UInt8.ofNat (high * 16 + low) :: (← decodeValueChars s)
  | c :: s => if isAttrChar c then (decodeValueChars s).map (UInt8.ofNat c.toNat :: ·) else none

/-- Reads an extended value: a charset, a language and percent-encoded bytes. -/
def decodeExtended (value : List Char) : Option (List Char) :=
  let (charset, _, rest) := partition '\'' value
  let (_, quoted, chars) := partition '\'' rest
  if charset.map Char.toLower = "utf-8".toList ∧ quoted then
    (decodeValueChars chars).bind decodeUtf8
  else none

end Disposition

/-- What a header `Content-Disposition` says. -/
structure Disposition where
  kind : List Char
  filename : Option (List Char)
  extended : Option (List Char)
  deriving DecidableEq

namespace Disposition

/-- Reads a header. A parameter that is given twice makes it invalid. -/
def parse (header : List Char) : Option Disposition := do
  let (kind, s) ← scanToken (skipBlanks header)
  let params ← scanParams s.length s
  if (params.map Prod.fst).Nodup then
    return { kind, filename := params.lookup "filename".toList
             extended := (params.lookup "filename*".toList).bind decodeExtended }
  else none

/-! ## Quoted texts -/

theorem isQuotedChar_ne {c : Char} (h : isQuotedChar c = true) : c ≠ '"' ∧ c ≠ '\\' := by
  constructor <;> rintro rfl <;> revert h <;> decide

theorem scanQuoted_cons {c : Char} (h : isQuotedChar c = true) (s : List Char) :
    scanQuoted (c :: s) = (scanQuoted s).map fun (text, s) => (c :: text, s) := by
  obtain ⟨hquote, hslash⟩ := isQuotedChar_ne h
  rw [scanQuoted.eq_def]
  split
  · rename_i heq
    cases heq
  · rename_i heq
    cases heq
    exact absurd rfl hquote
  · rename_i heq
    cases heq
    exact absurd rfl hslash
  · rename_i heq
    cases heq
    exact if_pos h

/-- A text of characters that stand for themselves is read as it stands. -/
theorem scanQuoted_plain {s : List Char} (h : ∀ c ∈ s, isQuotedChar c = true) (rest : List Char) :
    scanQuoted (s ++ '"' :: rest) = some (s, rest) := by
  induction s with
  | nil => rfl
  | cons c s ih =>
    rw [List.forall_mem_cons] at h
    rw [List.cons_append, scanQuoted_cons h.1, ih h.2]
    rfl

theorem scanQuoted_other {c : Char} (hquote : c ≠ '"') (hslash : c ≠ '\\') (s : List Char) :
    scanQuoted (c :: s) =
      if isQuotedChar c then (scanQuoted s).map fun (text, s) => (c :: text, s) else none :=
  scanQuoted.eq_4 c s hquote fun _ _ h => absurd h hslash

/-- Without a closing quote nothing is read. -/
theorem scanQuoted_open : (s : List Char) → '"' ∉ s → scanQuoted s = none
  | [], _ => rfl
  | c :: s, h => by
    rw [List.mem_cons, not_or] at h
    by_cases hslash : c = '\\'
    · subst hslash
      cases s with
      | nil => rfl
      | cons d s =>
        rw [List.mem_cons, not_or] at h
        rw [scanQuoted, scanQuoted_open s h.2.2]
        split_ifs <;> rfl
    · rw [scanQuoted_other (Ne.symm h.1) hslash, scanQuoted_open s h.2]
      split_ifs <;> rfl

/-- A text is read to one that is shorter by its backslashes. -/
theorem length_scanQuoted : (s : List Char) → {rest text rest' : List Char} → '"' ∉ s →
    '"' ∉ rest → scanQuoted (s ++ '"' :: rest) = some (text, rest') →
      text.length ≤ s.length ∧ ('\\' ∈ s → text.length < s.length)
  | [], _, _, _, _, _, hscan => by
    rw [List.nil_append, scanQuoted, Option.some.injEq, Prod.mk.injEq] at hscan
    obtain ⟨rfl, -⟩ := hscan
    exact ⟨le_refl 0, fun h => absurd h List.not_mem_nil⟩
  | c :: s, rest, text, rest', hs, hrest, hscan => by
    rw [List.mem_cons, not_or] at hs
    by_cases hslash : c = '\\'
    · subst hslash
      cases s with
      | nil =>
        -- The closing quote itself is escaped.
        rw [List.cons_append, List.nil_append, scanQuoted, scanQuoted_open rest hrest,
          Option.map_none, ite_self] at hscan
        cases hscan
      | cons d s =>
        rw [List.mem_cons, not_or] at hs
        rw [List.cons_append, List.cons_append, scanQuoted] at hscan
        split_ifs at hscan
        obtain ⟨⟨text, rest'⟩, htail, heq⟩ := Option.map_eq_some_iff.1 hscan
        rw [Prod.mk.injEq] at heq
        obtain ⟨rfl, rfl⟩ := heq
        have hle := (length_scanQuoted s hs.2.2 hrest htail).1
        simp only [List.length_cons]
        omega
    · rw [List.cons_append, scanQuoted_other (Ne.symm hs.1) hslash] at hscan
      split_ifs at hscan
      obtain ⟨⟨text, rest'⟩, htail, heq⟩ := Option.map_eq_some_iff.1 hscan
      rw [Prod.mk.injEq] at heq
      obtain ⟨rfl, rfl⟩ := heq
      obtain ⟨hle, hlt⟩ := length_scanQuoted s hs.2 hrest htail
      refine ⟨Nat.succ_le_succ hle, fun hmem => Nat.succ_lt_succ (hlt ?_)⟩
      exact (List.mem_cons.1 hmem).resolve_left (Ne.symm hslash)

/-- A text that is put between quotes is read as it stands exactly when it has no backslash. -/
theorem scanQuoted_eq_iff {s rest : List Char} (hs : ∀ c ∈ s, isQuotedChar c = true ∨ c = '\\')
    (hrest : '"' ∉ rest) :
    (∃ rest', scanQuoted (s ++ '"' :: rest) = some (s, rest')) ↔ '\\' ∉ s := by
  have hquote : '"' ∉ s := by
    intro hmem
    obtain hquoted | heq := hs _ hmem
    · exact (isQuotedChar_ne hquoted).1 rfl
    · cases heq
  constructor
  · rintro ⟨rest', hscan⟩ hslash
    exact lt_irrefl _ ((length_scanQuoted s hquote hrest hscan).2 hslash)
  · intro hslash
    refine ⟨rest, scanQuoted_plain (fun c hc => (hs c hc).resolve_right ?_) rest⟩
    rintro rfl
    exact hslash hc

/-! ## Extended values -/

/-- The quoted text of a byte, as `quote(text, safe="")` writes it. -/
def quoteByteStrict (b : UInt8) : List Char :=
  if isUnreserved b then [Char.ofNat b.toNat]
  else ['%', hexUpper (b.toNat / 16), hexUpper (b.toNat % 16)]

theorem decodeValueChars_cons {c : Char} (h : isAttrChar c = true) (s : List Char) :
    decodeValueChars (c :: s) = (decodeValueChars s).map (UInt8.ofNat c.toNat :: ·) := by
  have hpercent : c ≠ '%' := by
    rintro rfl
    revert h
    decide
  rw [decodeValueChars.eq_3 _ _ fun _ _ _ h' => absurd h' hpercent, if_pos h]

/-- Bytes are read back from their quoted text. -/
theorem decodeValueChars_quote (bytes : List UInt8) :
    decodeValueChars (bytes.flatMap quoteByteStrict) = some bytes := by
  have hplain : ∀ b : UInt8, isUnreserved b = true →
      isAttrChar (Char.ofNat b.toNat) = true ∧ (Char.ofNat b.toNat).toNat = b.toNat :=
    forall_byte (by decide +kernel)
  induction bytes with
  | nil => rfl
  | cons b bytes ih =>
    rw [List.flatMap_cons, quoteByteStrict]
    split_ifs with hb
    · obtain ⟨hattr, hbyte⟩ := hplain b hb
      rw [List.cons_append, List.nil_append, decodeValueChars_cons hattr, ih, hbyte,
        UInt8.ofNat_toNat]
      rfl
    · have hlt : b.toNat < 256 := b.toNat_lt_size
      have hbyte : UInt8.ofNat (b.toNat / 16 * 16 + b.toNat % 16) = b := by
        rw [Nat.div_add_mod' b.toNat 16, UInt8.ofNat_toNat]
      rw [List.cons_append, List.cons_append, List.cons_append, List.nil_append, decodeValueChars,
        hexDigit?_hexUpper _ (by omega), hexDigit?_hexUpper _ (by omega), ih]
      change some (UInt8.ofNat (b.toNat / 16 * 16 + b.toNat % 16) :: bytes) = _
      rw [hbyte]

/-- The characters of quoted bytes are those of tokens. -/
theorem isTokenChar_of_mem_quote {bytes : List UInt8} {c : Char}
    (h : c ∈ bytes.flatMap quoteByteStrict) : isTokenChar c = true ∧ c ≠ '\'' := by
  obtain ⟨b, -, hc⟩ := List.mem_flatMap.1 h
  have hall := List.all_eq_true.1 (forall_byte
    (p := fun b => (quoteByteStrict b).all (fun c => isTokenChar c && c ≠ '\'') = true)
    (by decide +kernel) b) c hc
  rw [Bool.and_eq_true, decide_eq_true_eq] at hall
  exact hall

/-- An extended value of a text is read back. -/
theorem decodeExtended_quote (s : List Char) :
    decodeExtended ("UTF-8''".toList ++ (utf8 s).flatMap quoteByteStrict) = some s := by
  have hcharset : ∀ t : List Char, partition '\'' ("UTF-8".toList ++ '\'' :: t) =
      ("UTF-8".toList, true, t) := fun _ => rfl
  have hlanguage : ∀ t : List Char, partition '\'' ('\'' :: t) = ([], true, t) := fun _ => rfl
  have hlower : "UTF-8".toList.map Char.toLower = "utf-8".toList := by decide +kernel
  change decodeExtended ("UTF-8".toList ++ '\'' :: '\'' :: _) = _
  rw [decodeExtended, hcharset]
  dsimp only
  rw [hlanguage, hlower]
  dsimp only
  rw [if_pos ⟨rfl, rfl⟩]
  change (decodeValueChars ((utf8 s).flatMap quoteByteStrict)).bind decodeUtf8 = _
  rw [decodeValueChars_quote, Option.bind_some, decodeUtf8_utf8]

/-! ## Parameters -/

theorem scanToken_append {token rest : List Char} (hne : token ≠ [])
    (htoken : ∀ c ∈ token, isTokenChar c = true)
    (hrest : ∀ c, rest.head? = some c → isTokenChar c = false) :
    scanToken (token ++ rest) = some (token, rest) := by
  have htake : (token ++ rest).takeWhile isTokenChar = token := by
    rw [List.takeWhile_append_of_pos htoken]
    cases rest with
    | nil => rw [List.takeWhile_nil, List.append_nil]
    | cons c rest =>
      rw [List.takeWhile_cons_of_neg (by rw [hrest c rfl]; exact Bool.false_ne_true), List.append_nil]
  have hdrop : (token ++ rest).dropWhile isTokenChar = rest := by
    rw [List.dropWhile_append_of_pos htoken]
    cases rest with
    | nil => rfl
    | cons c rest =>
      rw [List.dropWhile_cons_of_neg (by rw [hrest c rfl]; exact Bool.false_ne_true)]
  rw [scanToken, htake, hdrop]
  exact if_neg (by rwa [List.isEmpty_iff])

theorem scanToken_all {token : List Char} (hne : token ≠ [])
    (htoken : ∀ c ∈ token, isTokenChar c = true) : scanToken token = some (token, []) := by
  have hall := @scanToken_append token [] hne htoken fun _ h => (by cases h)
  rwa [List.append_nil] at hall

theorem skipBlanks_token {token : List Char} (hne : token ≠ [])
    (htoken : ∀ c ∈ token, isTokenChar c = true) (rest : List Char) :
    skipBlanks (token ++ rest) = token ++ rest := by
  obtain ⟨c, token, rfl⟩ := List.exists_cons_of_ne_nil hne
  have hc := htoken c (.head _)
  refine List.dropWhile_cons_of_neg fun hblank => ?_
  rw [Bool.or_eq_true, decide_eq_true_eq, decide_eq_true_eq] at hblank
  obtain rfl | rfl := hblank <;> revert hc <;> decide

theorem scanParams_cons (fuel : ℕ) (s : List Char) :
    scanParams (fuel + 1) (';' :: s) =
      (scanParam s).bind fun (param, s) => (scanParams fuel s).map (param :: ·) := by
  have hskip : skipBlanks (';' :: s) = ';' :: s := rfl
  rw [scanParams.eq_def]
  dsimp only
  rw [hskip]
  change ((scanParam s).bind fun found => _) = _
  cases scanParam s with
  | none => rfl
  | some found =>
    obtain ⟨param, s⟩ := found
    rw [Option.bind_some, Option.bind_some]
    change ((scanParams fuel s).bind fun params => _) = _
    cases scanParams fuel s <;> rfl

theorem scanParam_filename (s : List Char) :
    scanParam (" filename=\"".toList ++ s) =
      (scanQuoted s).map fun (text, s) => (("filename".toList, text), s) := by
  have htoken : scanToken ("filename".toList ++ "=\"".toList ++ s) =
      some ("filename".toList, '=' :: '"' :: s) := by
    rw [List.append_assoc]
    exact scanToken_append (by decide) (List.all_eq_true.1 (by decide)) fun c hc => by cases hc; decide
  have hskip : skipBlanks (" filename=\"".toList ++ s) =
      "filename".toList ++ "=\"".toList ++ s := rfl
  have hlower : "filename".toList.map Char.toLower = "filename".toList := by decide +kernel
  rw [scanParam, hskip, htoken]
  change ((scanQuoted s).bind fun found => _) = _
  cases scanQuoted s with
  | none => rfl
  | some found =>
    obtain ⟨text, s⟩ := found
    change some (("filename".toList.map Char.toLower, text), s) = _
    rw [hlower]
    rfl

theorem scanParam_extended {value : List Char} (hne : value ≠ [])
    (htoken : ∀ c ∈ value, isTokenChar c = true) :
    scanParam (" filename*=".toList ++ value) = some (("filename*".toList, value), []) := by
  have hname : scanToken ("filename*".toList ++ '=' :: value) =
      some ("filename*".toList, '=' :: value) :=
    scanToken_append (by decide) (List.all_eq_true.1 (by decide)) fun c hc => by cases hc; decide
  have hskip : skipBlanks (" filename*=".toList ++ value) = "filename*".toList ++ '=' :: value := rfl
  have hlower : "filename*".toList.map Char.toLower = "filename*".toList := by decide +kernel
  have hvalue : scanValue (skipBlanks value) = some (value, []) := by
    have hkeep := skipBlanks_token hne htoken []
    rw [List.append_nil] at hkeep
    rw [hkeep, scanValue.eq_2, scanToken_all hne htoken]
    rintro s rfl
    exact absurd (htoken '"' (.head _)) (by decide)
  rw [scanParam, hskip, hname]
  change ((scanValue (skipBlanks value)).bind fun found => _) = _
  rw [hvalue]
  change some (("filename*".toList.map Char.toLower, value), []) = _
  rw [hlower]

/-- What a parameter `filename` makes of a header: its quoted text is the name. -/
theorem parse_filename {kind : List Char} (hne : kind ≠ []) (htoken : ∀ c ∈ kind, isTokenChar c = true)
    (t : List Char) :
    parse (kind ++ ';' :: (" filename=\"".toList ++ t)) =
      (scanQuoted t).bind fun (text, s) =>
        (scanParams (" filename=\"".toList ++ t).length s).bind fun params =>
          if ("filename".toList :: params.map Prod.fst).Nodup then
            some ⟨kind, some text, (params.lookup "filename*".toList).bind decodeExtended⟩
          else none := by
  have hkind : scanToken (kind ++ ';' :: (" filename=\"".toList ++ t)) =
      some (kind, ';' :: (" filename=\"".toList ++ t)) :=
    scanToken_append hne htoken fun c hc => by cases hc; decide
  rw [parse, skipBlanks_token hne htoken, hkind]
  change ((scanParams ((" filename=\"".toList ++ t).length + 1)
    (';' :: (" filename=\"".toList ++ t))).bind fun params => _) = _
  rw [scanParams_cons, scanParam_filename]
  cases scanQuoted t with
  | none => rfl
  | some found =>
    obtain ⟨text, s⟩ := found
    dsimp only [Option.map_some, Option.bind_some]
    cases scanParams (" filename=\"".toList ++ t).length s with
    | none => rfl
    | some params =>
      have hname : ("filename*".toList == "filename".toList) = false := by decide +kernel
      dsimp only [Option.map_some, Option.bind_some]
      rw [List.map_cons, List.lookup_cons_self, List.lookup_cons, hname]
      rfl

theorem scanParams_extended {value : List Char} (hne : value ≠ [])
    (htoken : ∀ c ∈ value, isTokenChar c = true) {fuel : ℕ} (hfuel : 0 < fuel) :
    scanParams fuel (';' :: (" filename*=".toList ++ value)) = some [("filename*".toList, value)] := by
  obtain ⟨fuel, rfl⟩ := Nat.exists_eq_add_one.2 hfuel
  have hdone : scanParams fuel [] = some [] := by cases fuel <;> rfl
  rw [scanParams_cons, scanParam_extended hne htoken, Option.bind_some]
  dsimp only
  rw [hdone]
  rfl

/-- A header with both names of a file. -/
def bothNames (kind fallback extended : List Char) : List Char :=
  kind ++ ';' :: (" filename=\"".toList ++ (fallback ++ '"' ::
    (';' :: (" filename*=".toList ++ extended))))

/-- A header with both names is read as it is meant exactly when the first has no backslash. -/
theorem parse_bothNames_iff {kind fallback extended : List Char} (hkind : kind ≠ [])
    (hkindToken : ∀ c ∈ kind, isTokenChar c = true)
    (hfallback : ∀ c ∈ fallback, isQuotedChar c = true ∨ c = '\\') (hextended : extended ≠ [])
    (hextendedToken : ∀ c ∈ extended, isTokenChar c = true) :
    parse (bothNames kind fallback extended) =
        some ⟨kind, some fallback, decodeExtended extended⟩ ↔ '\\' ∉ fallback := by
  -- No quote comes after the closing one, so only the fallback can end early.
  have hquote : '"' ∉ ';' :: (" filename*=".toList ++ extended) := by
    have hname : '"' ∉ " filename*=".toList := by decide +kernel
    rw [List.mem_cons, List.mem_append, not_or, not_or]
    exact ⟨by decide, hname, fun h => absurd (hextendedToken _ h) (by decide)⟩
  rw [← scanQuoted_eq_iff hfallback hquote, bothNames, parse_filename hkind hkindToken]
  constructor
  · intro h
    obtain ⟨⟨text, s⟩, hscan, h⟩ := Option.bind_eq_some_iff.1 h
    obtain ⟨params, -, h⟩ := Option.bind_eq_some_iff.1 h
    split_ifs at h
    rw [Option.some.injEq, Disposition.mk.injEq, Option.some.injEq] at h
    exact ⟨s, h.2.1 ▸ hscan⟩
  · rintro ⟨rest', hscan⟩
    have hplain := (scanQuoted_eq_iff hfallback hquote).1 ⟨rest', hscan⟩
    have hscan := scanQuoted_plain (fun c hc => (hfallback c hc).resolve_right fun h => hplain (h ▸ hc))
      (';' :: (" filename*=".toList ++ extended))
    have hfuel : 0 < (" filename=\"".toList ++ (fallback ++ '"' ::
        (';' :: (" filename*=".toList ++ extended)))).length := by
      rw [List.length_append]
      exact Nat.add_pos_left (by decide) _
    rw [hscan, Option.bind_some]
    dsimp only
    rw [scanParams_extended hextended hextendedToken hfuel, Option.bind_some, List.lookup_cons_self]
    have hnodup : ["filename".toList, "filename*".toList].Nodup := by decide +kernel
    exact if_pos hnodup

end Disposition
