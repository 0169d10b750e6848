import Broker.Lib.CodePoints
import Broker.Lib.Disposition
import Broker.Lib.Parts
import Broker.Session

/-!
# Names of delivered files

The header `Content-Disposition` of a delivered asset, which gives the name of the file twice:
in ASCII, without its quotation marks, and in full, percent-encoded. It is meant to be safe for
any name (`ReadsBack`), but a backslash is left in the ASCII name, where it escapes what follows,
and a surrogate cannot be encoded (`readsBack_iff`).
-/

namespace Broker

open Py

/-! ## Headers -/

/-- The name without control characters. -/
def cleanedFilename (filename : Text) : Text :=
  filename.filter fun p => 32 ≤ p.val && p.val ≠ 127

/-- The name in ASCII. -/
def asciiFallback (filename : Text) : List Char :=
  let ascii := (cleanedFilename filename).filter fun p => p.val < 128
  let stripped := strip ((ascii.map CodePoint.toChar).filter (· ≠ '"'))
  if stripped.isEmpty then "download".toList else stripped

/-- `quote(text, safe="")`, which encodes the text in UTF-8: no surrogate can be. -/
def quoteStrict (s : Text) : Except PyError (List Char) :=
  if s.any CodePoint.isSurrogate then .error .unicodeError
  else .ok ((Url.utf8 (s.map CodePoint.toChar)).flatMap Disposition.quoteByteStrict)

/-- `_sanitized_filename_parts`. -/
def sanitizedFilenameParts (filename : Text) : Except PyError (List Char × List Char) := do
  let encoded ← quoteStrict (cleanedFilename filename)
  return (asciiFallback filename, encoded)

/-- `_content_disposition`. -/
def contentDisposition (filename : Text) : Except PyError (List Char) := do
  let (fallback, encoded) ← sanitizedFilenameParts filename
  return "inline; filename=\"".toList ++ fallback ++ "\"; filename*=UTF-8''".toList ++ encoded

/-- `_attachment_content_disposition`. -/
def attachmentContentDisposition (filename : Text) : Except PyError (List Char) := do
  let (fallback, encoded) ← sanitizedFilenameParts filename
  return "attachment; filename=\"".toList ++ fallback ++ "\"; filename*=UTF-8''".toList ++ encoded

/-! ## What a recipient reads -/

/-- A header that is built for a name is read as the name in ASCII and the name in full. -/
def ReadsBack (build : Text → Except PyError (List Char)) (kind : String) (filename : Text) : Prop :=
  ∃ header name, build filename = .ok header ∧
    name.map CodePoint.ofChar = cleanedFilename filename ∧
    Disposition.parse header = some ⟨kind.toList, some (asciiFallback filename), some name⟩

/-- A name that both encodings can hold. -/
def IsSafeName (filename : Text) : Prop :=
  ∀ p ∈ filename, p.isSurrogate = false ∧ p ≠ CodePoint.ofChar '\\'

theorem mem_cleanedFilename {filename : Text} {p : CodePoint} :
    p ∈ cleanedFilename filename ↔ p ∈ filename ∧ 32 ≤ p.val ∧ p.val ≠ 127 := by
  rw [cleanedFilename, List.mem_filter, Bool.and_eq_true, decide_eq_true_eq, decide_eq_true_eq]

/-- The characters of a name in ASCII stand for themselves, but for backslashes. -/
theorem asciiFallback_quoted (filename : Text) :
    ∀ c ∈ asciiFallback filename, Disposition.isQuotedChar c = true ∨ c = '\\' := by
  have hascii : ∀ n < 128, 32 ≤ n → n ≠ 127 → Char.ofNat n ≠ '"' →
      Disposition.isQuotedChar (Char.ofNat n) = true ∨ Char.ofNat n = '\\' := by decide
  have hdownload : ∀ c ∈ "download".toList, Disposition.isQuotedChar c = true :=
    List.all_eq_true.1 (by decide +kernel)
  intro c hc
  rw [asciiFallback] at hc
  split_ifs at hc with hempty
  · exact .inl (hdownload c hc)
  · have hc := mem_of_mem_stripWhere hc
    rw [List.mem_filter, decide_eq_true_eq] at hc
    obtain ⟨hc, hquote⟩ := hc
    obtain ⟨p, hp, rfl⟩ := List.mem_map.1 hc
    rw [List.mem_filter, decide_eq_true_eq, mem_cleanedFilename] at hp
    exact hascii p.val hp.2 hp.1.2.1 hp.1.2.2 hquote

/-- A backslash stays in the name in ASCII. -/
theorem slash_mem_asciiFallback {filename : Text} :
    '\\' ∈ asciiFallback filename ↔ CodePoint.ofChar '\\' ∈ filename := by
  have hdownload : '\\' ∉ "download".toList := by decide +kernel
  have hmem : '\\' ∈ strip ((((cleanedFilename filename).filter fun p => p.val < 128).map
      CodePoint.toChar).filter (· ≠ '"')) ↔ CodePoint.ofChar '\\' ∈ filename := by
    rw [strip, mem_stripWhere_iff (by decide), List.mem_filter, List.mem_map]
    constructor
    · rintro ⟨⟨p, hp, hchar⟩, -⟩
      rw [List.mem_filter, decide_eq_true_eq, mem_cleanedFilename] at hp
      have hall : ∀ n < 128, Char.ofNat n = '\\' → n = 92 := by decide
      have hval : p = CodePoint.ofChar '\\' := Fin.ext (hall p.val hp.2 hchar)
      exact hval ▸ hp.1.1
    · intro hp
      refine ⟨⟨_, ?_, CodePoint.toChar_ofChar _⟩, rfl⟩
      rw [List.mem_filter, mem_cleanedFilename]
      exact ⟨⟨hp, by decide, by decide⟩, rfl⟩
  rw [asciiFallback]
  split_ifs with hempty
  · rw [List.isEmpty_iff] at hempty
    rw [hempty] at hmem
    exact iff_of_false hdownload fun h => absurd (hmem.2 h) List.not_mem_nil
  · exact hmem

/-- A text is quoted if it has no surrogates, and what is quoted is read back. -/
theorem quoteStrict_ok_iff {s : Text} :
    (∃ encoded, quoteStrict s = .ok encoded) ↔ ∀ p ∈ s, p.isSurrogate = false := by
  rw [← CodePoint.any_isSurrogate_iff, quoteStrict]
  split_ifs with hany
  · exact iff_of_false (fun ⟨_, h⟩ => (by cases h)) (not_not_intro hany)
  · exact iff_of_true ⟨_, rfl⟩ hany

theorem decodeExtended_quoteStrict {s : Text} {encoded : List Char}
    (h : quoteStrict s = .ok encoded) :
    Disposition.decodeExtended ("UTF-8''".toList ++ encoded) = some (s.map CodePoint.toChar) ∧
      ∀ c ∈ "UTF-8''".toList ++ encoded, Disposition.isTokenChar c = true := by
  have hcharset : ∀ c ∈ "UTF-8''".toList, Disposition.isTokenChar c = true :=
    List.all_eq_true.1 (by decide +kernel)
  rw [quoteStrict] at h
  split_ifs at h
  obtain rfl := Except.ok.inj h
  refine ⟨Disposition.decodeExtended_quote _, fun c hc => ?_⟩
  exact (List.mem_append.1 hc).elim (hcharset c) fun hc => (Disposition.isTokenChar_of_mem_quote hc).1

/-- The header that is built from the parts of a name. -/
theorem readsBack_iff_of_build {build : Text → Except PyError (List Char)} {kind : String}
    (hkind : kind.toList ≠ []) (htoken : ∀ c ∈ kind.toList, Disposition.isTokenChar c = true)
    (hbuild : ∀ filename, build filename =
      (sanitizedFilenameParts filename).map fun parts =>
        Disposition.bothNames kind.toList parts.1 ("UTF-8''".toList ++ parts.2))
    (filename : Text) : ReadsBack build kind filename ↔ IsSafeName filename := by
  have hsafe : IsSafeName filename ↔
      (∀ p ∈ cleanedFilename filename, p.isSurrogate = false) ∧ '\\' ∉ asciiFallback filename := by
    rw [slash_mem_asciiFallback]
    constructor
    · intro h
      exact ⟨fun p hp => (h p (mem_cleanedFilename.1 hp).1).1, fun h' => (h _ h').2 rfl⟩
    · rintro ⟨hsurrogates, hslash⟩ p hp
      refine ⟨Bool.eq_false_of_not_eq_true fun hp' => ?_, fun h => hslash (h ▸ hp)⟩
      -- A surrogate is no control character.
      have hrange : 0xd800 ≤ p.val := by
        rw [CodePoint.isSurrogate, Bool.and_eq_true, decide_eq_true_eq] at hp'
        exact hp'.1
      have hclean := hsurrogates p (mem_cleanedFilename.2 ⟨hp, by omega, by omega⟩)
      rw [hp'] at hclean
      cases hclean
  rw [hsafe, ReadsBack, hbuild, sanitizedFilenameParts]
  cases hquote : quoteStrict (cleanedFilename filename) with
  | error e =>
    refine iff_of_false ?_ fun h => ?_
    · rintro ⟨_, _, h, _⟩
      cases h
    · obtain ⟨encoded, hok⟩ := quoteStrict_ok_iff.2 h.1
      cases hquote.symm.trans hok
  | ok encoded =>
    have hnone : ∀ p ∈ cleanedFilename filename, p.isSurrogate = false :=
      quoteStrict_ok_iff.1 ⟨encoded, hquote⟩
    have hname : ((cleanedFilename filename).map CodePoint.toChar).map CodePoint.ofChar =
        cleanedFilename filename := by
      rw [List.map_map]
      exact (List.map_congr_left fun p hp => CodePoint.ofChar_toChar (hnone p hp)).trans
        (List.map_id _)
    obtain ⟨hextended, hchars⟩ := decodeExtended_quoteStrict hquote
    have hparse := Disposition.parse_bothNames_iff hkind htoken (asciiFallback_quoted filename)
      (List.append_ne_nil_of_left_ne_nil (by decide) encoded) hchars
    rw [hextended] at hparse
    rw [← hparse]
    constructor
    · rintro ⟨header, name, hheader, hmap, hread⟩
      obtain rfl := Except.ok.inj hheader
      have hsame : name = (cleanedFilename filename).map CodePoint.toChar := by
        rw [← hmap, List.map_map]
        exact ((List.map_congr_left fun c _ => CodePoint.toChar_ofChar c).trans
          (List.map_id _)).symm
      exact ⟨hnone, hsame ▸ hread⟩
    · rintro ⟨-, hread⟩
      exact ⟨_, _, rfl, hname, hread⟩

/-- The text that the sources put around the parts of a name. -/
theorem header_eq {kind : List Char} (fallback encoded : List Char) :
    kind ++ "; filename=\"".toList ++ fallback ++ "\"; filename*=UTF-8''".toList ++ encoded =
      Disposition.bothNames kind fallback ("UTF-8''".toList ++ encoded) := by
  have hname : "; filename=\"".toList = ';' :: " filename=\"".toList := by decide +kernel
  have hextended : "\"; filename*=UTF-8''".toList =
      '"' :: ';' :: (" filename*=".toList ++ "UTF-8''".toList) := by decide +kernel
  rw [Disposition.bothNames, hname, hextended]
  simp only [List.append_assoc, List.cons_append]

/-- The headers of a name are read back exactly when it has neither surrogates nor backslashes. -/
theorem readsBack_iff (filename : Text) :
    (ReadsBack contentDisposition "inline" filename ↔ IsSafeName filename) ∧
      (ReadsBack attachmentContentDisposition "attachment" filename ↔ IsSafeName filename) := by
  have hinline : "inline; filename=\"".toList = "inline".toList ++ "; filename=\"".toList := by
    decide +kernel
  have hattachment : "attachment; filename=\"".toList =
      "attachment".toList ++ "; filename=\"".toList := by decide +kernel
  constructor
  · refine readsBack_iff_of_build (by decide) (List.all_eq_true.1 (by decide +kernel))
      (fun filename => ?_) filename
    rw [contentDisposition]
    cases sanitizedFilenameParts filename with
    | error e => rfl
    | ok parts =>
      change Except.ok _ = Except.ok _
      rw [hinline, header_eq]
  · refine readsBack_iff_of_build (by decide) (List.all_eq_true.1 (by decide +kernel))
      (fun filename => ?_) filename
    rw [attachmentContentDisposition]
    cases sanitizedFilenameParts filename with
    | error e => rfl
    | ok parts =>
      change Except.ok _ = Except.ok _
      rw [hattachment, header_eq]

namespace Sample

/-- What the recipient of an inline header takes for the name in ASCII. -/
def filenameRead (filename : Text) : Option (Option (List Char)) :=
  match contentDisposition filename with
  | .ok header => (Disposition.parse header).map Disposition.filename
  | .error _ => none

theorem filenameRead_of_readsBack {filename : Text}
    (h : ReadsBack contentDisposition "inline" filename) :
    filenameRead filename = some (some (asciiFallback filename)) := by
  obtain ⟨header, name, hheader, -, hparse⟩ := h
  rw [filenameRead, hheader]
  dsimp only
  rw [hparse]
  rfl

/-- A surrogate raises. A backslash is lost from the name in ASCII, and makes the whole header
    unreadable where it is the last character of that name. -/
theorem unsafe_names :
    contentDisposition [0xd800] = .error .unicodeError ∧
      filenameRead (Text.ofString "a\\b") = some (some "ab".toList) ∧
      filenameRead (Text.ofString "a\\") = none ∧
      ¬ReadsBack contentDisposition "inline" [0xd800] ∧
      ¬ReadsBack contentDisposition "inline" (Text.ofString "a\\b") ∧
      ¬ReadsBack contentDisposition "inline" (Text.ofString "a\\") := by
  have hraised : filenameRead [0xd800] = none := by decide +kernel
  have hlost : filenameRead (Text.ofString "a\\b") = some (some "ab".toList) := by decide +kernel
  have hopen : filenameRead (Text.ofString "a\\") = none := by decide +kernel
  have hfallback : asciiFallback (Text.ofString "a\\b") ≠ "ab".toList := by decide +kernel
  refine ⟨by decide +kernel, hlost, hopen, fun h => ?_, fun h => ?_, fun h => ?_⟩
  · cases hraised.symm.trans (filenameRead_of_readsBack h)
  · have hread := hlost.symm.trans (filenameRead_of_readsBack h)
    rw [Option.some.injEq, Option.some.injEq] at hread
    exact hfallback hread.symm
  · cases hopen.symm.trans (filenameRead_of_readsBack h)

end Sample

end Broker
