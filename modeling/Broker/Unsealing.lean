import Broker.Sealing

/-!
# Opening what was sealed

A sealed session opens to what it was, exactly when no sensitive field carried
the marker of sealed values before, and Fernet can encode them (`opens_sealed_iff`):
a field with the marker is taken for sealed already, so the null cipher refuses it,
and Fernet refuses it or opens it to something else; and Fernet raises for a field
with a surrogate, which a session key has when ResourceSpace answers with one.
-/

namespace Broker

open Py

/-! ## Fields -/

/-- How Fernet encrypts: to ASCII tokens, longer than what they encrypt, which
    alone it decrypts. -/
structure Fernet.Faithful (f : Fernet) : Prop where
  decrypt_encrypt : ∀ iv bytes, f.decrypt (f.encrypt iv bytes) = some bytes
  rejects : ∀ token bytes, f.decrypt token = some bytes → ∃ iv, token = f.encrypt iv bytes
  ascii : ∀ iv bytes, ∀ c ∈ (f.encrypt iv bytes).toList, c.toNat < 128
  longer : ∀ iv bytes, bytes.size < (f.encrypt iv bytes).toUTF8.size

theorem toUTF8_of_fromUTF8 {bytes : ByteArray} {v : String} (h : String.fromUTF8? bytes = some v) :
    v.toUTF8 = bytes := by
  unfold String.fromUTF8? at h
  split_ifs at h
  rw [← Option.some.inj h]
  rfl

theorem seal_of_marked (cipher : FieldCipher) (iv : ℕ) {v : String} (h : isSealed v = true) :
    cipher.seal iv v = v := by
  cases cipher with
  | null => rfl
  | fernet f => rw [FieldCipher.seal, if_pos h]

/-- What Fernet sealed opens to what it was. -/
theorem open_encrypted {f : Fernet} (faithful : f.Faithful) (iv : ℕ) (v : String) :
    (FieldCipher.fernet f).open (encPrefix ++ f.encrypt iv v.toUTF8) = .ok v := by
  have hdrop : String.ofList ((encPrefix ++ f.encrypt iv v.toUTF8).toList.drop encPrefix.length) =
      f.encrypt iv v.toUTF8 := by
    rw [String.toList_append, ← String.length_toList, List.drop_left, String.ofList_toList]
  have hascii : (f.encrypt iv v.toUTF8).toList.all (·.toNat < 128) = true :=
    List.all_eq_true.2 fun c hc => decide_eq_true (faithful.ascii iv v.toUTF8 c hc)
  have hread : String.fromUTF8? v.toUTF8 = some v := dif_pos v.isValidUTF8
  rw [FieldCipher.open, if_pos (isSealed_append _)]
  dsimp only
  rw [hdrop, if_pos hascii, faithful.decrypt_encrypt]
  dsimp only
  rw [hread]
  rfl

/-- What carries the marker does not open to itself. -/
theorem open_ne_self {cipher : FieldCipher} (faithful : ∀ f, cipher = .fernet f → f.Faithful)
    {v : String} (h : isSealed v = true) : cipher.open v ≠ .ok v := by
  cases cipher with
  | null =>
    rw [FieldCipher.open, if_pos h]
    exact nofun
  | fernet f =>
    intro hself
    obtain ⟨rest, hrest⟩ := List.isPrefixOf_iff_prefix.1 h
    have hsplit : v = encPrefix ++ String.ofList rest := by
      rw [← String.toList_inj, String.toList_append, String.toList_ofList, hrest]
    have hdrop : String.ofList (v.toList.drop encPrefix.length) = String.ofList rest := by
      rw [← hrest, ← String.length_toList, List.drop_left]
    rw [FieldCipher.open, if_pos h] at hself
    dsimp only at hself
    rw [hdrop] at hself
    split_ifs at hself with hascii
    cases hbytes : f.decrypt (String.ofList rest) with
    | none =>
      rw [hbytes] at hself
      cases hself
    | some bytes =>
      rw [hbytes] at hself
      dsimp only at hself
      cases hread : String.fromUTF8? bytes with
      | none =>
        rw [hread] at hself
        cases hself
      | some text =>
        rw [hread] at hself
        obtain rfl := Except.ok.inj hself
        -- The token is longer than what it encrypts, and here part of it.
        obtain ⟨iv, htoken⟩ := (faithful f rfl).rejects _ _ hbytes
        have hlonger := (faithful f rfl).longer iv bytes
        have hsize : bytes.size = text.utf8ByteSize := by
          rw [← toUTF8_of_fromUTF8 hread]
          rfl
        have htotal : text.utf8ByteSize =
            encPrefix.utf8ByteSize + (String.ofList rest).utf8ByteSize := by
          rw [← String.utf8ByteSize_append, ← hsplit]
        rw [← htoken] at hlonger
        have hpart : (String.ofList rest).toUTF8.size = (String.ofList rest).utf8ByteSize := rfl
        omega

theorem openField_of_ne (cipher : FieldCipher) {v : String} (h : v ≠ "") :
    openField cipher (some v) = (cipher.open v).map some := by
  rw [openField]
  exact h

/-- A sealed field opens to what it was, exactly when it did not carry the marker before. -/
theorem openField_seal_iff {cipher : FieldCipher} (faithful : ∀ f, cipher = .fernet f → f.Faithful)
    (iv : ℕ) (field : Option String) :
    openField cipher (field.map fun v => if v ≠ "" then cipher.seal iv v else v) = .ok field ↔
      ∀ v, field = some v → isSealed v = false := by
  cases field with
  | none => exact ⟨nofun, fun _ => rfl⟩
  | some v =>
    rw [Option.map_some]
    by_cases hempty : v = ""
    · subst hempty
      rw [if_neg (not_not_intro rfl)]
      refine ⟨fun _ v hv => ?_, fun _ => rfl⟩
      rw [← Option.some.inj hv]
      rfl
    · rw [if_pos hempty]
      cases hsealed : isSealed v with
      -- A text that is marked already is stored as it stands, and opening it changes it.
      | true =>
        rw [seal_of_marked cipher iv hsealed]
        constructor
        · intro hsame
          rw [openField_of_ne cipher hempty] at hsame
          cases hread : cipher.open v with
          | error e =>
            rw [hread] at hsame
            cases hsame
          | ok v' =>
            rw [hread] at hsame
            rw [Option.some.inj (Except.ok.inj hsame)] at hread
            exact absurd hread (open_ne_self faithful hsealed)
        · intro hfree
          rw [hfree v rfl] at hsealed
          cases hsealed
      | false =>
        refine ⟨fun _ v' hv' => ?_, fun _ => ?_⟩
        · rw [← Option.some.inj hv', hsealed]
        · cases cipher with
          | null =>
            rw [FieldCipher.seal, openField_of_ne _ hempty, FieldCipher.open, hsealed,
              if_neg Bool.false_ne_true]
            rfl
          | fernet f =>
            -- What is sealed is never the empty text, which `openField` passes over.
            have hne : encPrefix ++ f.encrypt iv v.toUTF8 ≠ "" := by
              intro h
              have hmarked := isSealed_append (f.encrypt iv v.toUTF8)
              rw [h] at hmarked
              cases hmarked
            rw [FieldCipher.seal, hsealed, if_neg Bool.false_ne_true, openField_of_ne _ hne,
              open_encrypted (faithful f rfl)]
            rfl

/-! ## Texts -/

/-- `value.startswith(ENC_PREFIX)`, for a string that may hold surrogates. -/
def isSealedText (value : Text) : Bool := (Text.ofString encPrefix).isPrefixOf value

/-- `FieldCipher.seal`, for a string that may hold surrogates. -/
def FieldCipher.sealText (iv : ℕ) : FieldCipher → Text → Except PyError Text
  | null, value => .ok value
  | fernet f, value =>
    if isSealedText value then .ok value
    else do
      let encoded ← encodable value
      return Text.ofString (encPrefix ++ f.encrypt iv encoded.toUTF8)

/-- `FieldCipher.open`, for a string that may hold surrogates. -/
def FieldCipher.openText : FieldCipher → Text → Except PyError Text
  | null, value => if isSealedText value then .error .fieldDecryptError else .ok value
  | fernet f, value =>
    if isSealedText value then
      let ciphertext := value.drop encPrefix.length
      if ciphertext.all (·.val < 128) then
        match f.decrypt (String.ofList (ciphertext.map CodePoint.toChar)) with
        | none => .error .fieldDecryptError
        | some bytes =>
          (String.fromUTF8? bytes).elim (.error .unicodeError) fun text => .ok (Text.ofString text)
      else .error .unicodeError
    else .ok value

/-- The marker is found in the text of a string as it is in the string. -/
theorem isSealedText_ofString (v : String) : isSealedText (Text.ofString v) = isSealed v := by
  have hinj : Function.Injective CodePoint.ofChar := fun c d h => by
    rw [← CodePoint.toChar_ofChar c, h, CodePoint.toChar_ofChar]
  rw [isSealedText, isSealed, Bool.eq_iff_iff, List.isPrefixOf_iff_prefix, List.isPrefixOf_iff_prefix,
    Text.ofString, Text.ofString, List.prefix_map_iff_of_injective hinj]

theorem sealText_ofString (cipher : FieldCipher) (iv : ℕ) (v : String) :
    cipher.sealText iv (Text.ofString v) = .ok (Text.ofString (cipher.seal iv v)) := by
  cases cipher with
  | null => rfl
  | fernet f =>
    rw [FieldCipher.sealText, FieldCipher.seal, isSealedText_ofString, encodable_ok_iff.2 rfl]
    split_ifs
    · rfl
    · rfl

theorem openText_ofString (cipher : FieldCipher) (v : String) :
    cipher.openText (Text.ofString v) = (cipher.open v).map Text.ofString := by
  cases cipher with
  | null =>
    rw [FieldCipher.openText, FieldCipher.open, isSealedText_ofString]
    split_ifs
    · rfl
    · rfl
  | fernet f =>
    have hdrop : (Text.ofString v).drop encPrefix.length =
        (v.toList.drop encPrefix.length).map CodePoint.ofChar := List.map_drop.symm
    have hascii : ((v.toList.drop encPrefix.length).map CodePoint.ofChar).all (·.val < 128) =
        (String.ofList (v.toList.drop encPrefix.length)).toList.all (·.toNat < 128) := by
      rw [List.all_map, String.toList_ofList]
      rfl
    have hback : ((v.toList.drop encPrefix.length).map CodePoint.ofChar).map CodePoint.toChar =
        v.toList.drop encPrefix.length := by
      have hid : CodePoint.toChar ∘ CodePoint.ofChar = id := funext CodePoint.toChar_ofChar
      rw [List.map_map, hid, List.map_id]
    rw [FieldCipher.openText, FieldCipher.open, isSealedText_ofString]
    dsimp only
    rw [hdrop, hascii, hback]
    split_ifs
    · cases f.decrypt (String.ofList (v.toList.drop encPrefix.length)) with
      | none => rfl
      | some bytes =>
        dsimp only
        cases String.fromUTF8? bytes with
        | none => rfl
        | some text => rfl
    · rfl
    · rfl

/-- Fernet seals no text with a surrogate that does not carry the marker, and opens none. -/
theorem fernet_surrogate {f : Fernet} {v : Text} (h : ¬IsEncodable v) (iv : ℕ) :
    ((FieldCipher.fernet f).sealText iv v >>= (FieldCipher.fernet f).openText) = .error .unicodeError := by
  by_cases hsealed : isSealedText v = true
  · obtain ⟨rest, rfl⟩ := List.isPrefixOf_iff_prefix.1 hsealed
    have hlength : encPrefix.length = (Text.ofString encPrefix).length := by decide
    -- The surrogate is behind the marker, and no character of a token.
    have hascii : ¬rest.all (·.val < 128) = true := by
      intro hall
      refine h fun p hp => ?_
      rcases List.mem_append.1 hp with hp | hp
      · exact isEncodable_ofString _ p hp
      · have hlt : p.val < 128 := of_decide_eq_true (List.all_eq_true.1 hall p hp)
        refine Bool.eq_false_of_not_eq_true fun hsurrogate => ?_
        rw [CodePoint.isSurrogate, Bool.and_eq_true, decide_eq_true_eq, decide_eq_true_eq] at hsurrogate
        omega
    rw [FieldCipher.sealText, if_pos hsealed]
    change (FieldCipher.fernet f).openText (Text.ofString encPrefix ++ rest) = _
    rw [FieldCipher.openText, if_pos hsealed, hlength, List.drop_left, if_neg hascii]
  · have hraises : encodable v = .error .unicodeError := by
      cases hencoded : encodable v with
      | ok t => exact absurd (encodable_isOk_iff.1 ⟨t, hencoded⟩) h
      | error e =>
        rw [encodable] at hencoded
        split_ifs at hencoded
        exact hencoded.symm
    rw [FieldCipher.sealText, if_neg hsealed, hraises]
    rfl

/-! ## Sessions -/

/-- A session whose sensitive fields may hold surrogates. -/
structure TextSession where
  /-- The session, but for these fields. -/
  others : Session
  sessionKey : Option Text
  email : Option Text

/-- A sensitive field is sealed, if there is one and it is not empty. -/
def sealTextField (cipher : FieldCipher) (iv : ℕ) : Option Text → Except PyError (Option Text)
  | none => .ok none
  | some [] => .ok (some [])
  | some v => (cipher.sealText iv v).map some

/-- A sensitive field is opened, if there is one and it is not empty. -/
def openTextField (cipher : FieldCipher) : Option Text → Except PyError (Option Text)
  | none => .ok none
  | some [] => .ok (some [])
  | some v => (cipher.openText v).map some

/-- `AuthService._seal_session`, for strings that may hold surrogates. -/
def sealTextSession (cipher : FieldCipher) (iv : ℕ → ℕ) (session : TextSession) :
    Except PyError TextSession := do
  let sessionKey ← sealTextField cipher (iv 0) session.sessionKey
  let email ← sealTextField cipher (iv 1) session.email
  return { session with sessionKey, email }

/-- `AuthService._open_session_dict`, for strings that may hold surrogates. -/
def openTextSession (cipher : FieldCipher) (session : TextSession) : Except PyError TextSession := do
  let sessionKey ← openTextField cipher session.sessionKey
  let email ← openTextField cipher session.email
  return { session with sessionKey, email }

/-- The session with the texts of its sensitive fields. -/
def Session.toText (session : Session) : TextSession where
  others :=
    { session with
      upstream := { session.upstream with sessionKey := none }
      user := { session.user with email := none } }
  sessionKey := session.upstream.sessionKey.map Text.ofString
  email := session.user.email.map Text.ofString

theorem ofString_eq_nil_iff {v : String} : Text.ofString v = [] ↔ v = "" := by
  rw [Text.ofString, List.map_eq_nil_iff, String.toList_eq_nil_iff]

theorem sealTextField_of_ne (cipher : FieldCipher) (iv : ℕ) {v : Text} (h : v ≠ []) :
    sealTextField cipher iv (some v) = (cipher.sealText iv v).map some := by
  cases v with
  | nil => exact absurd rfl h
  | cons p v => rfl

theorem openTextField_of_ne (cipher : FieldCipher) {v : Text} (h : v ≠ []) :
    openTextField cipher (some v) = (cipher.openText v).map some := by
  cases v with
  | nil => exact absurd rfl h
  | cons p v => rfl

/-- The fields of strings are sealed as their texts are. -/
theorem sealTextField_ofString (cipher : FieldCipher) (iv : ℕ) (field : Option String) :
    sealTextField cipher iv (field.map Text.ofString) =
      .ok ((field.map fun v => if v ≠ "" then cipher.seal iv v else v).map Text.ofString) := by
  cases field with
  | none => rfl
  | some v =>
    by_cases hempty : v = ""
    · subst hempty
      rfl
    · rw [Option.map_some, sealTextField_of_ne cipher iv (mt ofString_eq_nil_iff.1 hempty),
        sealText_ofString, Option.map_some, if_pos hempty]
      rfl

theorem openTextField_ofString (cipher : FieldCipher) (field : Option String) :
    openTextField cipher (field.map Text.ofString) =
      (openField cipher field).map (Option.map Text.ofString) := by
  cases field with
  | none => rfl
  | some v =>
    by_cases hempty : v = ""
    · subst hempty
      rfl
    · rw [Option.map_some, openTextField_of_ne cipher (mt ofString_eq_nil_iff.1 hempty),
        openText_ofString, openField_of_ne cipher hempty]
      cases cipher.open v <;> rfl

/-- A session is sealed and opened as its texts are. -/
theorem sealTextSession_toText (cipher : FieldCipher) (iv : ℕ → ℕ) (session : Session) :
    sealTextSession cipher iv session.toText = .ok (sealSession cipher iv session).toText := by
  rw [sealTextSession, Session.toText, sealTextField_ofString, sealTextField_ofString]
  rfl

theorem openTextSession_toText (cipher : FieldCipher) (session : Session) :
    openTextSession cipher session.toText = (openSessionDict cipher session).map Session.toText := by
  rw [openTextSession, openSessionDict, Session.toText, openTextField_ofString, openTextField_ofString]
  cases openField cipher session.upstream.sessionKey with
  | error e => rfl
  | ok sessionKey =>
    cases openField cipher session.user.email with
    | error e => rfl
    | ok email => rfl

/-- The cipher can seal the text, and open it again to what it was. -/
structure Opens (cipher : FieldCipher) (v : Text) : Prop where
  unmarked : isSealedText v = false
  encoded : ∀ f, cipher = .fernet f → IsEncodable v

/-- A sealed field opens to what it was, exactly when it did not carry the marker before
    and, under Fernet, has no surrogate. -/
theorem openTextField_seal_iff {cipher : FieldCipher}
    (faithful : ∀ f, cipher = .fernet f → f.Faithful) (iv : ℕ) (field : Option Text) :
    (sealTextField cipher iv field >>= openTextField cipher) = .ok field ↔
      ∀ v, field = some v → Opens cipher v := by
  by_cases hstring : ∃ s : Option String, field = s.map Text.ofString
  · obtain ⟨s, rfl⟩ := hstring
    rw [sealTextField_ofString]
    change openTextField cipher _ = _ ↔ _
    rw [openTextField_ofString]
    have hinj := Option.map_injective Text.ofString_injective
    have hok : ∀ {x : Except PyError (Option String)},
        x.map (Option.map Text.ofString) = .ok (s.map Text.ofString) ↔ x = .ok s := by
      intro x
      cases x with
      | error e => exact iff_of_false (fun h => nomatch h) fun h => nomatch h
      | ok s' => exact ⟨fun h => congrArg _ (hinj (Except.ok.inj h)), fun h => h ▸ rfl⟩
    rw [hok, openField_seal_iff faithful]
    constructor
    · intro h v hv
      obtain ⟨v, rfl, rfl⟩ := Option.map_eq_some_iff.1 hv
      exact ⟨(isSealedText_ofString v).trans (h v rfl), fun _ _ => isEncodable_ofString v⟩
    · rintro h v rfl
      exact (isSealedText_ofString v).symm.trans (h _ rfl).unmarked
  · -- The field has a surrogate: only the null cipher seals it, as it is.
    cases field with
    | none => exact absurd ⟨none, rfl⟩ hstring
    | some v =>
      have hencodable : ¬IsEncodable v := by
        intro h
        obtain ⟨t, ht⟩ := encodable_isOk_iff.2 h
        exact hstring ⟨some t, congrArg some (encodable_ok_iff.1 ht)⟩
      have hne : v ≠ [] := by
        rintro rfl
        exact hencodable fun _ h => nomatch h
      cases cipher with
      | null =>
        rw [sealTextField_of_ne _ _ hne]
        change openTextField .null (some v) = _ ↔ _
        rw [openTextField_of_ne _ hne, FieldCipher.openText]
        split_ifs with hsealed
        · refine iff_of_false (fun h => nomatch h) fun h => ?_
          rw [(h v rfl).unmarked] at hsealed
          cases hsealed
        · refine iff_of_true rfl fun v' hv' => ?_
          obtain rfl := Option.some.inj hv'
          exact ⟨Bool.eq_false_of_not_eq_true hsealed, fun _ h => nomatch h⟩
      | fernet f =>
        refine iff_of_false (fun h => ?_) fun h => hencodable ((h v rfl).encoded f rfl)
        obtain ⟨field, hfield, hopened⟩ := exists_ok_of_bind h
        rw [sealTextField_of_ne _ _ hne] at hfield
        have hraised := @fernet_surrogate f v hencodable iv
        cases hsealed : (FieldCipher.fernet f).sealText iv v with
        | error e =>
          rw [hsealed] at hfield
          cases hfield
        | ok v' =>
          rw [hsealed] at hfield hraised
          obtain rfl := Except.ok.inj hfield
          change (FieldCipher.fernet f).openText v' = _ at hraised
          change openTextField (.fernet f) (some v') = _ at hopened
          cases v' with
          | nil => cases hraised
          | cons p v' =>
            rw [openTextField_of_ne _ (List.cons_ne_nil p v'), hraised] at hopened
            cases hopened

/-- A sealed session opens to what it was, exactly when none of its sensitive fields
    carried the marker before and, under Fernet, none has a surrogate. -/
theorem opens_sealed_iff (cipher : FieldCipher) (iv : ℕ → ℕ) (session : TextSession)
    (faithful : ∀ f, cipher = .fernet f → f.Faithful) :
    (sealTextSession cipher iv session >>= openTextSession cipher) = .ok session ↔
      ∀ v, session.sessionKey = some v ∨ session.email = some v → Opens cipher v := by
  have hkey := openTextField_seal_iff faithful (iv 0) session.sessionKey
  have hemail := openTextField_seal_iff faithful (iv 1) session.email
  constructor
  · intro h
    obtain ⟨_, hsealed, hopened⟩ := exists_ok_of_bind h
    obtain ⟨sessionKey, hsealed₁, hsealed⟩ := exists_ok_of_bind hsealed
    obtain ⟨email, hsealed₂, hsealed⟩ := exists_ok_of_bind hsealed
    obtain rfl := Except.ok.inj hsealed
    obtain ⟨sessionKey', hopened₁, hopened⟩ := exists_ok_of_bind hopened
    obtain ⟨email', hopened₂, hopened⟩ := exists_ok_of_bind hopened
    have hsame := Except.ok.inj hopened
    obtain rfl : sessionKey' = session.sessionKey := congrArg TextSession.sessionKey hsame
    obtain rfl : email' = session.email := congrArg TextSession.email hsame
    rintro v (hv | hv)
    · exact hkey.1 (bind_eq_ok.2 ⟨sessionKey, hsealed₁, hopened₁⟩) v hv
    · exact hemail.1 (bind_eq_ok.2 ⟨email, hsealed₂, hopened₂⟩) v hv
  · intro h
    obtain ⟨sessionKey, hsealed₁, hopened₁⟩ := exists_ok_of_bind (hkey.2 fun v hv => h v (.inl hv))
    obtain ⟨email, hsealed₂, hopened₂⟩ := exists_ok_of_bind (hemail.2 fun v hv => h v (.inr hv))
    have hsealed : sealTextSession cipher iv session = .ok { session with sessionKey, email } := by
      rw [sealTextSession, hsealed₁, hsealed₂]
      rfl
    have hopened : openTextSession cipher { session with sessionKey, email } = .ok session := by
      rw [openTextSession, hopened₁, hopened₂]
      rfl
    exact bind_eq_ok.2 ⟨_, hsealed, hopened⟩

namespace Sample

/-- The letters of the two halves of a byte. -/
def letters (b : UInt8) : List Char := [Char.ofNat (0x61 + b.toNat / 16), Char.ofNat (0x61 + b.toNat % 16)]

/-- The half of a byte that a letter stands for. -/
def half (c : Char) : Option ℕ :=
  if 0x61 ≤ c.toNat && c.toNat < 0x71 then some (c.toNat - 0x61) else none

/-- The bytes that letters stand for. -/
def bytesOf : List Char → Option (List UInt8)
  | [] => some []
  | [_] => none
  | c :: d :: s => do
    let high ← half c
    let low ← half d
    let bytes ← bytesOf s
    return UInt8.ofNat (16 * high + low) :: bytes

/-- A cipher that spells bytes in letters. -/
def fernet : Fernet where
  encrypt _ bytes := String.ofList ('g' :: bytes.data.toList.flatMap letters)
  decrypt token :=
    match token.toList with
    | 'g' :: s => (bytesOf s).map fun bytes => ⟨bytes.toArray⟩
    | _ => none

theorem half_ofNat : ∀ n < 16, half (Char.ofNat (0x61 + n)) = some n := by decide

theorem ofNat_half {c : Char} {n : ℕ} (h : half c = some n) : n < 16 ∧ Char.ofNat (0x61 + n) = c := by
  rw [half] at h
  split_ifs at h with hrange
  obtain rfl := Option.some.inj h
  rw [Bool.and_eq_true, decide_eq_true_eq, decide_eq_true_eq] at hrange
  refine ⟨by omega, ?_⟩
  rw [Nat.add_sub_cancel' hrange.1, Char.ofNat_toNat]

theorem bytesOf_letters (bytes : List UInt8) : bytesOf (bytes.flatMap letters) = some bytes := by
  induction bytes with
  | nil => rfl
  | cons b bytes ih =>
    have hb : b.toNat < 256 := b.toNat_lt
    have hsame : UInt8.ofNat (16 * (b.toNat / 16) + b.toNat % 16) = b := by
      rw [Nat.div_add_mod, UInt8.ofNat_toNat]
    rw [List.flatMap_cons, letters, List.cons_append, List.cons_append, List.nil_append, bytesOf,
      half_ofNat _ (by omega), half_ofNat _ (by omega), ih]
    exact congrArg (fun b => some (b :: bytes)) hsame

theorem letters_of_bytesOf : ∀ (s : List Char) (bytes : List UInt8), bytesOf s = some bytes →
    bytes.flatMap letters = s
  | [], _, h => by
    rw [← Option.some.inj h]
    rfl
  | [_], _, h => by cases h
  | c :: d :: s, bytes, h => by
    rw [bytesOf] at h
    obtain ⟨high, hhigh, h⟩ := Option.bind_eq_some_iff.1 h
    obtain ⟨low, hlow, h⟩ := Option.bind_eq_some_iff.1 h
    obtain ⟨rest, hrest, h⟩ := Option.bind_eq_some_iff.1 h
    obtain rfl := Option.some.inj h
    obtain ⟨hlt, hc⟩ := ofNat_half hhigh
    obtain ⟨hlt', hd⟩ := ofNat_half hlow
    have hvalue : (UInt8.ofNat (16 * high + low)).toNat = 16 * high + low :=
      UInt8.toNat_ofNat_of_lt' (by rw [UInt8.size]; omega)
    rw [List.flatMap_cons, letters_of_bytesOf s rest hrest, letters, hvalue,
      Nat.mul_add_div (by decide), Nat.mul_add_mod, Nat.div_eq_of_lt hlt', Nat.mod_eq_of_lt hlt',
      Nat.add_zero, hc, hd]
    rfl

theorem length_letters (bytes : List UInt8) : (bytes.flatMap letters).length = 2 * bytes.length := by
  induction bytes with
  | nil => rfl
  | cons b bytes ih =>
    rw [List.flatMap_cons, List.length_append, ih, List.length_cons, letters]
    simp only [List.length_cons, List.length_nil]
    omega

theorem letters_ascii : ∀ n < 16, (Char.ofNat (0x61 + n)).toNat < 128 := by decide

theorem fernet_ascii (bytes : List UInt8) :
    ∀ c ∈ 'g' :: bytes.flatMap letters, c.toNat < 128 := by
  intro c hc
  rcases List.mem_cons.1 hc with rfl | hc
  · decide
  · obtain ⟨b, -, hc⟩ := List.mem_flatMap.1 hc
    have hb : b.toNat < 256 := b.toNat_lt
    rw [letters, List.mem_cons, List.mem_singleton] at hc
    rcases hc with rfl | rfl
    · exact letters_ascii _ (by omega)
    · exact letters_ascii _ (by omega)

theorem length_le_size (l : List Char) : l.length ≤ l.utf8Encode.size := by
  induction l with
  | nil => exact Nat.zero_le _
  | cons c l ih =>
    have hpos := c.utf8Size_pos
    rw [List.utf8Encode_cons, ByteArray.size_append, List.utf8Encode_singleton, List.length_cons,
      List.size_toByteArray, String.length_utf8EncodeChar]
    omega

theorem fernet_faithful : fernet.Faithful where
  decrypt_encrypt := by
    intro iv bytes
    rw [fernet]
    dsimp only
    rw [String.toList_ofList]
    exact congrArg (Option.map _) (bytesOf_letters _)
  rejects := by
    intro token bytes h
    rw [fernet] at h
    dsimp only at h
    split at h
    · rename_i s hs
      obtain ⟨bytes', hbytes, rfl⟩ := Option.map_eq_some_iff.1 h
      refine ⟨0, ?_⟩
      rw [← String.toList_inj, hs]
      rw [fernet]
      dsimp only
      rw [String.toList_ofList, letters_of_bytesOf s bytes' hbytes]
    · cases h
  ascii := by
    intro iv bytes c hc
    rw [fernet] at hc
    dsimp only at hc
    rw [String.toList_ofList] at hc
    exact fernet_ascii bytes.data.toList c hc
  longer := by
    intro iv bytes
    have hlength := length_le_size ('g' :: bytes.data.toList.flatMap letters)
    rw [List.length_cons, length_letters] at hlength
    change bytes.data.toList.length <
      (String.ofList ('g' :: bytes.data.toList.flatMap letters)).toByteArray.size
    rw [String.toByteArray_ofList]
    omega

end Sample

/-- A session without the marker, under Fernet. -/
theorem opens_sealed_iff_fernet :
    (sealTextSession (.fernet Sample.fernet) (fun _ => 0) Sample.session.toText >>=
        openTextSession (.fernet Sample.fernet)) = .ok Sample.session.toText ↔
      ∀ v, Sample.session.toText.sessionKey = some v ∨ Sample.session.toText.email = some v →
        Opens (.fernet Sample.fernet) v :=
  opens_sealed_iff (.fernet Sample.fernet) (fun _ => 0) Sample.session.toText fun f hf => by
    rw [← FieldCipher.fernet.inj hf]
    exact Sample.fernet_faithful

namespace Sample

/-- A session with the key. -/
def sessionWithKey (sessionKey : Text) : TextSession := { session.toText with sessionKey := some sessionKey }

/-- What a session with the key is opened to, once sealed. -/
def resealed (cipher : FieldCipher) (sessionKey : Text) : Except PyError (Option Text) :=
  (sealTextSession cipher (fun _ => 0) (sessionWithKey sessionKey) >>= openTextSession cipher).map
    TextSession.sessionKey

end Sample

/-- A session key that carries the marker is never opened, with a key or without, and
    Fernet does not seal one with a surrogate. -/
theorem sealed_unopened :
    Sample.resealed .null (Text.ofString "enc:v1:key") = .error .fieldDecryptError ∧
      Sample.resealed (.fernet Sample.fernet) (Text.ofString "enc:v1:key") =
        .error .fieldDecryptError ∧
      Sample.resealed (.fernet Sample.fernet) [0xd800] = .error .unicodeError := by
  decide +kernel

end Broker
