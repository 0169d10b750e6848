import Broker.Config
import Broker.Lib.CodePoints
import Broker.Lib.Raising

/-!
# Sessions and their sealing

A broker session binds a tenant, a user and an upstream ResourceSpace session;
the broker stamps it with the OAuth client it was issued to. Before a session
is stored its sensitive fields are sealed by a cipher (`sealSession`), and
opened again before it is used (`openSessionDict`).

Fernet is the one of the `cryptography` package: its encryption draws a fresh
initialisation vector at each call, and its decryption refuses what it did not
encrypt. Who a session is for (`Session.identity`) is what sealing, opening
and stamping leave alone.
-/

namespace Broker

open Py

/-- The error the services raise for what the user should be told. -/
structure ResourceSpaceError where
  code : String
  message : String
  statusCode : ℤ
  deriving DecidableEq, Repr

/-- The exceptions of the modelled code. -/
inductive PyError
  | fieldDecryptError
  | unicodeError
  | zeroDivisionError
  | overflowError
  | osError
  | valueError
  | typeError
  | keyError
  | attributeError
  | recursionError
  | resourceSpaceError (e : ResourceSpaceError)
  deriving DecidableEq, Repr

/-- The truth value of an optional time. -/
def truthyMs (t : Option ℤ) : Bool := t.any (· ≠ 0)

/-- The truth value of an optional string. -/
def truthyStr (s : Option String) : Bool := s.any (· ≠ "")

/-! ## Encodings -/

/-- The string that a text encodes in UTF-8: no surrogate can be encoded. -/
def encodable (s : Text) : Except PyError String :=
  if s.any CodePoint.isSurrogate then .error .unicodeError
  else .ok (String.ofList (s.map CodePoint.toChar))

/-- A text that is encoded. -/
def IsEncodable (s : Text) : Prop := ∀ p ∈ s, p.isSurrogate = false

theorem encodable_ok_iff {s : Text} {t : String} : encodable s = .ok t ↔ s = Text.ofString t := by
  rw [encodable]
  split_ifs with hany
  · refine iff_of_false (fun h => (by cases h)) ?_
    rintro rfl
    obtain ⟨p, hp, hsurrogate⟩ := List.any_eq_true.1 hany
    obtain ⟨c, -, rfl⟩ := List.mem_map.1 hp
    rw [CodePoint.isSurrogate_ofChar] at hsurrogate
    cases hsurrogate
  · rw [Bool.not_eq_true, List.any_eq_false] at hany
    have hback : (s.map CodePoint.toChar).map CodePoint.ofChar = s := by
      rw [List.map_map]
      exact (List.map_congr_left fun p hp =>
        CodePoint.ofChar_toChar (Bool.eq_false_of_not_eq_true (hany p hp))).trans (List.map_id _)
    rw [Except.ok.injEq]
    constructor
    · rintro rfl
      rw [Text.ofString, String.toList_ofList, hback]
    · rintro rfl
      rw [Text.ofString, List.map_map]
      have hid : CodePoint.toChar ∘ CodePoint.ofChar = id := funext CodePoint.toChar_ofChar
      rw [hid, List.map_id, String.ofList_toList]

theorem encodable_isOk_iff {s : Text} :
    (∃ t, encodable s = .ok t) ↔ IsEncodable s := by
  rw [IsEncodable, ← CodePoint.any_isSurrogate_iff, encodable]
  split_ifs with hany
  · exact iff_of_false (fun ⟨_, h⟩ => (by cases h)) (not_not_intro hany)
  · exact iff_of_true ⟨_, rfl⟩ hany

theorem isEncodable_ofString (s : String) : IsEncodable (Text.ofString s) := by
  intro p hp
  obtain ⟨c, -, rfl⟩ := List.mem_map.1 hp
  exact CodePoint.isSurrogate_ofChar c

/-! ## Sessions -/

structure User where
  id : String
  username : String
  displayName : String
  role : String
  email : Option String
  deriving DecidableEq, Repr

structure Upstream where
  mode : String
  sessionKey : Option String
  authenticatedAt : String
  deriving DecidableEq, Repr

/-- The mark of the OAuth client a session was issued to. -/
structure BrokerMark where
  clientId : String
  integration : Option String
  deriving DecidableEq, Repr

structure Session where
  tenant : Tenant
  user : User
  upstream : Upstream
  broker : Option BrokerMark
  deriving DecidableEq, Repr

/-- Who a session is for, and through which upstream. -/
structure Identity where
  tenant : Tenant
  userId : String
  username : String
  displayName : String
  role : String
  mode : String
  deriving DecidableEq, Repr

def Session.identity (s : Session) : Identity :=
  ⟨s.tenant, s.user.id, s.user.username, s.user.displayName, s.user.role, s.upstream.mode⟩

/-- The session is for the user `userId` of the tenant `tenantId`. -/
def Session.isFor (s : Session) (userId tenantId : String) : Prop :=
  s.user.id = userId ∧ s.tenant.id = tenantId

instance (s : Session) (userId tenantId : String) : Decidable (s.isFor userId tenantId) :=
  inferInstanceAs (Decidable (_ ∧ _))

/-- `_stamp_broker_session_metadata`. -/
def stampBrokerSessionMetadata (session : Session) (clientId : String)
    (integration : Option String) : Session :=
  { session with
    broker := some
      { clientId, integration := if truthyStr integration then integration else none } }

/-! ## Ciphers -/

/-- The prefix `ENC_PREFIX` of sealed values. -/
def encPrefix : String := "enc:v1:"

/-- `value.startswith(ENC_PREFIX)`. -/
def isSealed (value : String) : Bool := encPrefix.toList.isPrefixOf value.toList

/-- A Fernet key: encryption of bytes to an ASCII token, under the vector `iv`
    drawn for it, and decryption, none for `InvalidToken`. -/
structure Fernet where
  encrypt : (iv : ℕ) → ByteArray → String
  decrypt : String → Option ByteArray

/-- `FieldCipher`: the null cipher without a key, Fernet with one. -/
inductive FieldCipher
  | null
  | fernet (f : Fernet)

namespace FieldCipher

/-- `FieldCipher.seal`. -/
def «seal» (iv : ℕ) : FieldCipher → String → String
  | null, value => value
  | fernet f, value => if isSealed value then value else encPrefix ++ f.encrypt iv value.toUTF8

/-- `FieldCipher.open`. -/
def «open» : FieldCipher → String → Except PyError String
  | null, value => if isSealed value then .error .fieldDecryptError else .ok value
  | fernet f, value =>
    if isSealed value then
      let ciphertext := String.ofList (value.toList.drop encPrefix.length)
      if ciphertext.toList.all (·.toNat < 128) then
        match f.decrypt ciphertext with
        | none => .error .fieldDecryptError
        | some bytes => (String.fromUTF8? bytes).elim (.error .unicodeError) .ok
      else .error .unicodeError
    else .ok value

end FieldCipher

/-! ## Sealing sessions -/

/-- `AuthService._seal_session`, with the vectors drawn for its encryptions. -/
def sealSession (cipher : FieldCipher) (iv : ℕ → ℕ) (session : Session) : Session :=
  { session with
    upstream := { session.upstream with
      sessionKey := session.upstream.sessionKey.map fun k =>
        if k ≠ "" then cipher.seal (iv 0) k else k }
    user := { session.user with
      email := session.user.email.map fun e => if e ≠ "" then cipher.seal (iv 1) e else e } }

/-- Opens an optional field, when it is not empty. -/
def openField (cipher : FieldCipher) : Option String → Except PyError (Option String)
  | none => .ok none
  | some "" => .ok (some "")
  | some v => (cipher.open v).map some

/-- `AuthService._open_session_dict`. -/
def openSessionDict (cipher : FieldCipher) (session : Session) : Except PyError Session := do
  let sessionKey ← openField cipher session.upstream.sessionKey
  let email ← openField cipher session.user.email
  return { session with
    upstream := { session.upstream with sessionKey }
    user := { session.user with email } }

/-- `AuthService._try_open_session_dict`: none for a field that does not open. -/
def tryOpenSessionDict (cipher : FieldCipher) (session : Session) :
    Except PyError (Option Session) :=
  match openSessionDict cipher session with
  | .ok opened => .ok (some opened)
  | .error .fieldDecryptError => .ok none
  | .error e => .error e

/-- The stored session opens under the cipher. -/
def Session.opens (cipher : FieldCipher) (session : Session) : Prop :=
  ∃ opened, openSessionDict cipher session = .ok opened

/-! ## What sealing, opening and stamping leave alone -/

@[simp] theorem identity_stamp (s : Session) (clientId : String) (integration : Option String) :
    (stampBrokerSessionMetadata s clientId integration).identity = s.identity := rfl

@[simp] theorem identity_seal (cipher : FieldCipher) (iv : ℕ → ℕ) (s : Session) :
    (sealSession cipher iv s).identity = s.identity := rfl

theorem identity_of_open {cipher : FieldCipher} {s s' : Session}
    (h : openSessionDict cipher s = .ok s') : s'.identity = s.identity := by
  rw [openSessionDict] at h
  obtain ⟨sessionKey, -, h⟩ := exists_ok_of_bind h
  obtain ⟨email, -, h⟩ := exists_ok_of_bind h
  cases h
  rfl

/-- Opening depends on the sealed fields only. -/
theorem opens_stamp {cipher : FieldCipher} {s : Session} {clientId : String}
    {integration : Option String} :
    (stampBrokerSessionMetadata s clientId integration).opens cipher ↔ s.opens cipher := by
  unfold Session.opens openSessionDict stampBrokerSessionMetadata
  cases openField cipher s.upstream.sessionKey with
  | error e => exact Iff.rfl
  | ok k =>
    cases openField cipher s.user.email with
    | error e => exact Iff.rfl
    | ok e => exact ⟨fun _ => ⟨_, rfl⟩, fun _ => ⟨_, rfl⟩⟩

theorem tryOpen_eq_some_iff {cipher : FieldCipher} {s s' : Session} :
    tryOpenSessionDict cipher s = .ok (some s') ↔ openSessionDict cipher s = .ok s' := by
  rw [tryOpenSessionDict]
  split <;> simp_all

theorem isFor_iff_identity {s : Session} {u t : String} :
    s.isFor u t ↔ s.identity.userId = u ∧ s.identity.tenant.id = t := Iff.rfl

/-- Sessions of one identity are for the same user and tenant. -/
theorem isFor_congr {s s' : Session} (h : s.identity = s'.identity) (u t : String) :
    s.isFor u t ↔ s'.isFor u t := by
  rw [isFor_iff_identity, h, isFor_iff_identity]

end Broker
