import Broker.Lib.Base64
import Broker.ApiCalls
import Broker.Delivery
import Broker.Hops

/-!
# Signatures of Canva

The requests that Canva signs (`canva_verifier.py`). A request is sent with a list of
signatures, one for each secret that is in use, and is genuine if one of them is that by the
client secret.

The signatures are judged one by one: whatever else is in the list, a signature that matches is
found, and what matches is the expected one (`anyMatches`). With a client secret that can
be decoded, a signed request is accepted exactly if it was sent in time and the expected signature is
in the list (`verifyCanvaPostRequest_ok_iff`), and it is always answered.
-/

namespace Broker

open Py

/-! ## The verifier -/

/-- The settings of `signing` that the verifier reads. -/
structure CanvaSigningConfig where
  canvaClientSecret : String
  requestVerificationMode : String
  requestTimestampToleranceSeconds : ℤ
  deriving DecidableEq, Repr

structure VerificationResult where
  ok : Bool
  reason : Option String
  skipped : Bool
  deriving DecidableEq, Repr

namespace VerificationResult

/-- `VerificationResult(ok=True)`. -/
def accepted : VerificationResult := ⟨true, none, false⟩

/-- `VerificationResult(ok=False, reason=reason)`. -/
def rejected (reason : String) : VerificationResult := ⟨false, some reason, false⟩

/-- `VerificationResult(ok=True, skipped=True)`. -/
def notVerified : VerificationResult := ⟨true, none, true⟩

end VerificationResult

/-- `_split_signatures`. -/
def splitSignatures : Option String → List String
  | none => []
  | some raw => ((strippedParts ',' raw.toList).map String.ofList).filter (· ≠ "")

/-- `_is_valid_timestamp`. -/
def isValidTimestamp (sent received leniency : ℤ) : Bool := |sent - received| < leniency

/-- `_calculate_signature`. -/
def calculateSignature (secret : List UInt8) (message : String) : String :=
  String.ofList (hexdigest (Sha256.hmac secret message.toUTF8.toList))

/-- `_should_verify`. -/
def shouldVerify (mode : String) (markerPresent : Bool) : Bool :=
  if mode = "off" then false
  else if mode = "required" then true
  else markerPresent

/-- `base64.b64decode(s)`, none for a `ValueError`: the characters that only the URL-safe alphabet
    has are skipped, as all others outside the standard alphabet are. -/
def b64decode (s : String) : Option (List UInt8) :=
  Base64.decode (s.toList.filter fun c => c ≠ '-' ∧ c ≠ '_')

/-- The parameters that a signed `GET` request must have, besides the signatures. -/
def signedFields : List String := ["time", "user", "brand", "extensions", "state"]

/-- The text of a parameter that is there. -/
def fieldOf (queryParams : Dict String String) (name : String) : String :=
  (queryParams.get? name).getD ""

/-- The text that a `GET` request is signed for. -/
def getMessage (queryParams : Dict String String) : String :=
  "v1:" ++ fieldOf queryParams "time" ++ ":" ++ fieldOf queryParams "user" ++ ":" ++
    fieldOf queryParams "brand" ++ ":" ++ fieldOf queryParams "extensions" ++ ":" ++
    fieldOf queryParams "state"

namespace CanvaSigningConfig

variable (config : CanvaSigningConfig)

/-- `_decode_secret`. -/
def decodeSecret : Option (List UInt8) :=
  if config.canvaClientSecret = "" then none else b64decode config.canvaClientSecret

/-- What both verifiers answer when there is nothing to verify. -/
def unverified : VerificationResult :=
  if config.requestVerificationMode = "off" then .accepted else .notVerified

/-- The part of both verifiers after the fields of the request are found. -/
def verifySigned (secret : List UInt8) (signatures : List String) (timeValue message : String)
    (now : ℤ) : Except PyError VerificationResult :=
  match int timeValue with
  | none => .ok (.rejected "invalid_timestamp")
  | some sent =>
    if !isValidTimestamp sent now config.requestTimestampToleranceSeconds then
      .ok (.rejected "invalid_timestamp")
    else do
      let expected := calculateSignature secret message
      if ← signatures.anyM (signatureMatches expected) then return .accepted
      return .rejected "invalid_signature"

/-- `verify_canva_get_request`, at the time `now` in whole seconds. -/
def verifyCanvaGetRequest (queryParams : Dict String String) (now : ℤ) :
    Except PyError VerificationResult :=
  let signatures := splitSignatures (queryParams.get? "signatures")
  if !shouldVerify config.requestVerificationMode (!signatures.isEmpty) then .ok config.unverified
  else
    match config.decodeSecret with
    | none => .ok (.rejected "missing_client_secret")
    | some secret =>
      if !(signedFields.all fun name => truthyStr (queryParams.get? name)) || signatures.isEmpty then
        .ok (.rejected "missing_signature_fields")
      else
        config.verifySigned secret signatures (fieldOf queryParams "time") (getMessage queryParams) now

/-- `verify_canva_post_request`, at the time `now` in whole seconds. -/
def verifyCanvaPostRequest (headers : Dict String String) (path rawBody : String) (now : ℤ) :
    Except PyError VerificationResult :=
  let signatures := splitSignatures (headers.get? "x-canva-signatures")
  let timestamp := headers.get? "x-canva-timestamp"
  if !shouldVerify config.requestVerificationMode (!signatures.isEmpty) then .ok config.unverified
  else
    match config.decodeSecret with
    | none => .ok (.rejected "missing_client_secret")
    | some secret =>
      if !truthyStr timestamp || signatures.isEmpty then .ok (.rejected "missing_signature_fields")
      else
        config.verifySigned secret signatures (timestamp.getD "")
          ("v1:" ++ timestamp.getD "" ++ ":" ++ path ++ ":" ++ rawBody) now

end CanvaSigningConfig

/-! ## The list of signatures -/

theorem mem_splitSignatures {raw : Option String} {signature : String} :
    signature ∈ splitSignatures raw ↔ signature ≠ "" ∧
      ∃ text, raw = some text ∧ ∃ entry ∈ text.toList.splitOn ',', strip entry = signature.toList := by
  cases raw with
  | none => simp [splitSignatures]
  | some text =>
    rw [splitSignatures, List.mem_filter, decide_eq_true_eq, and_comm]
    refine and_congr_right fun _ => ?_
    simp only [strippedParts, List.mem_map, exists_exists_and_eq_and, Option.some.injEq,
      exists_eq_left']
    refine exists_congr fun entry => and_congr_right fun _ => ?_
    rw [← String.toList_inj, String.toList_ofList]

/-- Each signature is judged, until one matches: a digest is found exactly if it is in the list. -/
theorem anyMatches {expected : String} (ascii : isAscii expected.toList = true)
    (signatures : List String) :
    signatures.anyM (signatureMatches expected) = .ok (decide (expected ∈ signatures)) := by
  induction signatures with
  | nil => rfl
  | cons signature signatures ih =>
    rw [List.anyM, signatureMatches_eq ascii]
    by_cases h : expected = signature
    · subst h
      simp [pure, Except.pure, bind, Except.bind]
    · simp [bind, Except.bind, h, ih]

theorem isAscii_calculateSignature (secret : List UInt8) (message : String) :
    isAscii (calculateSignature secret message).toList = true := by
  have hascii : ∀ n < 16, decide ((Nat.digitChar n).toNat < 128) = true := by decide
  rw [calculateSignature, String.toList_ofList, isAscii, List.all_eq_true]
  exact forall_mem_hexdigest hascii _

/-- A signature is the digest of a message, which has 64 digits. -/
theorem calculateSignature_ne_empty (secret : List UInt8) (message : String) :
    calculateSignature secret message ≠ "" := by
  intro hempty
  have hlength : (calculateSignature secret message).toList.length = 64 := by
    rw [calculateSignature, String.toList_ofList, length_hexdigest, Sha256.hmac,
      Sha256.length_digest]
  rw [hempty] at hlength
  cases hlength

/-! ## Verdicts -/

section Verdicts

variable {config : CanvaSigningConfig} {secret : List UInt8}

/-- The request was sent in time, with an integer for its timestamp. -/
def CanvaSigningConfig.InTime (config : CanvaSigningConfig) (timeValue : String) (now : ℤ) : Prop :=
  ∃ sent, int timeValue = some sent ∧ |sent - now| < config.requestTimestampToleranceSeconds

/-- A verdict is reached, and is that the request is accepted exactly if `p`. -/
def Judges (verdict : Except PyError VerificationResult) (p : Prop) : Prop :=
  ∃ result, verdict = .ok result ∧ (result.ok = true ↔ p)

theorem judges_rejected {reason : String} {p : Prop} (h : ¬p) :
    Judges (.ok (.rejected reason)) p :=
  ⟨_, rfl, fun hok => absurd hok Bool.false_ne_true, fun hp => absurd hp h⟩

theorem verifySigned_judges (signatures : List String) (timeValue message : String) (now : ℤ) :
    Judges (config.verifySigned secret signatures timeValue message now)
      (config.InTime timeValue now ∧ calculateSignature secret message ∈ signatures) := by
  rw [CanvaSigningConfig.verifySigned]
  cases hsent : int timeValue with
  | none =>
    refine judges_rejected ?_
    rintro ⟨⟨sent, hsome, -⟩, -⟩
    cases hsent.symm.trans hsome
  | some sent =>
    have htime : config.InTime timeValue now ↔
        isValidTimestamp sent now config.requestTimestampToleranceSeconds = true := by
      rw [CanvaSigningConfig.InTime, hsent, isValidTimestamp, decide_eq_true_eq]
      simp only [Option.some.injEq, exists_eq_left']
    rw [htime]
    dsimp only
    by_cases hvalid : isValidTimestamp sent now config.requestTimestampToleranceSeconds = true
    · rw [hvalid, Bool.not_true, if_neg Bool.false_ne_true,
        anyMatches (isAscii_calculateSignature secret message)]
      by_cases hmem : calculateSignature secret message ∈ signatures
      · rw [decide_eq_true hmem]
        exact ⟨_, rfl, fun _ => ⟨rfl, hmem⟩, fun _ => rfl⟩
      · rw [decide_eq_false hmem]
        exact judges_rejected (not_and_of_not_right _ hmem)
    · rw [Bool.not_eq_true] at hvalid
      rw [hvalid, Bool.not_false, if_pos rfl]
      exact judges_rejected (not_and_of_not_left _ Bool.false_ne_true)

theorem shouldVerify_required (required : config.requestVerificationMode = "required")
    (markerPresent : Bool) : shouldVerify config.requestVerificationMode markerPresent = true := by
  rw [required]
  rfl

/-- What a signed `GET` request is accepted for. -/
theorem verifyCanvaGetRequest_judges (required : config.requestVerificationMode = "required")
    (decodable : config.decodeSecret = some secret) (queryParams : Dict String String) (now : ℤ) :
    Judges (config.verifyCanvaGetRequest queryParams now)
      ((∀ name ∈ signedFields, truthyStr (queryParams.get? name) = true) ∧
        config.InTime (fieldOf queryParams "time") now ∧
        calculateSignature secret (getMessage queryParams) ∈
          splitSignatures (queryParams.get? "signatures")) := by
  rw [CanvaSigningConfig.verifyCanvaGetRequest]
  rw [shouldVerify_required required, decodable]
  simp only [Bool.not_true, Bool.false_eq_true, if_false, Bool.or_eq_true, Bool.not_eq_true',
    List.isEmpty_iff, List.all_eq_false]
  split_ifs with hmissing
  · refine judges_rejected ?_
    rintro ⟨hall, -, hmem⟩
    obtain ⟨name, hname, hfalsy⟩ | hnil := hmissing
    · exact hfalsy (hall name hname)
    · rw [hnil] at hmem
      cases hmem
  · obtain ⟨hthere, -⟩ := not_or.1 hmissing
    have hall : ∀ name ∈ signedFields, truthyStr (queryParams.get? name) = true := fun name hname =>
      not_not.1 fun hfalsy => hthere ⟨name, hname, hfalsy⟩
    obtain ⟨result, hresult, hok⟩ := @verifySigned_judges config secret
      (splitSignatures (queryParams.get? "signatures")) (fieldOf queryParams "time")
      (getMessage queryParams) now
    exact ⟨result, hresult, hok.trans (and_iff_right hall).symm⟩

theorem int_empty : int "" = none := by decide

/-- What a signed `POST` request is accepted for. -/
theorem verifyCanvaPostRequest_judges (required : config.requestVerificationMode = "required")
    (decodable : config.decodeSecret = some secret) (headers : Dict String String)
    (path rawBody : String) (now : ℤ) :
    Judges (config.verifyCanvaPostRequest headers path rawBody now)
      (∃ timestamp, headers.get? "x-canva-timestamp" = some timestamp ∧
        config.InTime timestamp now ∧
        calculateSignature secret ("v1:" ++ timestamp ++ ":" ++ path ++ ":" ++ rawBody) ∈
          splitSignatures (headers.get? "x-canva-signatures")) := by
  rw [CanvaSigningConfig.verifyCanvaPostRequest, shouldVerify_required required, decodable]
  simp only [Bool.not_true, Bool.false_eq_true, if_false, Bool.or_eq_true, Bool.not_eq_true',
    List.isEmpty_iff]
  split_ifs with hmissing
  · refine judges_rejected ?_
    rintro ⟨timestamp, htimestamp, ⟨sent, hsent, -⟩, hmem⟩
    -- An empty timestamp is no number, and no signature is in an empty header.
    obtain hfalsy | hnil := hmissing
    · rw [htimestamp, truthyStr, Option.any_some, decide_eq_false_iff_not, not_not] at hfalsy
      rw [hfalsy, int_empty] at hsent
      cases hsent
    · rw [hnil] at hmem
      cases hmem
  · obtain ⟨hthere, -⟩ := not_or.1 hmissing
    cases htimestamp : headers.get? "x-canva-timestamp" with
    | none =>
      rw [htimestamp] at hthere
      exact absurd rfl hthere
    | some timestamp =>
      simp only [Option.getD_some, Option.some.injEq, exists_eq_left']
      exact verifySigned_judges _ _ _ _

/-- With a client secret that can be decoded, a `POST` request is always answered, and accepted
    exactly if it was sent in time and some part of the list of signatures, without the blanks around
    it, is the expected one. -/
theorem verifyCanvaPostRequest_ok_iff (required : config.requestVerificationMode = "required")
    (decodable : config.decodeSecret = some secret) (headers : Dict String String)
    (path rawBody : String) (now : ℤ) :
    ∃ result, config.verifyCanvaPostRequest headers path rawBody now = .ok result ∧
      (result.ok = true ↔ ∃ timestamp sent, headers.get? "x-canva-timestamp" = some timestamp ∧
        int timestamp = some sent ∧ |sent - now| < config.requestTimestampToleranceSeconds ∧
        ∃ raw, headers.get? "x-canva-signatures" = some raw ∧
          ∃ entry ∈ raw.toList.splitOn ',', strip entry = hexdigest (Sha256.hmac secret
            ("v1:" ++ timestamp ++ ":" ++ path ++ ":" ++ rawBody).toUTF8.toList)) := by
  obtain ⟨result, hresult, hok⟩ :=
    verifyCanvaPostRequest_judges required decodable headers path rawBody now
  refine ⟨result, hresult, hok.trans (exists_congr fun timestamp => ?_)⟩
  rw [mem_splitSignatures, and_iff_right (calculateSignature_ne_empty _ _), calculateSignature,
    String.toList_ofList, CanvaSigningConfig.InTime]
  constructor
  · rintro ⟨htimestamp, ⟨sent, hsent, htime⟩, raw, hraw, hentry⟩
    exact ⟨sent, htimestamp, hsent, htime, raw, hraw, hentry⟩
  · rintro ⟨sent, htimestamp, hsent, htime, raw, hraw, hentry⟩
    exact ⟨htimestamp, ⟨sent, hsent, htime⟩, raw, hraw, hentry⟩

end Verdicts

namespace Sample

/-- The client secret is `b"secret"`. -/
def canvaSigning : CanvaSigningConfig := ⟨"c2VjcmV0", "required", 300⟩

/-- The second of the signatures is that of the request. -/
def canvaHeaders : Dict String String where
  entries := [
    ("x-canva-timestamp", "1000"),
    ("x-canva-signatures",
      "é,, f0e9bc8064c3f5d8294cd7a690f6941bb37dfc8db158e461d00e6476860c43dd ,short")]
  nodup := by decide

end Sample

theorem verifyCanvaPostRequest_ok_sample :
    ∃ result, Sample.canvaSigning.verifyCanvaPostRequest Sample.canvaHeaders
      "/webhooks/canva/user-uninstall" "{}" 1299 = .ok result ∧ result.ok = true := by
  have hsecret : Sample.canvaSigning.decodeSecret = some "secret".toUTF8.toList := by decide +kernel
  obtain ⟨result, hresult, hok⟩ := @verifyCanvaPostRequest_ok_iff Sample.canvaSigning _
    rfl hsecret Sample.canvaHeaders "/webhooks/canva/user-uninstall" "{}" 1299
  refine ⟨result, hresult, hok.2 ⟨"1000", 1000, by decide, by decide +kernel, by decide +kernel, _, rfl,
    " f0e9bc8064c3f5d8294cd7a690f6941bb37dfc8db158e461d00e6476860c43dd ".toList, ?_, ?_⟩⟩
  · decide +kernel
  · decide +kernel

end Broker
