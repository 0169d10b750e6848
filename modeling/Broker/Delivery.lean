import Broker.Grants

/-!
# Delivery of grants

The routes `/public/assets/{grant_id}` and `/signed/assets/{grant_id}` up to the
bytes of a grant (`serveGrant`). What they are asked for is accepted, or refused with
a reason and a status, unless its signature is compared and not ASCII: then the
comparison raises (`grant_verdict_iff`).

The signatures of Canva are compared too, and only if they have the shape of the
expected one (`signatureMatches`): there every signature has a verdict
(`signatureMatches_eq`).
-/

namespace Broker

open Py

/-- `hmac.compare_digest` of strings. -/
def compareDigest (expected candidate : String) : Except PyError Bool :=
  if isAscii expected.toList && isAscii candidate.toList then .ok (expected = candidate)
  else .error .typeError

/-- `_signature_matches` of the Canva verifier. -/
def signatureMatches (expected candidate : String) : Except PyError Bool :=
  if candidate.toList.length = expected.toList.length && isAscii candidate.toList then
    compareDigest expected candidate
  else .ok false

/-- An expected digest, which is ASCII, is matched by itself only. -/
theorem signatureMatches_eq {expected : String} (ascii : isAscii expected.toList = true)
    (candidate : String) : signatureMatches expected candidate = .ok (expected = candidate) := by
  rw [signatureMatches, compareDigest, ascii, Bool.true_and]
  by_cases h : expected = candidate
  · subst h
    simp [ascii]
  · rw [decide_eq_false h]
    cases isAscii candidate.toList with
    | false => rw [Bool.and_false, if_neg Bool.false_ne_true]
    | true => rw [if_pos rfl, ite_self]

/-- The answer of `_serve_grant` up to the bytes of the grant. -/
inductive Delivery
  | refused (statusCode : ℤ) (code reason : String)
  | accepted (grant : AssetGrant)
  deriving DecidableEq, Repr

/-- `_serve_grant` up to `build_grant_response`. -/
def serveGrant (service : AssetService) (now : ℕ → ℤ) (grantId expires signature : Option String)
    (state : Store) : Except PyError Delivery :=
  (service.verifyGrant now grantId expires signature state).1.map fun
    | .refused reason => .refused (if reason = "expired" then 410 else 403) reason.toUpper reason
    | .ok grant => .accepted grant

/-- The reasons of `verify_grant`. -/
def refusalReasons : List String := ["missing_signature", "expired", "invalid_signature"]

/-- A verdict: the grant is accepted, or refused with one of the reasons. -/
def Verification.IsVerdict : Except PyError Verification → Prop
  | .ok (.ok _) => True
  | .ok (.refused reason) => reason ∈ refusalReasons
  | .error _ => False

section

variable {service : AssetService} {now : ℕ → ℤ} {grantId expires signature : Option String}
  {state : Store}

/-- What is not compared has a verdict. -/
theorem isVerdict_of_not_compared (h : ¬Compared (now 0) grantId expires signature) :
    Verification.IsVerdict (service.verifyGrant now grantId expires signature state).1 := by
  rw [AssetService.verifyGrant]
  split_ifs with hmissing
  · exact List.mem_cons_self
  · simp only [Bool.or_eq_true, Bool.not_eq_true', not_or, Bool.not_eq_false] at hmissing
    dsimp only
    cases hint : int (expires.getD "") with
    | none => exact List.mem_cons_of_mem _ List.mem_cons_self
    | some n =>
      have hpassed : n < now 0 := by
        by_contra hle
        exact h ⟨hmissing.1.1, hmissing.1.2, hmissing.2, n, hint, not_lt.1 hle⟩
      dsimp only
      rw [if_pos hpassed]
      exact List.mem_cons_of_mem _ List.mem_cons_self

/-- What is compared raises if its signature is not ASCII, and has a verdict if it is. -/
theorem verdict_of_compared (h : Compared (now 0) grantId expires signature) :
    (isAscii (signature.getD "").toList = false →
      (service.verifyGrant now grantId expires signature state).1 = .error .typeError) ∧
    (isAscii (signature.getD "").toList = true →
      Verification.IsVerdict (service.verifyGrant now grantId expires signature state).1) := by
  obtain ⟨hid, hexpires, hsignature, n, hint, hn⟩ := h
  rw [AssetService.verifyGrant, if_neg (by rw [hid, hexpires, hsignature]; decide)]
  dsimp only
  rw [hint]
  dsimp only
  rw [if_neg (not_lt.2 hn)]
  constructor
  · intro hascii
    rw [hascii]
    rfl
  · intro hascii
    rw [hascii, if_neg (by decide)]
    generalize createSignature _ _ _ = created
    split_ifs with hsame
    · exact List.mem_cons_of_mem _ (List.mem_cons_of_mem _ List.mem_cons_self)
    · rw [update, AssetService.grantUpdater]
      dsimp only
      cases (pruneExpiredGrants state (now 1)).assetGrants.get? (grantId.getD "") with
      | none => exact List.mem_cons_of_mem _ List.mem_cons_self
      | some grant =>
        dsimp only
        split_ifs
        · exact List.mem_cons_of_mem _ List.mem_cons_self
        · trivial

/-- A request for a grant has a verdict, or raises for a signature that is compared and
    is not ASCII. -/
theorem verdict_cases :
    (Verification.IsVerdict (service.verifyGrant now grantId expires signature state).1 ∧
      (Compared (now 0) grantId expires signature → isAscii (signature.getD "").toList = true)) ∨
    ((service.verifyGrant now grantId expires signature state).1 = .error .typeError ∧
      ¬(Compared (now 0) grantId expires signature →
        isAscii (signature.getD "").toList = true)) := by
  by_cases h : Compared (now 0) grantId expires signature
  · cases hascii : isAscii (signature.getD "").toList with
    | true => exact .inl ⟨(verdict_of_compared h).2 hascii, fun _ => rfl⟩
    | false => exact .inr ⟨(verdict_of_compared h).1 hascii, fun hall => Bool.false_ne_true (hall h)⟩
  · exact .inl ⟨isVerdict_of_not_compared h, fun hcompared => absurd hcompared h⟩

end

/-- A request for a grant has a verdict, which the route answers, exactly if its
    signature is ASCII when it is compared at all; a refusal is answered with the status
    of a client error. -/
theorem grant_verdict_iff (service : AssetService) (now : ℕ → ℤ)
    (grantId expires signature : Option String) (state : Store) :
    (Verification.IsVerdict (service.verifyGrant now grantId expires signature state).1 ↔
      (Compared (now 0) grantId expires signature → isAscii (signature.getD "").toList = true)) ∧
    ((∃ delivery, serveGrant service now grantId expires signature state = .ok delivery) ↔
      (Compared (now 0) grantId expires signature → isAscii (signature.getD "").toList = true)) ∧
    ∀ statusCode code reason,
      serveGrant service now grantId expires signature state = .ok (.refused statusCode code reason) →
        400 ≤ statusCode ∧ statusCode < 500 := by
  rw [serveGrant]
  rcases @verdict_cases service now grantId expires signature state with ⟨hverdict, hascii⟩ | ⟨herror, hascii⟩
  · refine ⟨iff_of_true hverdict hascii, iff_of_true ?_ hascii, fun statusCode code reason h => ?_⟩
    · cases hresult : (service.verifyGrant now grantId expires signature state).1 with
      | ok verification => exact ⟨_, rfl⟩
      | error e =>
        rw [hresult] at hverdict
        exact absurd hverdict id
    · cases hresult : (service.verifyGrant now grantId expires signature state).1 with
      | ok verification =>
        rw [hresult] at h
        cases verification with
        | ok grant => cases h
        | refused reason' =>
          cases h
          split_ifs <;> decide
      | error e =>
        rw [hresult] at hverdict
        exact absurd hverdict id
  · rw [herror]
    refine ⟨iff_of_false id hascii, iff_of_false ?_ hascii, fun statusCode code reason h => ?_⟩
    · rintro ⟨delivery, h⟩
      cases h
    · cases h

/-- A request whose signature is not ASCII, on an empty store: the route raises, and
    the Canva verifier would only have said no. -/
theorem signature_raises :
    serveGrant ⟨Sample.config⟩ (fun _ => 5000) (some "grant_e") (some "304000") (some "é")
        Store.initial = .error .typeError ∧
      signatureMatches (createSignature "grant_e" 304000 Sample.config.signing.assetSecret) "é" =
        .ok false := by
  have hcompared : Compared 5000 (some "grant_e") (some "304000") (some "é") :=
    ⟨rfl, rfl, rfl, 304000, by decide +kernel, by decide⟩
  refine ⟨?_, ?_⟩
  · rw [serveGrant, (verdict_of_compared hcompared).1 (by decide)]
    rfl
  · rw [createSignature_eq, signatureMatches_eq (ascii_signMessage _ _), decide_eq_false]
    intro h
    have hascii := ascii_signMessage Sample.config.signing.assetSecret (grantMessage "grant_e" 304000)
    rw [h] at hascii
    revert hascii
    decide

end Broker
