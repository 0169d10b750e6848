import Broker.Authorise

/-!
# Code challenges

The route for the authorisation accepts exactly the challenges of S256: the unpadded
encodings of 32 bytes (`isValidS256CodeChallenge_iff`). A challenge that decodes to 32 bytes
need not be one, since the last two bits of its last character are not decoded: the route
encodes the bytes again, and compares.
-/

namespace Broker

open Py

theorem isCodeChallengeChar_of_mem {c : Char} (h : c ∈ Base64.alphabet) :
    isCodeChallengeChar c = true := by
  have hall : Base64.alphabet.all isCodeChallengeChar = true := by decide
  exact List.all_eq_true.1 hall c h

/-- The encoding of 32 bytes passes all checks. -/
theorem isValid_encodeUnpadded {digest : List UInt8} (h : digest.length = 32) :
    isValidS256CodeChallenge (Base64.encodeUnpadded digest) = true := by
  have hlength : (Base64.encodeUnpadded digest).toList.length = 43 := by
    rw [Base64.length_encodeUnpadded, h]
  have hchars : (Base64.encodeUnpadded digest).toList.all isCodeChallengeChar = true :=
    List.all_eq_true.2 fun c hc => isCodeChallengeChar_of_mem (Base64.mem_encodeUnpadded hc)
  rw [isValidS256CodeChallenge]
  dsimp only
  rw [Base64.encodeUnpadded_pad, Base64.decode_encode, hlength, hchars]
  dsimp only
  rw [h]
  simp

theorem digest_of_isValid {challenge : String} (h : isValidS256CodeChallenge challenge = true) :
    ∃ digest : List UInt8, digest.length = 32 ∧ challenge = Base64.encodeUnpadded digest := by
  rw [isValidS256CodeChallenge] at h
  dsimp only at h
  rw [Bool.and_eq_true] at h
  obtain ⟨-, h⟩ := h
  split at h
  · cases h
  · rename_i digest _
    rw [Bool.and_eq_true, decide_eq_true_eq, decide_eq_true_eq] at h
    exact ⟨digest, h.1, h.2.symm⟩

/-- The challenges that are accepted are the unpadded encodings of 32 bytes. That of a verifier
    is one, and no two of them are of the same bytes. -/
theorem isValidS256CodeChallenge_iff :
    (∀ challenge, isValidS256CodeChallenge challenge = true ↔
      ∃ digest : List UInt8, digest.length = 32 ∧ challenge = Base64.encodeUnpadded digest) ∧
    (∀ verifier, isValidS256CodeChallenge (sha256B64url verifier) = true ∧
      sha256B64url verifier ≠ "" ∧ (sha256B64url verifier).length ≤ maxCodeChallengeLen) ∧
    ∀ challenge challenge', isValidS256CodeChallenge challenge = true →
      isValidS256CodeChallenge challenge' = true → ∀ digest digest' : List UInt8,
        challenge = Base64.encodeUnpadded digest → challenge' = Base64.encodeUnpadded digest' →
        (challenge = challenge' ↔ digest = digest') := by
  refine ⟨fun challenge => ⟨digest_of_isValid, ?_⟩, fun verifier => ?_, ?_⟩
  · rintro ⟨digest, hlength, rfl⟩
    exact isValid_encodeUnpadded hlength
  · have hlength := Sha256.length_digest verifier.toUTF8.toList
    have htext : (sha256B64url verifier).length = 43 := by
      rw [← String.length_toList, sha256B64url, Base64.length_encodeUnpadded, hlength]
    refine ⟨isValid_encodeUnpadded hlength, ?_, ?_⟩
    · rw [sha256B64url]
      exact Base64.encodeUnpadded_ne_empty (Sha256.digest_ne_nil _)
    · rw [htext]
      decide
  · rintro _ _ - - digest digest' rfl rfl
    exact Base64.encodeUnpadded_inj

/-- The challenges of two verifiers are accepted, and are as different as their digests. -/
theorem isValidS256CodeChallenge_iff_verifiers :
    isValidS256CodeChallenge (sha256B64url "a") = true ∧
      isValidS256CodeChallenge (sha256B64url "b") = true ∧
      sha256B64url "a" ≠ sha256B64url "b" := by
  obtain ⟨-, haccepted, hdistinct⟩ := isValidS256CodeChallenge_iff
  have hdigests : Sha256.digest "a".toUTF8.toList ≠ Sha256.digest "b".toUTF8.toList := by
    decide +kernel
  refine ⟨(haccepted "a").1, (haccepted "b").1, ?_⟩
  rw [ne_eq, hdistinct _ _ (haccepted "a").1 (haccepted "b").1 _ _ rfl rfl]
  exact hdigests

/-- A text that decodes to 32 zeros, but is not how they are encoded. -/
example : isValidS256CodeChallenge "AAAAAAAAAAAAAAAAAAAAAAAAAAAAAAAAAAAAAAAAAAB" = false := by
  decide +kernel

end Broker
