import Broker.AccessTokens

/-!
# Signed grants

The URL of an asset grant carries its id, its expiry and a signature of both
(`SignedGrant`). The service accepts these three until the expiry, unless the
tokens of the user are revoked in between (`stored_grant`, `grant_while_live`).

Anything else is not accepted, as long as a signature it carries was not made
without the secret: the messages of different grants differ
(`grantMessage_inj`). It is refused with a reason too, except that a signature
that is not ASCII makes the comparison raise (`grant_accepted_iff`).
-/

namespace Broker

open Py Runs

variable {unicode : Unicode}

/-! ## Messages -/

/-- The message that is signed for a grant. -/
def grantMessage (grantId : String) (expiresAt : ℤ) : List UInt8 :=
  (grantId ++ ":" ++ toString expiresAt).toUTF8.toList

/-- The signature of a message under a secret. -/
def signMessage (secret : String) (message : List UInt8) : String :=
  Base64.encodeUnpadded (Sha256.hmac secret.toUTF8.toList message)

theorem createSignature_eq (grantId : String) (expiresAt : ℤ) (secret : String) :
    createSignature grantId expiresAt secret = signMessage secret (grantMessage grantId expiresAt) :=
  rfl

theorem ascii_signMessage (secret : String) (message : List UInt8) :
    isAscii (signMessage secret message).toList = true :=
  Base64.ascii_encodeUnpadded _

theorem signMessage_ne_empty (secret : String) (message : List UInt8) :
    signMessage secret message ≠ "" :=
  Base64.encodeUnpadded_ne_empty (Sha256.digest_ne_nil _)

/-- The text after the last separator, and the text before it. -/
theorem append_separator_inj {α : Type} {c : α} {a a' b b' : List α} (hb : c ∉ b) (hb' : c ∉ b')
    (h : a ++ c :: b = a' ++ c :: b') : a = a' ∧ b = b' := by
  rcases Machine.position_cases h with ⟨ha, -, hb⟩ | ⟨mid, -, hmid⟩ | ⟨mid, -, hmid⟩
  · exact ⟨ha, hb⟩
  · rw [hmid] at hb
    exact absurd (List.mem_append_right mid List.mem_cons_self) hb
  · rw [hmid] at hb'
    exact absurd (List.mem_append_right mid List.mem_cons_self) hb'

theorem colon_notMem_toString (n : ℤ) : ':' ∉ (toString n).toList := by
  have hdigits : ∀ k : ℕ, ':' ∉ Nat.toDigits 10 k := fun k hk => by
    cases isDigit_of_mem_toDigits hk
  rw [toList_toString]
  split_ifs
  · exact hdigits _
  · rw [List.mem_cons, not_or]
    exact ⟨by decide, hdigits _⟩

/-- The messages of different grants differ, whatever their ids. -/
theorem grantMessage_inj {grantId grantId' : String} {n n' : ℤ}
    (h : grantMessage grantId n = grantMessage grantId' n') : grantId = grantId' ∧ n = n' := by
  have hlist := congrArg String.toList (utf8_inj h)
  simp only [String.toList_append, List.append_assoc] at hlist
  obtain ⟨hid, hn⟩ := append_separator_inj (colon_notMem_toString n) (colon_notMem_toString n') hlist
  exact ⟨String.toList_inj.1 hid, toString_inj hn⟩

/-! ## Issuing -/

/-- What the URL of a grant carries. -/
structure SignedGrant where
  grantId : String
  expiresAt : ℤ
  signature : String
  deriving DecidableEq

namespace AssetService

variable (service : AssetService)

/-- What `_create_grant` puts into the URL. -/
def signedGrant (now : ℤ) (rand : Rand) : SignedGrant :=
  let grantId := randomToken "grant" (rand.token 0)
  let expiresAt := now + service.config.oauth.signedUrlTtlSeconds * 1000
  ⟨grantId, expiresAt, createSignature grantId expiresAt service.config.signing.assetSecret⟩

/-- The URL of a grant. -/
def grantUrl (pathPrefix : String) (g : SignedGrant) : String :=
  service.config.baseUrl ++ pathPrefix ++ "/" ++ g.grantId ++ "?" ++
    String.ofList (Url.urlencode [("expires", toString g.expiresAt), ("sig", g.signature)])

end AssetService

/-- The event issues a grant, for an authorised request. -/
structure IssuesGrant (unicode : Unicode) (w : World) (e : Event) (r : Request)
    (request : GrantRequest) (issued : SignedGrant) : Prop where
  action : ∃ call, e.action = .createGrant call request ∧ w.requests.get? call = some r
  carries : issued = (AssetService.mk r.service.config).signedGrant (e.now 1) e.rand
  answered : ∃ expires, (broker unicode).out w e = .ok (.grant ⟨issued.grantId,
    (AssetService.mk r.service.config).grantUrl request.pathPrefix issued, expires⟩)

/-- The grant that an event issues. -/
abbrev issuedGrant (e : Event) (r : Request) (request : GrantRequest) : AssetGrant :=
  (AssetService.mk r.service.config).assetGrant (e.now 1) e.rand r.session request

/-- An expiry with an ISO text is short. -/
theorem natAbs_lt_of_isoFromMs {ms : ℤ} {text : String} (h : isoFromMs ms = .ok text) :
    ms.natAbs < 10 ^ intMaxStrDigits := by
  rw [isoFromMs] at h
  obtain ⟨t, ht, -⟩ := exists_ok_of_bind h
  cases hround : Double.round (ms / 1000) with
  | none =>
    rw [hround] at ht
    cases ht
  | some t' =>
    have habs := Double.abs_lt_of_round hround
    have hbound : 2 ^ 1025 * 1000 < 10 ^ intMaxStrDigits := by decide +kernel
    have hpow : (2 : ℚ) ^ 1025 = (2 ^ 1025 : ℕ) := by rw [Nat.cast_pow, Nat.cast_ofNat]
    rw [hpow, abs_div, abs_of_pos (by norm_num : (0 : ℚ) < 1000),
      div_lt_iff₀ (by norm_num)] at habs
    generalize 2 ^ 1025 = bound at habs hbound
    have hms : ms.natAbs < bound * 1000 := by
      rw [← Int.cast_abs, Int.abs_eq_natAbs] at habs
      exact_mod_cast habs
    exact lt_trans hms hbound

/-- A creation that answers issues a grant. -/
theorem issuesGrant_of_answer {w : World} {e : Event} {call : ℕ} {r : Request}
    {request : GrantRequest} {response : GrantResponse}
    (action : e.action = .createGrant call request) (inFlight : w.requests.get? call = some r)
    (answered : (broker unicode).out w e = .ok (.grant response)) :
    IssuesGrant unicode w e r request
        ((AssetService.mk r.service.config).signedGrant (e.now 1) e.rand) ∧
      ((broker unicode).next w e).store.assetGrants.get? (randomToken "grant" (e.rand.token 0)) =
        some (issuedGrant e r request) ∧
      (issuedGrant e r request).expiresAt.natAbs < 10 ^ intMaxStrDigits := by
  have hout := answered
  change (w.step unicode e).1 = _ at answered
  change _ ∧ (w.step unicode e).2.store.assetGrants.get? _ = _ ∧ _
  unfold World.step at answered ⊢
  rw [action] at answered ⊢
  dsimp only at answered ⊢
  rw [inFlight] at answered ⊢
  dsimp only [World.commit] at answered ⊢
  unfold update AssetService.createGrantUpdater at answered ⊢
  dsimp only at answered ⊢
  cases hiso : isoFromMs (e.now 1 + r.service.config.oauth.signedUrlTtlSeconds * 1000) with
  | error error =>
    rw [hiso] at answered
    cases answered
  | ok expires =>
    rw [hiso] at answered
    cases answered
    refine ⟨⟨⟨call, action, inFlight⟩, rfl, expires, hout⟩, ?_, natAbs_lt_of_isoFromMs hiso⟩
    exact Dict.get?_set_self _ _ _

/-! ## The life of a grant -/

section Life

variable {pre mid : List Event} {e : Event} {r : Request} {request : GrantRequest}

/-- The key of a grant is not drawn again in a fresh run. -/
theorem grant_not_redrawn {f : Event} (fresh : Fresh (pre ++ e :: mid ++ [f])) :
    randomToken "grant" (e.rand.token 0) ≠ randomToken "grant" (f.rand.token 0) := by
  intro hkey
  have hdrawn : Drawn "grant" (pre ++ e :: mid) (randomToken "grant" (e.rand.token 0)) :=
    ⟨e, by simp, 0, rfl⟩
  exact fresh.not_drawn 0 (hkey ▸ hdrawn)

/-- A grant that is stored is as it was issued, and no revocation for its user
    was made since, or it was revoked. -/
theorem stored_grant (fresh : Fresh (pre ++ e :: mid))
    (stored : ((broker unicode).next ((broker unicode).after pre) e).store.assetGrants.get?
      (randomToken "grant" (e.rand.token 0)) = some (issuedGrant e r request)) {g : AssetGrant}
    (hg : ((broker unicode).after (pre ++ e :: mid)).store.assetGrants.get?
      (randomToken "grant" (e.rand.token 0)) = some g) :
    (g = issuedGrant e r request ∧ ∀ f ∈ mid,
      f.action ≠ .revokeTokensForUser r.session.user.id r.session.tenant.id) ∨
    g.expiresAt = 0 := by
  induction mid using List.reverseRecOn generalizing g with
  | nil =>
    rw [Machine.after_snoc, stored, Option.some.injEq] at hg
    subst hg
    exact .inl ⟨rfl, fun f hf => absurd hf List.not_mem_nil⟩
  | append_singleton mid f ih =>
    have happend : pre ++ e :: (mid ++ [f]) = (pre ++ e :: mid) ++ [f] := by simp
    rw [happend] at fresh hg
    rw [Machine.after_snoc] at hg
    have hstep := grant_step unicode ((broker unicode).after (pre ++ e :: mid)) f
      (randomToken "grant" (e.rand.token 0))
    rw [hg] at hstep
    generalize hold : ((broker unicode).after (pre ++ e :: mid)).store.assetGrants.get?
      (randomToken "grant" (e.rand.token 0)) = o at hstep
    -- The grant stays as it was issued until its user is revoked, which sets its expiry to zero.
    cases hstep with
    | kept user =>
      rcases ih fresh.append_left hold with ⟨rfl, hrevoked⟩ | hzero
      · refine .inl ⟨rfl, fun h hh => ?_⟩
        rcases List.mem_append.1 hh with hh | hh
        · exact hrevoked h hh
        · rw [List.mem_singleton.1 hh]
          exact fun action => user _ _ action ⟨rfl, rfl⟩
      · exact .inr hzero
    | marked _ _ => exact .inr rfl
    | granted _ _ key => exact absurd key (grant_not_redrawn fresh)

/-- An issued grant stays stored as it is, as long as it has not expired and its
    user's tokens are not revoked. -/
theorem grant_while_live (fresh : Fresh (pre ++ e :: mid))
    (stored : ((broker unicode).next ((broker unicode).after pre) e).store.assetGrants.get?
      (randomToken "grant" (e.rand.token 0)) = some (issuedGrant e r request))
    (unrevoked : ∀ f ∈ mid,
      f.action ≠ .revokeTokensForUser r.session.user.id r.session.tenant.id)
    (unexpired : ∀ f ∈ mid, ∀ i, f.now i < (issuedGrant e r request).expiresAt) :
    ((broker unicode).after (pre ++ e :: mid)).store.assetGrants.get?
      (randomToken "grant" (e.rand.token 0)) = some (issuedGrant e r request) := by
  induction mid using List.reverseRecOn with
  | nil => rwa [Machine.after_snoc]
  | append_singleton mid f ih =>
    have happend : pre ++ e :: (mid ++ [f]) = (pre ++ e :: mid) ++ [f] := by simp
    rw [happend] at fresh ⊢
    have hold := ih fresh.append_left (fun h hh => unrevoked h (List.mem_append_left [f] hh))
      fun h hh => unexpired h (List.mem_append_left [f] hh)
    have hf : f ∈ mid ++ [f] := List.mem_append_right mid List.mem_cons_self
    rw [Machine.after_snoc]
    have hstep := grant_step unicode ((broker unicode).after (pre ++ e :: mid)) f
      (randomToken "grant" (e.rand.token 0))
    rw [hold] at hstep
    generalize ((broker unicode).next ((broker unicode).after (pre ++ e :: mid)) f).store.assetGrants.get?
      (randomToken "grant" (e.rand.token 0)) = o at hstep
    cases hstep with
    | kept _ => rfl
    | marked action isFor =>
      obtain ⟨rfl, rfl⟩ := isFor
      exact absurd action (unrevoked f hf)
    | dropped i why => exact absurd (unexpired f hf i) (not_lt.2 why)
    | granted _ _ key => exact absurd key (grant_not_redrawn fresh)

end Life

/-! ## Verification -/

/-- The signature that is presented is compared: nothing is missing, and the
    expiry is an integer that has not passed. -/
def Compared (now : ℤ) (grantId expires signature : Option String) : Prop :=
  truthyStr grantId ∧ truthyStr expires ∧ truthyStr signature ∧
    ∃ n, int (expires.getD "") = some n ∧ now ≤ n

section Verify

variable {w : World} {f : Event} {grantId expires signature : Option String}

/-- What is not compared is refused. -/
theorem verify_uncompared (action : f.action = .verifyGrant grantId expires signature)
    (h : ¬Compared (f.now 0) grantId expires signature) :
    ∃ reason, (broker unicode).out w f = .ok (.verification (.refused reason)) := by
  change ∃ reason, (w.step unicode f).1 = _
  rw [World.step, action]
  dsimp only [World.commit]
  rw [AssetService.verifyGrant]
  split_ifs with hmissing
  · exact ⟨_, rfl⟩
  · simp only [Bool.or_eq_true, Bool.not_eq_true', not_or, Bool.not_eq_false] at hmissing
    dsimp only
    cases hint : int (expires.getD "") with
    | none => exact ⟨_, rfl⟩
    | some n =>
      dsimp only
      have hpassed : n < f.now 0 := by
        by_contra hle
        exact h ⟨hmissing.1.1, hmissing.1.2, hmissing.2, n, hint, not_lt.1 hle⟩
      rw [if_pos hpassed]
      exact ⟨_, rfl⟩

/-- The answer to what is compared. -/
theorem verify_compared {n : ℤ} (action : f.action = .verifyGrant grantId expires signature)
    (hid : truthyStr grantId) (hexpires : truthyStr expires) (hsignature : truthyStr signature)
    (hint : int (expires.getD "") = some n) (hn : f.now 0 ≤ n) :
    (broker unicode).out w f =
      if isAscii (signature.getD "").toList then
        if createSignature (grantId.getD "") n f.service.config.signing.assetSecret =
            signature.getD "" then
          match (pruneExpiredGrants w.store (f.now 1)).assetGrants.get? (grantId.getD "") with
          | some grant => .ok (.verification
              (if grant.expiresAt < f.now 2 then .refused "expired" else .ok grant))
          | none => .ok (.verification (.refused "expired"))
        else .ok (.verification (.refused "invalid_signature"))
      else .error .typeError := by
  change (w.step unicode f).1 = _
  rw [World.step, action]
  dsimp only [World.commit]
  rw [AssetService.verifyGrant, if_neg (by rw [hid, hexpires, hsignature]; decide)]
  dsimp only
  rw [hint]
  dsimp only
  rw [if_neg (not_lt.2 hn)]
  -- `hmac.compare_digest` raises for a text that is not ASCII.
  cases hascii : isAscii (signature.getD "").toList with
  | false =>
    rw [if_neg Bool.false_ne_true]
    rfl
  | true =>
    rw [if_pos rfl, if_neg (by decide)]
    by_cases hsame : createSignature (grantId.getD "") n f.service.config.signing.assetSecret =
        signature.getD ""
    · rw [if_pos hsame, if_neg (not_not_intro hsame)]
      unfold update AssetService.grantUpdater
      dsimp only
      cases (pruneExpiredGrants w.store (f.now 1)).assetGrants.get? (grantId.getD "") with
      | none => rfl
      | some grant => rfl
    · rw [if_neg hsame, if_pos hsame]
      rfl

end Verify

/-! ## Which grants are accepted -/

/-- The grant was issued in the run, under the secret. -/
def IssuedIn (unicode : Unicode) (es : List Event) (secret : String) (issued : SignedGrant) : Prop :=
  Occurs es fun pre e => ∃ r request,
    IssuesGrant unicode ((broker unicode).after pre) e r request issued ∧
    r.service.config.signing.assetSecret = secret

/-- HMAC is unforgeable: the signature is one of the messages signed in the run,
    if of any. -/
def Unforged (unicode : Unicode) (es : List Event) (secret signature : String) : Prop :=
  ∀ message, signMessage secret message = signature →
    ∃ issued, IssuedIn unicode es secret issued ∧
      message = grantMessage issued.grantId issued.expiresAt

/-- An issued grant carries its signature under the secret. -/
theorem IssuedIn.signature_eq {es : List Event} {secret : String} {issued : SignedGrant}
    (h : IssuedIn unicode es secret issued) :
    issued.signature = createSignature issued.grantId issued.expiresAt secret := by
  obtain ⟨_, _, _, _, _, _, issues, rfl⟩ := h
  rw [issues.carries]
  rfl

/-- What was not issued is not accepted, and is refused unless its signature is
    compared and is not ASCII. -/
theorem unissued_refused_iff {es : List Event} {f : Event}
    {grantId expires signature : Option String}
    (action : f.action = .verifyGrant grantId expires signature)
    (unforged : Unforged unicode es f.service.config.signing.assetSecret (signature.getD ""))
    (unissued : ¬∃ issued, IssuedIn unicode es f.service.config.signing.assetSecret issued ∧
      grantId = some issued.grantId ∧ int (expires.getD "") = some issued.expiresAt ∧
      signature = some issued.signature) :
    (∀ g, (broker unicode).out ((broker unicode).after es) f ≠ .ok (.verification (.ok g))) ∧
    ((∃ reason, (broker unicode).out ((broker unicode).after es) f =
      .ok (.verification (.refused reason))) ↔
    (Compared (f.now 0) grantId expires signature →
      isAscii (signature.getD "").toList = true)) := by
  by_cases hcompared : Compared (f.now 0) grantId expires signature
  · obtain ⟨hid, hexpires, hsignature, n, hint, hn⟩ := id hcompared
    rw [verify_compared action hid hexpires hsignature hint hn]
    -- A signature that is not forged was issued, for this very message.
    have hforged : createSignature (grantId.getD "") n f.service.config.signing.assetSecret ≠
        signature.getD "" := by
      intro hsame
      obtain ⟨issued, hissued, hmessage⟩ := unforged _ hsame
      obtain ⟨hgrantId, rfl⟩ := grantMessage_inj hmessage
      refine unissued ⟨issued, hissued, ?_, hint, ?_⟩
      · cases grantId with
        | none => cases hid
        | some id => exact congrArg some hgrantId
      · cases signature with
        | none => cases hsignature
        | some sig =>
          rw [hissued.signature_eq, ← hgrantId]
          exact congrArg some hsame.symm
    rw [if_neg hforged]
    -- `hmac.compare_digest` raises for a text that is not ASCII.
    by_cases hascii : isAscii (signature.getD "").toList = true
    · rw [if_pos hascii]
      exact ⟨fun g h => (nomatch h), fun _ _ => hascii, fun _ => ⟨_, rfl⟩⟩
    · rw [if_neg hascii]
      exact ⟨fun g h => (nomatch h), fun ⟨_, h⟩ => (nomatch h), fun h => absurd (h hcompared) hascii⟩
  · obtain ⟨reason, hrefused⟩ := verify_uncompared (w := (broker unicode).after es) action hcompared
    rw [hrefused]
    exact ⟨fun g h => (nomatch h), fun _ h => absurd h hcompared, fun _ => ⟨reason, rfl⟩⟩

/-- What an event issued is accepted exactly until its expiry, if the tokens of
    its user are not revoked in between. -/
theorem issued_accepted_iff {pre mid : List Event} {e f : Event} {r : Request}
    {request : GrantRequest} {issued : SignedGrant} (fresh : Fresh (pre ++ e :: (mid ++ [f])))
    (timed : Timed (pre ++ e :: (mid ++ [f])))
    (issues : IssuesGrant unicode ((broker unicode).after pre) e r request issued)
    (secret : f.service.config.signing = r.service.config.signing)
    (action : f.action = .verifyGrant (some issued.grantId) (some (toString issued.expiresAt))
      (some issued.signature)) :
    (∃ g, (broker unicode).out ((broker unicode).after (pre ++ e :: mid)) f =
      .ok (.verification (.ok g))) ↔
    (f.now 1 < issued.expiresAt ∧ f.now 2 ≤ issued.expiresAt) ∧
      ∀ h ∈ mid, h.action ≠ .revokeTokensForUser r.session.user.id r.session.tenant.id := by
  obtain ⟨⟨call, haction, hinFlight⟩, hcarries, _, hanswered⟩ := issues
  obtain ⟨-, hstored, hshort⟩ := issuesGrant_of_answer haction hinFlight hanswered
  have hexpires : (issuedGrant e r request).expiresAt = issued.expiresAt := by
    rw [hcarries]
    rfl
  have hid : issued.grantId = randomToken "grant" (e.rand.token 0) := by
    rw [hcarries]
    rfl
  have happend : pre ++ e :: (mid ++ [f]) = (pre ++ e :: mid) ++ [f] := by simp
  have hfresh : Fresh (pre ++ e :: mid) := by
    rw [happend] at fresh
    exact fresh.append_left
  have hclock : f.now 0 ≤ f.now 1 :=
    timed.1 f (by simp) 0 1 (by decide)
  -- While the expiry has not passed, the store decides.
  have hdecided : f.now 0 ≤ issued.expiresAt →
      (broker unicode).out ((broker unicode).after (pre ++ e :: mid)) f =
        match (((broker unicode).after (pre ++ e :: mid)).store.assetGrants.get?
            (randomToken "grant" (e.rand.token 0))).filter
            fun g => !decide (g.expiresAt ≤ f.now 1) with
        | some grant => .ok (.verification
            (if grant.expiresAt < f.now 2 then .refused "expired" else .ok grant))
        | none => .ok (.verification (.refused "expired")) := by
    intro hle
    have hsignature : createSignature issued.grantId issued.expiresAt
        f.service.config.signing.assetSecret = issued.signature := by
      rw [secret, hcarries]
      rfl
    have hne : ∀ s : String, s ≠ "" → truthyStr (some s) = true := fun s hs => by
      rw [truthyStr, Option.any_some, decide_eq_true hs]
    have hgrantId : issued.grantId ≠ "" := by
      rw [hid, randomToken]
      intro h
      have hlist := congrArg String.toList h
      simp at hlist
    have hsig : issued.signature ≠ "" := by
      rw [← hsignature]
      exact signMessage_ne_empty _ _
    have hascii : isAscii ((some issued.signature).getD "").toList = true := by
      rw [Option.getD_some, ← hsignature]
      exact ascii_signMessage _ _
    have hread : int ((some (toString issued.expiresAt)).getD "") = some issued.expiresAt := by
      rw [Option.getD_some]
      exact int_toString (hexpires ▸ hshort)
    have htext : toString issued.expiresAt ≠ "" := by
      intro h
      rw [Option.getD_some, h] at hread
      cases hread
    rw [verify_compared action (hne _ hgrantId) (hne _ htext) (hne _ hsig) hread hle, if_pos hascii,
      Option.getD_some, Option.getD_some, if_pos hsignature, pruneExpiredGrants, Dict.get?_filter, hid]
  constructor
  · rintro ⟨g, hout⟩
    obtain ⟨hg, hlive⟩ := verify_answer action hout
    rw [Option.getD_some, hid] at hg
    rcases stored_grant hfresh hstored hg with ⟨rfl, hrevoked⟩ | hzero
    · rw [hexpires] at hlive
      refine ⟨⟨hlive, ?_⟩, hrevoked⟩
      rw [hdecided (by omega), hg, Option.filter_some_pos (by simpa [hexpires] using hlive)] at hout
      by_contra hpassed
      dsimp only at hout
      rw [if_pos (by rw [hexpires]; omega)] at hout
      cases hout
    · have hpos := f.clock.pos 1
      rw [hzero] at hlive
      exact absurd hpos hlive.le.not_gt
  · rintro ⟨⟨hlive, hkept⟩, hrevoked⟩
    have hunexpired : ∀ h ∈ mid, ∀ i, h.now i < (issuedGrant e r request).expiresAt := by
      intro h hh i
      rw [hexpires]
      exact lt_of_le_of_lt (timed.le_of_before (List.mem_cons_of_mem e hh) i 1) hlive
    have hg := grant_while_live hfresh hstored hrevoked hunexpired
    rw [hdecided (by omega), hg, Option.filter_some_pos (by simpa [hexpires] using hlive)]
    dsimp only
    rw [if_neg (by rw [hexpires]; omega)]
    exact ⟨_, rfl⟩

/-- The three that an event issued are accepted exactly until the expiry, if the
    tokens of the user are not revoked in between. What was not issued is not
    accepted, and it is refused exactly if its signature is ASCII, when it is
    compared at all. -/
theorem grant_accepted_iff (pre mid : List Event) (e f : Event) (r : Request)
    (request : GrantRequest) (issued : SignedGrant) (fresh : Fresh (pre ++ e :: (mid ++ [f])))
    (timed : Timed (pre ++ e :: (mid ++ [f])))
    (issues : IssuesGrant unicode ((broker unicode).after pre) e r request issued)
    (secret : f.service.config.signing = r.service.config.signing) :
    (f.action = .verifyGrant (some issued.grantId) (some (toString issued.expiresAt))
        (some issued.signature) →
      ((∃ g, (broker unicode).out ((broker unicode).after (pre ++ e :: mid)) f =
          .ok (.verification (.ok g))) ↔
        (f.now 1 < issued.expiresAt ∧ f.now 2 ≤ issued.expiresAt) ∧
          ∀ h ∈ mid, h.action ≠ .revokeTokensForUser r.session.user.id r.session.tenant.id)) ∧
    ∀ grantId expires signature, f.action = .verifyGrant grantId expires signature →
      Unforged unicode (pre ++ e :: mid) f.service.config.signing.assetSecret
        (signature.getD "") →
      (¬∃ issued', IssuedIn unicode (pre ++ e :: mid) f.service.config.signing.assetSecret issued' ∧
        grantId = some issued'.grantId ∧ int (expires.getD "") = some issued'.expiresAt ∧
        signature = some issued'.signature) →
      (∀ g, (broker unicode).out ((broker unicode).after (pre ++ e :: mid)) f ≠
        .ok (.verification (.ok g))) ∧
      ((∃ reason, (broker unicode).out ((broker unicode).after (pre ++ e :: mid)) f =
          .ok (.verification (.refused reason))) ↔
        (Compared (f.now 0) grantId expires signature →
          isAscii (signature.getD "").toList = true)) :=
  ⟨fun action => issued_accepted_iff fresh timed issues secret action,
    fun _ _ _ action unforged unissued => unissued_refused_iff action unforged unissued⟩

/-! ## Sample grants -/

namespace Sample

def grantRequest : GrantRequest where
  pathPrefix := AssetService.previewPath
  source := ⟨"resourcespace", some "https://dam.example/asset.jpg", none, none, none, none, none⟩
  mimeType := some "image/jpeg"
  filename := some "asset.jpg"

/-- The request that goes on with the session it has read. -/
def authorised : Request :=
  ⟨service, { session with broker := some ⟨"canva-client", some "canva"⟩ }⟩

/-- The grant that is issued at 4000 ms. -/
def signedGrant : SignedGrant :=
  (AssetService.mk config).signedGrant 4000 ⟨fun _ => "e", fun _ => 0⟩

/-- A sign-in, whose session is used to create a grant. -/
def grantSteps : List (String × ℤ × Action) :=
  [("a", 1000, .beginAuthorizationFromSession request session),
   ("b", 2000, .exchangeAuthorizationCode 0 "canva-client" "https://canva.example/return" "code_a"
     (some verifier)),
   ("c", 2000, .createTokenPair 0),
   ("d", 3000, .readAccessToken 1 "at_c"),
   ("e", 4000, .createGrant 1 grantRequest)]

def grantRun : List Event := run service grantSteps

/-- A verification of that grant, a second later. -/
def verification (signature : String) : Event where
  service
  clock := ⟨fun _ => 5000, fun _ => by decide⟩
  rand := ⟨fun _ => "f", fun _ => 0⟩
  action := .verifyGrant (some "grant_e") (some (toString 304000)) (some signature)

/-- The request is in flight when the grant is created. -/
theorem grantRun_inFlight :
    ((broker Unicode.ascii).after (grantRun.take 4)).requests.get? 1 = some authorised := by
  have hsession : (((broker Unicode.ascii).after (grantRun.take 4)).requests.get? 1).map (·.session) =
      some authorised.session := by decide +kernel
  obtain ⟨x, hx, hopened⟩ := Option.map_eq_some_iff.1 hsession
  have hservice : ∃ f ∈ grantRun.take 4, x.service = f.service :=
    Occurs.exists_mem (request_origin hx) fun _ _ ⟨_, _, _, _, _, hread⟩ => by rw [hread]
  obtain ⟨f, hf, hservice⟩ := hservice
  obtain ⟨_, -, rfl⟩ := List.mem_map.1 (List.mem_of_mem_take hf)
  rw [hx]
  cases x
  cases hservice
  cases hopened
  rfl

/-- The grant is issued by the last event. -/
theorem grantRun_issues : IssuesGrant Unicode.ascii ((broker Unicode.ascii).after (grantRun.take 4))
    grantRun[4] authorised grantRequest signedGrant := by
  have hanswered : ((broker Unicode.ascii).out ((broker Unicode.ascii).after (grantRun.take 4))
      grantRun[4]).toOption.any (fun a => a matches .grant _) = true := by decide +kernel
  generalize hout : (broker Unicode.ascii).out ((broker Unicode.ascii).after (grantRun.take 4))
    grantRun[4] = o at hanswered
  cases o with
  | error error => cases hanswered
  | ok a =>
    cases a with
    | grant response => exact (issuesGrant_of_answer rfl grantRun_inFlight hout).1
    | _ => cases hanswered

/-- Another user is revoked meanwhile, and the access token that the grant was created with. -/
def meanwhile : List (String × ℤ × Action) :=
  [("g", 4000, .revokeTokensForUser "tenant_dam:eve" session.tenant.id),
   ("h", 4500, .revokeToken "at_c")]

/-- The grant is created, other steps follow, and it is verified. -/
def verifiedSteps (between : List (String × ℤ × Action)) (signature : String) :
    List (String × ℤ × Action) :=
  grantSteps ++ (between ++ [("f", 5000, (verification signature).action)])

theorem run_verifiedSteps (between : List (String × ℤ × Action)) (signature : String) :
    run service (verifiedSteps between signature) =
      grantRun ++ (run service between ++ [verification signature]) := by
  simp only [verifiedSteps, grantRun, run, List.map_append]
  rfl

theorem grantRun_fresh (signature : String) {between : List (String × ℤ × Action)}
    (draws : (["a", "b", "c", "d", "e"] ++ (between.map Prod.fst ++ ["f"])).Nodup) :
    Fresh (grantRun ++ (run service between ++ [verification signature])) := by
  rw [← run_verifiedSteps]
  refine fresh service ?_
  rw [verifiedSteps, List.map_append, List.map_append]
  exact draws

theorem grantRun_timed (signature : String) {between : List (String × ℤ × Action)}
    (times : ([1000, 2000, 2000, 3000, 4000] ++
      (between.map (fun s : String × ℤ × Action => s.2.1) ++ [5000])).Pairwise (· ≤ ·)) :
    Timed (grantRun ++ (run service between ++ [verification signature])) := by
  rw [← run_verifiedSteps]
  refine timed service ?_
  rw [verifiedSteps, List.map_append, List.map_append]
  exact times

end Sample

theorem grant_accepted_iff_run :
    ∃ g, (broker Unicode.ascii).out
      ((broker Unicode.ascii).after (Sample.grantRun ++ Sample.run Sample.service Sample.meanwhile))
      (Sample.verification Sample.signedGrant.signature) = .ok (.verification (.ok g)) := by
  have hother : "tenant_dam:eve" ≠ Sample.authorised.session.user.id := by decide
  refine ((grant_accepted_iff (Sample.grantRun.take 4)
    (Sample.run Sample.service Sample.meanwhile) Sample.grantRun[4]
    (Sample.verification Sample.signedGrant.signature) Sample.authorised Sample.grantRequest
    Sample.signedGrant (@Sample.grantRun_fresh _ Sample.meanwhile (by decide))
    (@Sample.grantRun_timed _ Sample.meanwhile (by decide)) Sample.grantRun_issues rfl).1 rfl).2
      ⟨by decide, fun h hh haction => ?_⟩
  obtain ⟨step, hstep, rfl⟩ := List.mem_map.1 hh
  rw [Sample.meanwhile, List.mem_pair] at hstep
  obtain rfl | rfl := hstep
  · exact hother (Action.revokeTokensForUser.inj haction).1
  · cases haction

/-- A signature that is not ASCII, in the place of the one issued, is not
    refused: the comparison raises. -/
theorem forged_signature_raises :
    Fresh (Sample.grantRun ++ [Sample.verification "é"]) ∧
      Timed (Sample.grantRun ++ [Sample.verification "é"]) ∧
      IssuesGrant Unicode.ascii ((broker Unicode.ascii).after (Sample.grantRun.take 4))
        Sample.grantRun[4] Sample.authorised Sample.grantRequest Sample.signedGrant ∧
      (Sample.verification "é").action = .verifyGrant (some Sample.signedGrant.grantId)
        (some (toString Sample.signedGrant.expiresAt)) (some "é") ∧
      (∀ message, signMessage Sample.config.signing.assetSecret message ≠ "é") ∧
      (broker Unicode.ascii).out ((broker Unicode.ascii).after Sample.grantRun)
        (Sample.verification "é") = .error .typeError := by
  refine ⟨@Sample.grantRun_fresh _ [] (by decide), @Sample.grantRun_timed _ [] (by decide),
    Sample.grantRun_issues, rfl,
    fun message h => ?_, ?_⟩
  · have hascii := ascii_signMessage Sample.config.signing.assetSecret message
    rw [h] at hascii
    revert hascii
    decide
  · have haction : (Sample.verification "é").action =
        .verifyGrant (some "grant_e") (some (toString 304000)) (some "é") := rfl
    rw [verify_compared haction (n := 304000) (by decide) (by decide) (by decide) (by decide)
      (by decide)]
    exact if_neg (by decide)

end Broker
