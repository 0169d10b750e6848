import Broker.World

/-!
# Outcomes

What an operation with several branches may do, one constructor for each way
it ends: what it answers, the store it leaves, and what it found to do so. The
rest of the development argues by cases on these.

* `exchange_outcome`, `refresh_outcome`, `read_outcome`, `revoke_outcome` for
  the token operations;
* `complete_outcome`, `consume_outcome`, `begin_sso_outcome` for the handoff
  states;
* `grant_outcome`, `verify_outcome` for asset grants.
-/

namespace Broker

open Py

namespace AuthService

variable (service : AuthService) (now : ℕ → ℤ) (rand : Rand) (s : Store)

/-! ## Pruned buckets -/

@[simp] theorem get?_authorizationCodes_prune (t : ℤ) (k : String) :
    (service.prune s t).authorizationCodes.get? k =
      (s.authorizationCodes.get? k).filter fun r => !r.expired t :=
  Dict.get?_filter _ _ _

@[simp] theorem get?_accessTokens_prune (t : ℤ) (k : String) :
    (service.prune s t).accessTokens.get? k =
      (s.accessTokens.get? k).filter fun r => !r.pruned t :=
  Dict.get?_filter _ _ _

@[simp] theorem get?_refreshTokens_prune (t : ℤ) (k : String) :
    (service.prune s t).refreshTokens.get? k =
      (s.refreshTokens.get? k).filter fun r => !r.pruned t service.refreshGraceMs :=
  Dict.get?_filter _ _ _

@[simp] theorem get?_assetGrants_prune (t : ℤ) (k : String) :
    (service.prune s t).assetGrants.get? k =
      (s.assetGrants.get? k).filter fun r => !decide (r.expiresAt ≤ t) :=
  Dict.get?_filter _ _ _

@[simp] theorem get?_pendingSsoStates_prune (t : ℤ) (k : String) :
    (service.prune s t).pendingSsoStates.get? k =
      (s.pendingSsoStates.get? k).filter fun r => !decide (r.purgeAt ≤ t) :=
  Dict.get?_filter _ _ _

section Stored

/-! What a pruning leaves was stored before it. -/

variable {service s}

theorem authorizationCodes_of_prune {t : ℤ} {k : String} {r : AuthorizationCode}
    (h : (service.prune s t).authorizationCodes.get? k = some r) :
    s.authorizationCodes.get? k = some r := by
  rw [get?_authorizationCodes_prune, Option.filter_eq_some_iff] at h
  exact h.1

theorem accessTokens_of_prune {t : ℤ} {k : String} {r : AccessToken}
    (h : (service.prune s t).accessTokens.get? k = some r) :
    s.accessTokens.get? k = some r := by
  rw [get?_accessTokens_prune, Option.filter_eq_some_iff] at h
  exact h.1

theorem refreshTokens_of_prune {t : ℤ} {k : String} {r : RefreshToken}
    (h : (service.prune s t).refreshTokens.get? k = some r) :
    s.refreshTokens.get? k = some r := by
  rw [get?_refreshTokens_prune, Option.filter_eq_some_iff] at h
  exact h.1

theorem pendingSsoStates_of_prune {t : ℤ} {k : String} {r : PendingSsoState}
    (h : (service.prune s t).pendingSsoStates.get? k = some r) :
    s.pendingSsoStates.get? k = some r := by
  rw [get?_pendingSsoStates_prune, Option.filter_eq_some_iff] at h
  exact h.1

end Stored

/-! ## Token operations -/

/-- The store in which an exchange has burned its code. -/
def burned (s : Store) (t : ℤ) (code : String) : Store :=
  { service.prune s t with
    authorizationCodes := (service.prune s t).authorizationCodes.erase code }

/-- How the first transaction of an exchange may end. -/
inductive ExchangeOutcome (now : ℕ → ℤ) (clientId redirectUri code : String)
    (codeVerifier : Option String) (s : Store) :
    Except PyError (Except OAuthError (Session × String)) × Store → Prop
  | unknownClient (error : OAuthError) :
    ExchangeOutcome now clientId redirectUri code codeVerifier s (.ok (.error error), s)
  | raised (error : PyError) :
    ExchangeOutcome now clientId redirectUri code codeVerifier s (.error error, s)
  | notFound (error : OAuthError) :
    ExchangeOutcome now clientId redirectUri code codeVerifier s
      (.ok (.error error), service.prune s (now 0))
  | refused (error : OAuthError) :
    ExchangeOutcome now clientId redirectUri code codeVerifier s
      (.ok (.error error), service.burned s (now 0) code)
  | exchanged {record : AuthorizationCode} {opened : Session}
    (found : (service.prune s (now 0)).authorizationCodes.get? code = some record)
    (client : record.clientId = clientId) (redirect : record.redirectUri = redirectUri)
    (challenge : codeVerifier.map sha256B64url = record.codeChallenge)
    (proof : truthyStr codeVerifier)
    (opens : openSessionDict service.fieldCipher record.session = .ok opened) :
    ExchangeOutcome now clientId redirectUri code codeVerifier s
      (.ok (.ok (opened, record.scope)), service.burned s (now 0) code)

theorem exchange_outcome (clientId redirectUri code : String) (codeVerifier : Option String) :
    service.ExchangeOutcome now clientId redirectUri code codeVerifier s
      (service.exchangeAuthorizationCode now clientId redirectUri code codeVerifier s) := by
  rw [exchangeAuthorizationCode]
  split_ifs with hclient
  · unfold update exchangeUpdater
    dsimp only
    cases hfound : (service.prune s (now 0)).authorizationCodes.get? code with
    | none => exact .notFound _
    | some record =>
      dsimp only
      split_ifs with hbind hproof hmethod hchallenge
      · exact .refused _
      · exact .refused _
      · exact .refused _
      · exact .refused _
      · rw [not_or, not_ne_iff, not_ne_iff] at hbind
        cases hopen : tryOpenSessionDict service.fieldCipher record.session with
        | error e => exact .raised e
        | ok opened =>
          cases opened with
          | none => exact .refused _
          | some opened =>
            refine .exchanged hfound hbind.1 hbind.2 (not_ne_iff.1 hchallenge) ?_
              (tryOpen_eq_some_iff.1 hopen)
            simp only [Bool.or_eq_true, Bool.not_eq_true', not_or, Bool.not_eq_false] at hproof
            exact hproof.2
  · exact .unknownClient _

/-- A revoked refresh token is refused, or answers the response cached at its
    rotation. -/
theorem replay_outcome (t : ℤ) (record : RefreshToken) (revokedAt : ℤ) :
    service.replay t record revokedAt = .error refreshNotFound ∨
    ∃ response, service.replay t record revokedAt = .ok response ∧
      record.rotationResponse = some response ∧ t - revokedAt ≤ service.refreshGraceMs := by
  rw [replay]
  split_ifs with hgrace
  · cases record.rotationResponse with
    | none => exact .inl rfl
    | some cached =>
      dsimp only
      split_ifs
      · exact .inr ⟨cached, rfl, rfl, hgrace⟩
      · exact .inl rfl
  · exact .inl rfl

/-- How a refresh may end. -/
inductive RefreshOutcome (now : ℕ → ℤ) (rand : Rand) (clientId token : String) (s : Store) :
    Except PyError (Except OAuthError TokenResponse) × Store → Prop
  | unknownClient (error : OAuthError) :
    RefreshOutcome now rand clientId token s (.ok (.error error), s)
  | raised (error : PyError) : RefreshOutcome now rand clientId token s (.error error, s)
  | notFound (error : OAuthError) :
    RefreshOutcome now rand clientId token s (.ok (.error error), service.prune s (now 0))
  | refused (error : OAuthError) {record : RefreshToken} {stamped : TokenRecord}
    (found : (service.prune s (now 0)).refreshTokens.get? token = some record)
    (stamps : stampTokenRecordMetadata service.config record.toTokenRecord = some stamped) :
    RefreshOutcome now rand clientId token s
      (.ok (.error error), { service.prune s (now 0) with
        refreshTokens := (service.prune s (now 0)).refreshTokens.set token
          { record with toTokenRecord := stamped } })
  | replayed {record : RefreshToken} {stamped : TokenRecord} {response : TokenResponse} {t : ℤ}
    (found : (service.prune s (now 0)).refreshTokens.get? token = some record)
    (client : record.clientId = clientId)
    (stamps : stampTokenRecordMetadata service.config record.toTokenRecord = some stamped)
    (revoked : record.revokedAt = some t) (truthy : t ≠ 0)
    (grace : now 1 - t ≤ service.refreshGraceMs)
    (cached : record.rotationResponse = some response) :
    RefreshOutcome now rand clientId token s
      (.ok (.ok response), { service.prune s (now 0) with
        refreshTokens := (service.prune s (now 0)).refreshTokens.set token
          { record with toTokenRecord := stamped } })
  | rotated {record : RefreshToken} {stamped : TokenRecord} {opened : Session}
    (found : (service.prune s (now 0)).refreshTokens.get? token = some record)
    (client : record.clientId = clientId)
    (stamps : stampTokenRecordMetadata service.config record.toTokenRecord = some stamped)
    (opens : openSessionDict service.fieldCipher stamped.session = .ok opened)
    (live : truthyMs record.revokedAt = false) :
    RefreshOutcome now rand clientId token s
      (let written := service.writeTokenPairToState (fun i => now (i + 2)) rand
        { service.prune s (now 0) with
          refreshTokens := (service.prune s (now 0)).refreshTokens.set token
            { record with toTokenRecord := stamped } } opened record.scope clientId
      (.ok (.ok written.1), { written.2 with
        refreshTokens := written.2.refreshTokens.set token
          { record with toTokenRecord := stamped, revokedAt := some (now 1)
                        rotationResponse := some written.1 } }))

theorem refresh_outcome (clientId token : String) :
    service.RefreshOutcome now rand clientId token s
      (service.refreshAccessToken now rand clientId token s) := by
  rw [refreshAccessToken]
  split_ifs with hclient
  · unfold update refreshUpdater
    dsimp only
    cases hfound : (service.prune s (now 0)).refreshTokens.get? token with
    | none => exact .notFound _
    | some record =>
      dsimp only
      by_cases hcid : record.clientId = clientId
      · rw [if_neg (not_not_intro hcid)]
        cases hstamp : stampTokenRecordMetadata service.config record.toTokenRecord with
        | none => exact .notFound _
        | some stamped =>
          dsimp only
          -- Relabelling a record leaves its scope.
          have hscope : stamped.scope = record.scope := by
            rw [stampTokenRecordMetadata] at hstamp
            split_ifs at hstamp
            cases hstamp
            rfl
          cases hopen : tryOpenSessionDict service.fieldCipher stamped.session with
          | error e => exact .raised e
          | ok opened =>
            cases opened with
            | none => exact .refused _ hfound hstamp
            | some opened =>
              dsimp only
              by_cases hrevoked : truthyMs record.revokedAt = true
              · rw [if_pos hrevoked]
                obtain ⟨t, ht, ht0⟩ : ∃ t, record.revokedAt = some t ∧ t ≠ 0 := by
                  simpa [truthyMs, Option.any_eq_true] using hrevoked
                -- A revoked token is answered again only within its grace.
                rcases service.replay_outcome (now 1) { record with toTokenRecord := stamped }
                  (record.revokedAt.getD 0) with hreplay | ⟨response, hreplay, hcached, hgrace⟩
                · rw [hreplay]
                  exact .refused _ hfound hstamp
                · rw [hreplay]
                  rw [ht, Option.getD_some] at hgrace
                  exact .replayed hfound hcid hstamp ht ht0 hgrace hcached
              · rw [if_neg hrevoked, hscope]
                exact .rotated hfound hcid hstamp (tryOpen_eq_some_iff.1 hopen)
                  (Bool.not_eq_true _ ▸ hrevoked)
      · rw [if_pos hcid]
        exact .notFound _
  · exact .unknownClient _

/-- How the transaction of a read may end. -/
inductive ReadOutcome (now : ℕ → ℤ) (token : String) (s : Store) :
    Except PyError (Option AccessToken) × Store → Prop
  | absent (missing : (service.prune s (now 0)).accessTokens.get? token = none) :
    ReadOutcome now token s (.ok none, service.prune s (now 0))
  | unconfigured {record : AccessToken}
    (found : (service.prune s (now 0)).accessTokens.get? token = some record)
    (unknown : isConfiguredClient service.config record.clientId = false) :
    ReadOutcome now token s (.ok none, service.prune s (now 0))
  | stamped {record : AccessToken} {stamped : TokenRecord}
    (found : (service.prune s (now 0)).accessTokens.get? token = some record)
    (stamps : stampTokenRecordMetadata service.config record.toTokenRecord = some stamped) :
    ReadOutcome now token s
      (service.openSession { record with toTokenRecord := stamped },
        { service.prune s (now 0) with
          accessTokens := (service.prune s (now 0)).accessTokens.set token
            { record with toTokenRecord := stamped } })

theorem read_outcome (token : String) :
    service.ReadOutcome now token s (service.readAccessToken now token s) := by
  unfold readAccessToken update readUpdater
  dsimp only
  cases hfound : (service.prune s (now 0)).accessTokens.get? token with
  | none => exact .absent hfound
  | some record =>
    dsimp only
    cases hstamp : stampTokenRecordMetadata service.config record.toTokenRecord with
    | none =>
      refine .unconfigured hfound ?_
      rw [stampTokenRecordMetadata] at hstamp
      split_ifs at hstamp with h
      exact Bool.not_eq_true _ ▸ h
    | some stamped => exact .stamped hfound hstamp

/-- How a revocation may end. -/
inductive RevokeOutcome (now : ℕ → ℤ) (token : String) (s : Store) :
    Except PyError Bool × Store → Prop
  | access {record : AccessToken}
    (found : (service.prune s (now 0)).accessTokens.get? token = some record) :
    RevokeOutcome now token s (.ok true, { service.prune s (now 0) with
      accessTokens := (service.prune s (now 0)).accessTokens.erase token })
  | refresh {record : RefreshToken}
    (missing : (service.prune s (now 0)).accessTokens.get? token = none)
    (found : (service.prune s (now 0)).refreshTokens.get? token = some record) :
    RevokeOutcome now token s (.ok true, { service.prune s (now 0) with
      refreshTokens := (service.prune s (now 0)).refreshTokens.modify token fun r =>
        { r with revokedAt := some (now 1) } })
  | notFound (missing : (service.prune s (now 0)).accessTokens.get? token = none)
    (missing' : (service.prune s (now 0)).refreshTokens.get? token = none) :
    RevokeOutcome now token s (.ok false, service.prune s (now 0))

theorem revoke_outcome (token : String) :
    service.RevokeOutcome now token s (update (service.revokeTokenUpdater now token) s) := by
  unfold update revokeTokenUpdater Dict.contains
  dsimp only
  cases ha : (service.prune s (now 0)).accessTokens.get? token with
  | some record => exact .access ha
  | none =>
    cases hr : (service.prune s (now 0)).refreshTokens.get? token with
    | some record => exact .refresh ha hr
    | none => exact .notFound ha hr

/-! ## Handoff states -/

/-- A handoff state that classifies as active. -/
theorem classify_eq_active_iff {t : ℤ} {o : Option PendingSsoState} {record : PendingSsoState} :
    classifyPendingSsoRecord t o = .active record ↔
      o = some record ∧ truthyMs record.usedAt = false ∧ t ≤ record.expiresAt := by
  cases o with
  | none => simp [classifyPendingSsoRecord]
  | some r =>
    simp only [classifyPendingSsoRecord]
    split_ifs with hused hexpired
    · simp only [Option.some.injEq, false_iff, not_and]
      rintro rfl hfalse
      exact absurd hused (by simp [hfalse])
    · simp only [Option.some.injEq, false_iff, not_and]
      rintro rfl -
      omega
    · simp only [SsoResult.active.injEq, Option.some.injEq]
      constructor
      · rintro rfl
        exact ⟨rfl, Bool.not_eq_true _ ▸ hused, by omega⟩
      · exact fun h => h.1

/-- How a completion may end. -/
inductive CompleteOutcome (now : ℕ → ℤ) (rand : Rand) (handoffState : String) (session : Session)
    (s : Store) : Except PyError SsoResult × Store → Prop
  | refused {result : SsoResult} (notValid : ∀ code record, result ≠ .valid code record) :
    CompleteOutcome now rand handoffState session s (.ok result, service.prune s (now 0))
  | completed {record : PendingSsoState}
    (found : (service.prune s (now 0)).pendingSsoStates.get? handoffState = some record)
    (unused : truthyMs record.usedAt = false) (inTime : now 1 ≤ record.expiresAt) :
    CompleteOutcome now rand handoffState session s
      (let minted := service.mintAuthorizationCode (fun i => now (i + 2)) rand
        (service.prune s (now 0)) record.request (service.signInSession record.request session)
      (.ok (.valid minted.1 { record with usedAt := some (now 4) }), { minted.2 with
        pendingSsoStates := minted.2.pendingSsoStates.modify handoffState fun r =>
          { r with usedAt := some (now 4) } }))

/-- A classification is never a completion. -/
theorem classify_ne_valid (t : ℤ) (o : Option PendingSsoState) (code : String)
    (record : PendingSsoState) : classifyPendingSsoRecord t o ≠ .valid code record := by
  cases o with
  | none => exact SsoResult.noConfusion
  | some r =>
    dsimp only [classifyPendingSsoRecord]
    split_ifs <;> exact SsoResult.noConfusion

theorem complete_outcome (handoffState : String) (session : Session) :
    service.CompleteOutcome now rand handoffState session s
      (update (service.completeSsoAuthorizationUpdater now rand handoffState session) s) := by
  unfold update completeSsoAuthorizationUpdater
  dsimp only
  cases hclass : classifyPendingSsoRecord (now 1)
      ((service.prune s (now 0)).pendingSsoStates.get? handoffState) with
  | active record =>
    obtain ⟨hfound, hunused, hinTime⟩ := classify_eq_active_iff.1 hclass
    exact .completed hfound hunused hinTime
  | valid code record => exact absurd hclass (classify_ne_valid _ _ _ _)
  | _ => exact .refused fun _ _ => SsoResult.noConfusion

/-- How the deprecated consumption of a handoff state may end. -/
inductive ConsumeOutcome (now : ℕ → ℤ) (handoffState : String) (s : Store) :
    Except PyError SsoResult × Store → Prop
  | refused {result : SsoResult} :
    ConsumeOutcome now handoffState s (.ok result, service.prune s (now 0))
  | consumed {record : PendingSsoState}
    (found : (service.prune s (now 0)).pendingSsoStates.get? handoffState = some record)
    (unused : truthyMs record.usedAt = false) (inTime : now 1 ≤ record.expiresAt) :
    ConsumeOutcome now handoffState s
      (.ok (.consumed { record with usedAt := some (now 2) }), { service.prune s (now 0) with
        pendingSsoStates := (service.prune s (now 0)).pendingSsoStates.modify handoffState fun r =>
          { r with usedAt := some (now 2) } })

theorem consume_outcome (handoffState : String) :
    service.ConsumeOutcome now handoffState s
      (update (service.consumePendingSsoStateUpdater now handoffState) s) := by
  unfold update consumePendingSsoStateUpdater
  dsimp only
  cases hclass : classifyPendingSsoRecord (now 1)
      ((service.prune s (now 0)).pendingSsoStates.get? handoffState) with
  | active record =>
    obtain ⟨hfound, hunused, hinTime⟩ := classify_eq_active_iff.1 hclass
    exact .consumed hfound hunused hinTime
  | _ => exact .refused

/-- How an SSO initiation may end. -/
inductive BeginSsoOutcome (startedAt : ℤ) (now : ℕ → ℤ) (rand : Rand) (request : SsoRequest)
    (s : Store) : Except PyError String × Store → Prop
  | raised (error : PyError) : BeginSsoOutcome startedAt now rand request s (.error error, s)
  | admitted {limit : ℤ} (perSource : maxPendingSsoStatesPerSource service.config = .ok limit)
    (source : (outstandingForSource (service.prune s (now 0)) request.initiatorKey (now 1) : ℤ) <
      limit)
    (all : activePending (service.prune s (now 0)) (now 1) < maxPendingSsoStates) :
    BeginSsoOutcome startedAt now rand request s
      (.ok (randomToken "ssostate" (rand.token 0)), { service.prune s (now 0) with
        pendingSsoStates := (service.prune s (now 0)).pendingSsoStates.set
          (randomToken "ssostate" (rand.token 0))
          (service.pendingSsoState startedAt (now 1) (randomToken "ssostate" (rand.token 0))
            request) })

theorem begin_sso_outcome (startedAt : ℤ) (request : SsoRequest) :
    service.BeginSsoOutcome startedAt now rand request s
      (update (service.beginSsoAuthorizationUpdater startedAt now rand request) s) := by
  unfold update beginSsoAuthorizationUpdater
  dsimp only
  cases hlimit : maxPendingSsoStatesPerSource service.config with
  | error e => exact .raised e
  | ok limit =>
    dsimp only
    split_ifs with hsource hall
    · exact .raised _
    · exact .raised _
    · exact .admitted hlimit (not_le.1 hsource) (not_le.1 hall)

end AuthService

/-! ## Asset grants -/

namespace AssetService

variable (service : AssetService) (now : ℕ → ℤ) (rand : Rand) (s : Store)

/-- The grant made for a session. -/
def assetGrant (now : ℤ) (rand : Rand) (session : Session) (request : GrantRequest) :
    AssetGrant where
  grantId := randomToken "grant" (rand.token 0)
  userId := session.user.id
  tenantId := session.tenant.id
  expiresAt := now + service.config.oauth.signedUrlTtlSeconds * 1000
  source := request.source
  integration := brokerIntegrationFromSession session
  mimeType := request.mimeType
  filename := request.filename

/-- How the creation of a grant may end. -/
inductive GrantOutcome (now : ℕ → ℤ) (rand : Rand) (session : Session) (request : GrantRequest)
    (s : Store) : Except PyError GrantResponse × Store → Prop
  | raised (error : PyError) : GrantOutcome now rand session request s (.error error, s)
  | granted (response : GrantResponse) :
    GrantOutcome now rand session request s (.ok response, { s with
      assetGrants := (pruneExpiredGrants s (now 0)).assetGrants.set
        (randomToken "grant" (rand.token 0)) (service.assetGrant (now 1) rand session request) })

theorem grant_outcome (session : Session) (request : GrantRequest) :
    service.GrantOutcome now rand session request s
      (update (service.createGrantUpdater now rand session request) s) := by
  unfold update createGrantUpdater
  dsimp only
  cases hiso : isoFromMs (now 1 + service.config.oauth.signedUrlTtlSeconds * 1000) with
  | error e =>
    simp only [bind, Except.bind]
    exact .raised e
  | ok expires =>
    simp only [bind, Except.bind, pure, Except.pure]
    exact .granted _

/-- How the verification of a grant may end. -/
inductive VerifyOutcome (now : ℕ → ℤ) (grantId : Option String) (s : Store) :
    Except PyError Verification × Store → Prop
  | unread (result : Except PyError Verification)
    (refused : ∀ grant, result ≠ .ok (.ok grant)) : VerifyOutcome now grantId s (result, s)
  | refused (reason : String) :
    VerifyOutcome now grantId s (.ok (.refused reason), pruneExpiredGrants s (now 1))
  | accepted {grant : AssetGrant}
    (found : (pruneExpiredGrants s (now 1)).assetGrants.get? (grantId.getD "") = some grant) :
    VerifyOutcome now grantId s (.ok (.ok grant), pruneExpiredGrants s (now 1))

theorem verify_outcome (grantId expiresAt signature : Option String) :
    VerifyOutcome now grantId s (service.verifyGrant now grantId expiresAt signature s) := by
  rw [verifyGrant]
  split_ifs
  · exact .unread _ fun _ h => by cases h
  · dsimp only
    split
    · exact .unread _ fun _ h => by cases h
    · split_ifs
      · exact .unread _ fun _ h => by cases h
      · exact .unread _ fun _ h => by cases h
      · exact .unread _ fun _ h => by cases h
      · unfold update grantUpdater
        dsimp only
        cases hfound : (pruneExpiredGrants s (now 1)).assetGrants.get? (grantId.getD "") with
        | none => exact .refused _
        | some grant =>
          dsimp only
          split_ifs
          · exact .refused _
          · exact .accepted hfound

end AssetService

end Broker
