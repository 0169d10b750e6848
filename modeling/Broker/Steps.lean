import Broker.Outcomes

/-!
# What one event does

An event changes the store in one of the ways of `StoreStep`, and so a record
under a key in one of the ways of `CodeStep`, `AccessStep`, `RefreshStep`,
`PendingStep` and `GrantStep`: the invariants of runs are proved from these
alone, without looking into an operation again.

* `Issues`: the event mints an authorization code, by a password sign-in or by
  the completion of a handoff (`Completes`);
* `Mints`: the event mints a token pair, for an exchange or by rotating a
  refresh token (`Rotates`).
-/

namespace Broker

open Py

variable (unicode : Unicode)

/-! ## What an event mints -/

/-- The call of `complete_sso_authorization` an event makes: its service, the
    handoff state and the session. -/
def World.completion (w : World) (e : Event) : Option (AuthService × String × Session) :=
  match e.action with
  | .completeSsoAuthorization handoffState session => some (e.service, handoffState, session)
  | .answerCallback call authenticatedAt result =>
    match w.callbacks.get? call with
    | none => none
    | some c =>
      match authenticateWithSessionKey unicode c.service.config authenticatedAt
        c.callback.record.tenant c.callback.sessionKey c.callback.username result with
      | .ok session => some (c.service, c.callback.handoffState, session)
      | .error _ => none
  | _ => none

/-- The event completes the sign-in of a handoff state that is active. -/
structure Completes (w : World) (e : Event) (service : AuthService) (handoffState : String)
    (session : Session) (record : PendingSsoState) : Prop where
  attempt : w.completion unicode e = some (service, handoffState, session)
  found : (service.prune w.store (e.now 0)).pendingSsoStates.get? handoffState = some record
  unused : truthyMs record.usedAt = false
  inTime : e.now 1 ≤ record.expiresAt

/-- The event mints an authorization code, in a service and at a reading of the
    clock, for a request and a session labelled for its client. -/
inductive Issues (w : World) (e : Event) : AuthService → ℤ → AuthorizationRequest → Session → Prop
  | beginAuthorization {call : ℕ} {s : SignIn} (action : e.action = .beginAuthorization call)
    (inFlight : w.signIns.get? call = some s) :
    Issues w e s.service (e.now 1) s.request s.session
  | beginAuthorizationFromSession {request : AuthorizationRequest} {session : Session}
    (action : e.action = .beginAuthorizationFromSession request session) :
    Issues w e e.service (e.now 1) request (e.service.signInSession request session)
  | completed {service : AuthService} {handoffState : String} {session : Session}
    {record : PendingSsoState} (completes : Completes unicode w e service handoffState session record) :
    Issues w e service (e.now 3) record.request (service.signInSession record.request session)

/-- The event rotates a refresh token. -/
structure Rotates (w : World) (e : Event) (token : String) (record : RefreshToken)
    (stamped : TokenRecord) (opened : Session) : Prop where
  action : e.action = .refreshAccessToken record.clientId token
  found : (e.service.prune w.store (e.now 0)).refreshTokens.get? token = some record
  stamps : stampTokenRecordMetadata e.service.config record.toTokenRecord = some stamped
  opens : openSessionDict e.service.fieldCipher stamped.session = .ok opened
  live : truthyMs record.revokedAt = false

/-- The record a rotation found, in the store before it. -/
theorem Rotates.stored {w : World} {e : Event} {token : String} {record : RefreshToken}
    {stamped : TokenRecord} {opened : Session} (h : Rotates w e token record stamped opened) :
    w.store.refreshTokens.get? token = some record :=
  AuthService.refreshTokens_of_prune h.found

/-- The event mints a token pair, in a service and with its readings of the
    clock, for a session, a scope and a client. -/
inductive Mints (w : World) (e : Event) : AuthService → (ℕ → ℤ) → Session → String → String → Prop
  | exchanged {call : ℕ} {x : Exchange} (action : e.action = .createTokenPair call)
    (inFlight : w.exchanges.get? call = some x) :
    Mints w e x.service (fun i => e.now (i + 1)) x.session x.scope x.clientId
  | rotated {token : String} {record : RefreshToken} {stamped : TokenRecord} {opened : Session}
    (rotates : Rotates w e token record stamped opened) :
    Mints w e e.service (fun i => e.now (i + 2)) opened record.scope record.clientId

/-- The action revokes tokens. -/
def Action.revokes : Action → Bool
  | revokeToken _ => true
  | revokeTokensForUser _ _ => true
  | _ => false

theorem ne_revokeToken_of_quiet {a : Action} (h : a.revokes = false) (token : String) :
    a ≠ .revokeToken token := by
  rintro rfl
  cases h

theorem ne_revokeTokensForUser_of_quiet {a : Action} (h : a.revokes = false) (u t : String) :
    a ≠ .revokeTokensForUser u t := by
  rintro rfl
  cases h

theorem quiet_of_eq {a b : Action} (h : a = b) (quiet : b.revokes = false) : a.revokes = false := by
  rw [h, quiet]

/-- Who revokes a token revokes no user's tokens. -/
theorem ne_revokeTokensForUser_of_revokeToken {a : Action} {token : String}
    (h : a = .revokeToken token) (u t : String) : a ≠ .revokeTokensForUser u t := by
  rw [h]
  rintro ⟨⟩

/-! ## The store -/

/-- The ways an event changes the store. -/
inductive StoreStep (w : World) (e : Event) : Store → Prop
  | unchanged (quiet : e.action.revokes = false) : StoreStep w e w.store
  | pruned (service : AuthService) (quiet : e.action.revokes = false) :
    StoreStep w e (service.prune w.store (e.now 0))
  | issued {service : AuthService} {request : AuthorizationRequest} {session : Session}
    (quiet : e.action.revokes = false)
    (issues : Issues unicode w e service (e.now 1) request session) :
    StoreStep w e (service.mintAuthorizationCode e.now e.rand w.store request session).2
  | completed {service : AuthService} {handoffState : String} {session : Session}
    {record : PendingSsoState} (quiet : e.action.revokes = false)
    (completes : Completes unicode w e service handoffState session record) :
    StoreStep w e
      (let minted := (service.mintAuthorizationCode (fun i => e.now (i + 2)) e.rand
        (service.prune w.store (e.now 0)) record.request
        (service.signInSession record.request session)).2
      { minted with
        pendingSsoStates := minted.pendingSsoStates.modify handoffState fun r =>
          { r with usedAt := some (e.now 4) } })
  | consumed {handoffState : String} (action : e.action = .consumePendingSsoState handoffState) :
    StoreStep w e { e.service.prune w.store (e.now 0) with
      pendingSsoStates := (e.service.prune w.store (e.now 0)).pendingSsoStates.modify handoffState
        fun r => { r with usedAt := some (e.now 2) } }
  | admitted {startedAt limit : ℤ} {request : SsoRequest}
    (action : e.action = .beginSsoAuthorization startedAt request)
    (perSource : maxPendingSsoStatesPerSource e.service.config = .ok limit)
    (source : (AuthService.outstandingForSource (e.service.prune w.store (e.now 0))
      request.initiatorKey (e.now 1) : ℤ) < limit)
    (all : AuthService.activePending (e.service.prune w.store (e.now 0)) (e.now 1) <
      maxPendingSsoStates) :
    StoreStep w e { e.service.prune w.store (e.now 0) with
      pendingSsoStates := (e.service.prune w.store (e.now 0)).pendingSsoStates.set
        (randomToken "ssostate" (e.rand.token 0))
        (e.service.pendingSsoState startedAt (e.now 1)
          (randomToken "ssostate" (e.rand.token 0)) request) }
  | burned {call : ℕ} {clientId redirectUri code : String} {codeVerifier : Option String}
    (action : e.action = .exchangeAuthorizationCode call clientId redirectUri code codeVerifier) :
    StoreStep w e (e.service.burned w.store (e.now 0) code)
  | paired {call : ℕ} {x : Exchange} (action : e.action = .createTokenPair call)
    (inFlight : w.exchanges.get? call = some x) :
    StoreStep w e (x.service.writeTokenPairToState (fun i => e.now (i + 1)) e.rand
      (x.service.prune w.store (e.now 0)) x.session x.scope x.clientId).2
  | relabelled {clientId token : String} {record : RefreshToken} {stamped : TokenRecord}
    (action : e.action = .refreshAccessToken clientId token)
    (found : (e.service.prune w.store (e.now 0)).refreshTokens.get? token = some record)
    (stamps : stampTokenRecordMetadata e.service.config record.toTokenRecord = some stamped) :
    StoreStep w e { e.service.prune w.store (e.now 0) with
      refreshTokens := (e.service.prune w.store (e.now 0)).refreshTokens.set token
        { record with toTokenRecord := stamped } }
  | rotated {token : String} {record : RefreshToken} {stamped : TokenRecord} {opened : Session}
    (rotates : Rotates w e token record stamped opened) :
    StoreStep w e
      (let written := e.service.writeTokenPairToState (fun i => e.now (i + 2)) e.rand
        { e.service.prune w.store (e.now 0) with
          refreshTokens := (e.service.prune w.store (e.now 0)).refreshTokens.set token
            { record with toTokenRecord := stamped } } opened record.scope record.clientId
      { written.2 with
        refreshTokens := written.2.refreshTokens.set token
          { record with toTokenRecord := stamped, revokedAt := some (e.now 1)
                        rotationResponse := some written.1 } })
  | read {call : ℕ} {token : String} {record : AccessToken} {stamped : TokenRecord}
    (action : e.action = .readAccessToken call token)
    (found : (e.service.prune w.store (e.now 0)).accessTokens.get? token = some record)
    (stamps : stampTokenRecordMetadata e.service.config record.toTokenRecord = some stamped) :
    StoreStep w e { e.service.prune w.store (e.now 0) with
      accessTokens := (e.service.prune w.store (e.now 0)).accessTokens.set token
        { record with toTokenRecord := stamped } }
  | revokedAccess {token : String} (action : e.action = .revokeToken token) :
    StoreStep w e { e.service.prune w.store (e.now 0) with
      accessTokens := (e.service.prune w.store (e.now 0)).accessTokens.erase token }
  | revokedRefresh {token : String} (action : e.action = .revokeToken token)
    (missing : (e.service.prune w.store (e.now 0)).accessTokens.get? token = none) :
    StoreStep w e { e.service.prune w.store (e.now 0) with
      refreshTokens := (e.service.prune w.store (e.now 0)).refreshTokens.modify token fun r =>
        { r with revokedAt := some (e.now 1) } }
  | notRevoked {token : String} (action : e.action = .revokeToken token)
    (missing : (e.service.prune w.store (e.now 0)).accessTokens.get? token = none) :
    StoreStep w e (e.service.prune w.store (e.now 0))
  | revokedUser {userId tenantId : String} (action : e.action = .revokeTokensForUser userId tenantId) :
    StoreStep w e
      (let state := e.service.prune w.store (e.now 0)
      { state with
        accessTokens := state.accessTokens.map fun r =>
          if r.session.isFor userId tenantId then { r with revokedAt := some (e.now 1) } else r
        refreshTokens := state.refreshTokens.map fun r =>
          if r.session.isFor userId tenantId then { r with revokedAt := some (e.now 1) } else r
        assetGrants := state.assetGrants.map fun r =>
          if r.userId = userId ∧ r.tenantId = tenantId then { r with expiresAt := 0 } else r })
  | grantsPruned (i : ℕ) (quiet : e.action.revokes = false) :
    StoreStep w e (pruneExpiredGrants w.store (e.now i))
  | granted {call : ℕ} {r : Request} {request : GrantRequest}
    (action : e.action = .createGrant call request) (inFlight : w.requests.get? call = some r) :
    StoreStep w e { w.store with
      assetGrants := (pruneExpiredGrants w.store (e.now 0)).assetGrants.set
        (randomToken "grant" (e.rand.token 0))
        ((AssetService.mk r.service.config).assetGrant (e.now 1) e.rand r.session request) }

variable {unicode}

/-- A completion changes the store in one of these ways. -/
theorem StoreStep.of_completion {w : World} {e : Event} {service : AuthService}
    {handoffState : String} {session : Session} (quiet : e.action.revokes = false)
    (attempt : w.completion unicode e = some (service, handoffState, session)) :
    StoreStep unicode w e
      (update (service.completeSsoAuthorizationUpdater e.now e.rand handoffState session)
        w.store).2 := by
  have h := service.complete_outcome e.now e.rand w.store handoffState
    session
  generalize update (service.completeSsoAuthorizationUpdater e.now e.rand handoffState session)
    w.store = outcome at h ⊢
  cases h with
  | refused _ => exact .pruned service quiet
  | completed found unused inTime => exact .completed quiet ⟨attempt, found, unused, inTime⟩

/-- Every event changes the store in one of the ways of `StoreStep`. -/
theorem store_step (unicode : Unicode) (w : World) (e : Event) :
    StoreStep unicode w e ((broker unicode).next w e).store := by
  change StoreStep unicode w e (w.step unicode e).2.store
  rw [World.step]
  -- What each transaction may write is its outcome lemma's; a call that is not in flight
  -- writes nothing.
  cases ha : e.action with
  | authenticate call request session => exact .unchanged (by rw [ha]; rfl)
  | beginAuthorization call =>
    dsimp only
    cases hs : w.signIns.get? call with
    | none => exact .unchanged (by rw [ha]; rfl)
    | some s => exact .issued (by rw [ha]; rfl) (.beginAuthorization ha hs)
  | beginAuthorizationFromSession request session =>
    exact .issued (by rw [ha]; rfl) (.beginAuthorizationFromSession ha)
  | beginSsoAuthorization startedAt request =>
    have h := e.service.begin_sso_outcome e.now e.rand w.store startedAt
      request
    dsimp only [World.commit]
    generalize update (e.service.beginSsoAuthorizationUpdater startedAt e.now e.rand request)
      w.store = outcome at h ⊢
    cases h with
    | raised _ => exact .unchanged (by rw [ha]; rfl)
    | admitted perSource source all => exact .admitted ha perSource source all
  | inspectPendingSsoState handoffState => exact .unchanged (by rw [ha]; rfl)
  | completeSsoAuthorization handoffState session =>
    exact .of_completion (by rw [ha]; rfl) (by rw [World.completion, ha])
  | consumePendingSsoState handoffState =>
    have h := e.service.consume_outcome e.now w.store handoffState
    dsimp only [World.commit]
    generalize update (e.service.consumePendingSsoStateUpdater e.now handoffState) w.store =
      outcome at h ⊢
    cases h with
    | refused => exact .pruned _ (by rw [ha]; rfl)
    | consumed _ _ _ => exact .consumed ha
  | receiveCallback call rate form =>
    dsimp only
    split <;> exact .unchanged (by rw [ha]; rfl)
  | answerCallback call authenticatedAt result =>
    dsimp only
    cases hc : w.callbacks.get? call with
    | none => exact .unchanged (by rw [ha]; rfl)
    | some c =>
      dsimp only [World.answerCallback]
      cases hauth : authenticateWithSessionKey unicode c.service.config authenticatedAt
          c.callback.record.tenant c.callback.sessionKey c.callback.username result with
      | error _ => exact .unchanged (by rw [ha]; rfl)
      | ok session =>
        exact .of_completion (by rw [ha]; rfl) (by simp only [World.completion, ha, hc, hauth])
  | exchangeAuthorizationCode call clientId redirectUri code codeVerifier =>
    have h := e.service.exchange_outcome e.now w.store clientId redirectUri code
      codeVerifier
    dsimp only
    generalize e.service.exchangeAuthorizationCode e.now clientId redirectUri code codeVerifier
      w.store = outcome at h ⊢
    cases h with
    | unknownClient _ => exact .unchanged (by rw [ha]; rfl)
    | raised _ => exact .unchanged (by rw [ha]; rfl)
    | notFound _ => exact .pruned _ (by rw [ha]; rfl)
    | refused _ => exact .burned ha
    | exchanged _ _ _ _ _ _ => exact .burned ha
  | createTokenPair call =>
    dsimp only
    cases hx : w.exchanges.get? call with
    | none => exact .unchanged (by rw [ha]; rfl)
    | some x => exact .paired ha hx
  | refreshAccessToken clientId token =>
    have h := e.service.refresh_outcome e.now e.rand w.store clientId token
    dsimp only [World.commit]
    generalize e.service.refreshAccessToken e.now e.rand clientId token w.store = outcome at h ⊢
    cases h with
    | unknownClient _ => exact .unchanged (by rw [ha]; rfl)
    | raised _ => exact .unchanged (by rw [ha]; rfl)
    | notFound _ => exact .pruned _ (by rw [ha]; rfl)
    | refused _ found stamps => exact .relabelled ha found stamps
    | replayed found _ stamps _ _ _ _ => exact .relabelled ha found stamps
    | rotated found client stamps opens live =>
      subst client
      exact .rotated ⟨ha, found, stamps, opens, live⟩
  | readAccessToken call token =>
    have h := e.service.read_outcome e.now w.store token
    dsimp only
    generalize e.service.readAccessToken e.now token w.store = outcome at h ⊢
    cases h with
    | absent _ => exact .pruned _ (by rw [ha]; rfl)
    | unconfigured _ _ => exact .pruned _ (by rw [ha]; rfl)
    | stamped found stamps => exact .read ha found stamps
  | createGrant call request =>
    dsimp only
    cases hr : w.requests.get? call with
    | none => exact .unchanged (by rw [ha]; rfl)
    | some r =>
      have h := (AssetService.mk r.service.config).grant_outcome e.now e.rand w.store r.session request
      dsimp only [World.commit]
      generalize update ((AssetService.mk r.service.config).createGrantUpdater e.now e.rand r.session
        request) w.store = outcome at h ⊢
      cases h with
      | raised _ => exact .unchanged (by rw [ha]; rfl)
      | granted _ => exact .granted ha hr
  | verifyGrant grantId expiresAt signature =>
    have h := (AssetService.mk e.service.config).verify_outcome e.now w.store grantId
      expiresAt signature
    dsimp only [World.commit]
    generalize (AssetService.mk e.service.config).verifyGrant e.now grantId expiresAt signature
      w.store = outcome at h ⊢
    cases h with
    | unread _ _ => exact .unchanged (by rw [ha]; rfl)
    | refused _ => exact .grantsPruned 1 (by rw [ha]; rfl)
    | accepted _ => exact .grantsPruned 1 (by rw [ha]; rfl)
  | revokeToken token =>
    have h := e.service.revoke_outcome e.now w.store token
    dsimp only [World.commit]
    generalize update (e.service.revokeTokenUpdater e.now token) w.store = outcome at h ⊢
    cases h with
    | access _ => exact .revokedAccess ha
    | refresh missing _ => exact .revokedRefresh ha missing
    | notFound missing _ => exact .notRevoked ha missing
  | revokeTokensForUser userId tenantId => exact .revokedUser ha
  | prune => exact .pruned _ (by rw [ha]; rfl)
  | finish call => exact .unchanged (by rw [ha]; rfl)

end Broker
