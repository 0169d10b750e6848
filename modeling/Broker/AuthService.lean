import Broker.Lib.Base64
import Broker.Lib.Double
import Broker.Lib.Sha256
import Broker.Store

/-!
# The authorization service

`AuthService`: OAuth authorization codes bound to a client, a redirect URI and
a PKCE challenge; access tokens; refresh tokens, rotated on their first use;
and the pending handoff states of the hosted sign-in (SSO).

Every operation is an updater of the store, run as a transaction. It takes what
its environment supplies while it runs: the clock, `now i` being what the
`i`-th call of `_now_ms()` returns, and the random draws `rand`, `rand.token i`
being the `i`-th token drawn. An exchange takes two transactions
(`exchangeUpdater`, then `createTokenPairUpdater`): other operations may run
between them. A password sign-in authenticates before its transaction
(`beginAuthorizationUpdater`), and an SSO initiation reads the clock before it
(`startedAt`).
-/

namespace Broker

open Py

/-- The random draws of an operation: URL-safe tokens, and the initialisation
    vectors of its encryptions. -/
structure Rand where
  token : ℕ → String
  iv : ℕ → ℕ

/-- An `AuthService`: the configuration and the cipher it runs with. -/
structure AuthService where
  config : AppConfig
  fieldCipher : FieldCipher

/-- The upper bound `_MAX_PENDING_SSO_STATES` on outstanding handoff states. -/
def maxPendingSsoStates : ℕ := 2000

/-- The result of a division or of a conversion to a `float`. -/
def float (q : Option ℚ) : Except PyError ℚ := q.elim (.error .overflowError) .ok

/-- `_max_pending_sso_states_per_source`. -/
def maxPendingSsoStatesPerSource (config : AppConfig) : Except PyError ℤ := do
  let windowS ← float (Double.round (config.rateLimit.windowMs / 1000))
  let pendingWindowS := config.resourceSpace.ssoPendingTtlSeconds
  let requests ← float (Double.round (config.rateLimit.maxRequests * pendingWindowS : ℤ))
  if windowS = 0 then throw .zeroDivisionError
  let fromRate := Double.truncate (← float (Double.div requests windowS))
  return max 10 (min fromRate (maxPendingSsoStates / 10))

/-- `_is_active_pending_sso_state`: an unused handoff state, not yet expired. -/
def isActivePendingSsoState (record : PendingSsoState) (now : ℤ) : Bool :=
  record.usedAt.isNone && record.expiresAt > now

/-- `_random_token`. -/
def randomToken (kind drawn : String) : String := kind ++ "_" ++ drawn

/-- `_sha256_b64url`. -/
def sha256B64url (value : String) : String :=
  Base64.encodeUnpadded (Sha256.digest value.toUTF8.toList)

/-- `_integration_for_client_id`. -/
def integrationForClientId (config : AppConfig) (clientId : String) : Option String :=
  (config.oauth.clients.get? clientId).bind (·.integration)

/-- `_is_configured_client`. -/
def isConfiguredClient (config : AppConfig) (clientId : String) : Bool :=
  config.oauth.clients.contains clientId

/-- `_stamp_token_record_metadata`: the record labelled for its client, none
    when the client is not configured. -/
def stampTokenRecordMetadata (config : AppConfig) (record : TokenRecord) : Option TokenRecord :=
  if isConfiguredClient config record.clientId then
    let integration := integrationForClientId config record.clientId
    some { record with
      integration
      session := stampBrokerSessionMetadata record.session record.clientId integration }
  else none

/-! ## Requests and results -/

/-- The OAuth parameters an authorization code is bound to. -/
structure AuthorizationRequest where
  clientId : String
  redirectUri : String
  scope : String
  codeChallenge : Option String
  codeChallengeMethod : Option String
  deriving DecidableEq, Repr

/-- An SSO initiation. -/
structure SsoRequest extends AuthorizationRequest where
  canvaState : String
  tenant : Tenant
  correlationId : String
  initiatorKey : String
  deriving DecidableEq, Repr

/-- The OAuth parameters of the initiation that created a handoff state. -/
def PendingSsoState.request (record : PendingSsoState) : AuthorizationRequest :=
  ⟨record.clientId, record.redirectUri, record.scope, record.codeChallenge,
    some record.codeChallengeMethod⟩

/-- How a handoff state is found, or what became of it. -/
inductive SsoResult
  | invalid
  | replayed (record : PendingSsoState)
  | expired (record : PendingSsoState)
  | active (record : PendingSsoState)
  | consumed (record : PendingSsoState)
  | valid (code : String) (record : PendingSsoState)
  deriving DecidableEq, Repr

/-- The error body of the token endpoint. -/
structure OAuthError where
  error : String
  description : String
  deriving DecidableEq, Repr

namespace AuthService

variable (service : AuthService)

/-- The grace period `_refresh_grace_ms`. -/
def refreshGraceMs : ℤ := service.config.oauth.refreshGraceSeconds * 1000

/-- `AuthService._prune`. -/
def prune (state : Store) (now : ℤ) : Store := pruneExpired state now service.refreshGraceMs

/-! ## Token pairs -/

/-- The session stored in a token pair: labelled for its client, and sealed. -/
def tokenSession (rand : Rand) (session : Session) (clientId : String) : Session :=
  sealSession service.fieldCipher rand.iv
    (stampBrokerSessionMetadata session clientId (integrationForClientId service.config clientId))

/-- What the records of a token pair share. -/
def tokenRecord (rand : Rand) (session : Session) (scope clientId : String) : TokenRecord where
  clientId
  scope
  integration := integrationForClientId service.config clientId
  session := service.tokenSession rand session clientId

/-- The access token record of a pair. -/
def accessTokenRecord (now : ℕ → ℤ) (rand : Rand) (session : Session) (scope clientId : String) :
    AccessToken :=
  { service.tokenRecord rand session scope clientId with
    accessToken := randomToken "at" (rand.token 0)
    expiresAt := now 0 + service.config.oauth.tokenTtlSeconds * 1000
    createdAt := now 1
    revokedAt := none }

/-- The refresh token record of a pair. -/
def refreshTokenRecord (now : ℕ → ℤ) (rand : Rand) (session : Session) (scope clientId : String) :
    RefreshToken :=
  { service.tokenRecord rand session scope clientId with
    refreshToken := randomToken "rt" (rand.token 1)
    createdAt := now 2
    expiresAt := now 3 + service.config.oauth.refreshTokenTtlSeconds * 1000
    revokedAt := none
    rotationResponse := none }

/-- The response that hands a pair out. -/
def tokenResponse (rand : Rand) (scope : String) : TokenResponse where
  accessToken := randomToken "at" (rand.token 0)
  tokenType := "Bearer"
  expiresIn := service.config.oauth.tokenTtlSeconds
  refreshToken := some (randomToken "rt" (rand.token 1))
  scope

/-- `_write_token_pair_to_state`. -/
def writeTokenPairToState (now : ℕ → ℤ) (rand : Rand) (state : Store) (session : Session)
    (scope clientId : String) : TokenResponse × Store :=
  let access := service.accessTokenRecord now rand session scope clientId
  let refresh := service.refreshTokenRecord now rand session scope clientId
  (service.tokenResponse rand scope, { state with
    accessTokens := state.accessTokens.set access.accessToken access
    refreshTokens := state.refreshTokens.set refresh.refreshToken refresh })

/-! ## Authorization codes -/

/-- `code_challenge_method or "S256"`. -/
def methodOrS256 (method : Option String) : String :=
  match method with
  | none | some "" => "S256"
  | some m => m

/-- The record of an authorization code, minted at `now`. -/
def authorizationCode (now : ℤ) (rand : Rand) (request : AuthorizationRequest)
    (session : Session) : AuthorizationCode where
  code := randomToken "code" (rand.token 0)
  clientId := request.clientId
  redirectUri := request.redirectUri
  scope := request.scope
  codeChallenge := request.codeChallenge
  codeChallengeMethod := methodOrS256 request.codeChallengeMethod
  session := sealSession service.fieldCipher rand.iv session
  expiresAt := now + service.config.oauth.authCodeTtlSeconds * 1000

/-- `AuthService._mint_authorization_code`. -/
def mintAuthorizationCode (now : ℕ → ℤ) (rand : Rand) (state : Store) (request : AuthorizationRequest)
    (session : Session) : String × Store :=
  let state := service.prune state (now 0)
  let record := service.authorizationCode (now 1) rand request session
  (record.code, { state with
    authorizationCodes := state.authorizationCodes.set record.code record })

/-- The session of `begin_authorization`, labelled for its client, once
    `authenticate` has returned it. -/
def signInSession (request : AuthorizationRequest) (session : Session) : Session :=
  stampBrokerSessionMetadata session request.clientId
    (integrationForClientId service.config request.clientId)

/-- The transaction of `begin_authorization` and of
    `begin_authorization_from_session`. -/
def beginAuthorizationUpdater (now : ℕ → ℤ) (rand : Rand) (request : AuthorizationRequest)
    (session : Session) : Updater String := fun state =>
  .ok (service.mintAuthorizationCode now rand state request session)

/-! ## Pending SSO states -/

/-- The refusal of an SSO initiation. -/
def ssoCapacity (message : String) : PyError :=
  .resourceSpaceError ⟨"SSO_CAPACITY", message, 503⟩

/-- The handoff states that count against the limit of an initiator. -/
def outstandingForSource (state : Store) (initiatorKey : String) (now : ℤ) : ℕ :=
  state.pendingSsoStates.count fun r =>
    r.initiatorKey = initiatorKey && isActivePendingSsoState r now

/-- The handoff states that count against the limit of all initiators. -/
def activePending (state : Store) (now : ℤ) : ℕ :=
  state.pendingSsoStates.count fun r => isActivePendingSsoState r now

/-- The record of an SSO initiation: its expiry counts from `startedAt`. -/
def pendingSsoState (startedAt now : ℤ) (handoffState : String) (request : SsoRequest) :
    PendingSsoState :=
  let expiresAt := startedAt + service.config.resourceSpace.ssoPendingTtlSeconds * 1000
  { handoffState
    canvaState := request.canvaState
    clientId := request.clientId
    redirectUri := request.redirectUri
    scope := request.scope
    codeChallenge := request.codeChallenge
    codeChallengeMethod := methodOrS256 request.codeChallengeMethod
    tenant := request.tenant
    correlationId := request.correlationId
    initiatorKey := request.initiatorKey
    createdAt := now
    expiresAt
    usedAt := none
    purgeAt := expiresAt + service.config.resourceSpace.ssoReplayRetentionSeconds * 1000 }

/-- The transaction of `begin_sso_authorization`. -/
def beginSsoAuthorizationUpdater (startedAt : ℤ) (now : ℕ → ℤ) (rand : Rand)
    (request : SsoRequest) : Updater String := fun state =>
  let state := service.prune state (now 0)
  match maxPendingSsoStatesPerSource service.config with
  | .error e => .error e
  | .ok perSourceLimit =>
    if outstandingForSource state request.initiatorKey (now 1) ≥ perSourceLimit then
      .error (ssoCapacity
        "Too many pending SSO sign-ins from this source; please retry shortly.")
    else if activePending state (now 1) ≥ maxPendingSsoStates then
      .error (ssoCapacity "Too many pending SSO sign-ins; please retry shortly.")
    else
      let handoffState := randomToken "ssostate" (rand.token 0)
      .ok (handoffState, { state with
        pendingSsoStates := state.pendingSsoStates.set handoffState
          (service.pendingSsoState startedAt (now 1) handoffState request) })

/-- `AuthService._classify_pending_sso_record`. -/
def classifyPendingSsoRecord (now : ℤ) : Option PendingSsoState → SsoResult
  | none => .invalid
  | some record =>
    if truthyMs record.usedAt then .replayed record
    else if now > record.expiresAt then .expired record
    else .active record

/-- `AuthService.inspect_pending_sso_state`, which changes nothing. -/
def inspectPendingSsoState (now : ℤ) (state : Store) (handoffState : String) : SsoResult :=
  classifyPendingSsoRecord now (state.pendingSsoStates.get? handoffState)

/-- The transaction of `complete_sso_authorization`: the handoff state is checked
    again, a code minted for the OAuth parameters of its initiation, and the
    state marked as used. -/
def completeSsoAuthorizationUpdater (now : ℕ → ℤ) (rand : Rand) (handoffState : String)
    (session : Session) : Updater SsoResult := fun state =>
  let state := service.prune state (now 0)
  match classifyPendingSsoRecord (now 1) (state.pendingSsoStates.get? handoffState) with
  | .active record =>
    let minted := service.mintAuthorizationCode (fun i => now (i + 2)) rand state record.request
      (service.signInSession record.request session)
    -- Minting prunes again, and may have removed the record: the mark is then lost with it.
    .ok (.valid minted.1 { record with usedAt := some (now 4) }, { minted.2 with
      pendingSsoStates := minted.2.pendingSsoStates.modify handoffState fun r =>
        { r with usedAt := some (now 4) } })
  | result => .ok (result, state)

/-- The transaction of the deprecated `consume_pending_sso_state`. -/
def consumePendingSsoStateUpdater (now : ℕ → ℤ) (handoffState : String) : Updater SsoResult :=
  fun state =>
  let state := service.prune state (now 0)
  match classifyPendingSsoRecord (now 1) (state.pendingSsoStates.get? handoffState) with
  | .active record =>
    .ok (.consumed { record with usedAt := some (now 2) }, { state with
      pendingSsoStates := state.pendingSsoStates.modify handoffState fun r =>
        { r with usedAt := some (now 2) } })
  | result => .ok (result, state)

/-! ## Exchanging a code -/

/-- The transaction of `_create_token_pair`. -/
def createTokenPairUpdater (now : ℕ → ℤ) (rand : Rand) (session : Session)
    (scope clientId : String) : Updater TokenResponse := fun state =>
  .ok (service.writeTokenPairToState (fun i => now (i + 1)) rand (service.prune state (now 0))
    session scope clientId)

/-- The first transaction of `exchange_authorization_code`: it burns the code,
    and answers the session and the scope of the pair to create. -/
def exchangeUpdater (now : ℕ → ℤ) (clientId redirectUri code : String)
    (codeVerifier : Option String) : Updater (Except OAuthError (Session × String)) := fun state =>
  let state := service.prune state (now 0)
  match state.authorizationCodes.get? code with
  | none => .ok (.error ⟨"invalid_grant", "Authorization code not found."⟩, state)
  | some record =>
    let state := { state with authorizationCodes := state.authorizationCodes.erase code }
    if record.clientId ≠ clientId ∨ record.redirectUri ≠ redirectUri then
      .ok (.error ⟨"invalid_grant", "Client binding mismatch."⟩, state)
    else if !truthyStr record.codeChallenge || !truthyStr codeVerifier then
      .ok (.error ⟨"invalid_request", "PKCE code verifier is required."⟩, state)
    else if methodOrS256 (some record.codeChallengeMethod) ≠ "S256" then
      .ok (.error ⟨"invalid_request", "Only S256 PKCE is supported."⟩, state)
    else if codeVerifier.map sha256B64url ≠ record.codeChallenge then
      .ok (.error ⟨"invalid_grant", "PKCE verification failed."⟩, state)
    else
      match tryOpenSessionDict service.fieldCipher record.session with
      | .error e => .error e
      | .ok none =>
        .ok (.error ⟨"invalid_grant", "Session no longer valid; please sign in again."⟩, state)
      | .ok (some opened) => .ok (.ok (opened, record.scope), state)

/-- `exchange_authorization_code` up to its second transaction. -/
def exchangeAuthorizationCode (now : ℕ → ℤ) (clientId redirectUri code : String)
    (codeVerifier : Option String) (state : Store) :
    Except PyError (Except OAuthError (Session × String)) × Store :=
  if isConfiguredClient service.config clientId then
    update (service.exchangeUpdater now clientId redirectUri code codeVerifier) state
  else (.ok (.error ⟨"invalid_client", "Unknown OAuth client_id."⟩), state)

/-! ## Refreshing -/

/-- The refusal of a refresh token. -/
def refreshNotFound : OAuthError := ⟨"invalid_grant", "Refresh token not found."⟩

/-- The answer to a refresh token revoked at `revokedAt`: the response cached at
    its rotation, within the grace period. -/
def replay (now : ℤ) (record : RefreshToken) (revokedAt : ℤ) : Except OAuthError TokenResponse :=
  if now - revokedAt ≤ service.refreshGraceMs then
    match record.rotationResponse with
    | some cached => if truthyStr cached.refreshToken then .ok cached else .error refreshNotFound
    | none => .error refreshNotFound
  else .error refreshNotFound

/-- The transaction of `refresh_access_token`. -/
def refreshUpdater (now : ℕ → ℤ) (rand : Rand) (clientId refreshToken : String) :
    Updater (Except OAuthError TokenResponse) := fun state =>
  let state := service.prune state (now 0)
  match state.refreshTokens.get? refreshToken with
  | none => .ok (.error refreshNotFound, state)
  | some record =>
    if record.clientId ≠ clientId then .ok (.error refreshNotFound, state)
    else
      match stampTokenRecordMetadata service.config record.toTokenRecord with
      | none => .ok (.error ⟨"invalid_client", "Unknown OAuth client_id."⟩, state)
      | some stamped =>
        -- The stored record keeps its new label, whatever the outcome.
        let record := { record with toTokenRecord := stamped }
        let state := { state with refreshTokens := state.refreshTokens.set refreshToken record }
        match tryOpenSessionDict service.fieldCipher record.session with
        | .error e => .error e
        | .ok none =>
          .ok (.error ⟨"invalid_grant", "Session no longer valid; please sign in again."⟩, state)
        | .ok (some opened) =>
          if truthyMs record.revokedAt then
            .ok (service.replay (now 1) record (record.revokedAt.getD 0), state)
          else
            let written := service.writeTokenPairToState (fun i => now (i + 2)) rand state opened
              record.scope clientId
            .ok (.ok written.1, { written.2 with
              refreshTokens := written.2.refreshTokens.set refreshToken
                { record with revokedAt := some (now 1), rotationResponse := some written.1 } })

/-- `refresh_access_token`. -/
def refreshAccessToken (now : ℕ → ℤ) (rand : Rand) (clientId refreshToken : String)
    (state : Store) : Except PyError (Except OAuthError TokenResponse) × Store :=
  if isConfiguredClient service.config clientId then
    update (service.refreshUpdater now rand clientId refreshToken) state
  else (.ok (.error ⟨"invalid_client", "Unknown OAuth client_id."⟩), state)

/-! ## Reading and revoking -/

/-- The transaction of `read_access_token`. -/
def readUpdater (now : ℕ → ℤ) (token : String) : Updater (Option AccessToken) := fun state =>
  let state := service.prune state (now 0)
  match state.accessTokens.get? token with
  | none => .ok (none, state)
  | some record =>
    match stampTokenRecordMetadata service.config record.toTokenRecord with
    | none => .ok (none, state)
    | some stamped =>
      let record := { record with toTokenRecord := stamped }
      .ok (some record, { state with accessTokens := state.accessTokens.set token record })

/-- `AuthService._open_session`. -/
def openSession (record : AccessToken) : Except PyError (Option AccessToken) :=
  match tryOpenSessionDict service.fieldCipher record.session with
  | .error e => .error e
  | .ok none => .ok none
  | .ok (some opened) => .ok (some { record with session := opened })

/-- `read_access_token`: the stored record, its session opened. -/
def readAccessToken (now : ℕ → ℤ) (token : String) (state : Store) :
    Except PyError (Option AccessToken) × Store :=
  let read := update (service.readUpdater now token) state
  match read.1 with
  | .ok (some record) => (service.openSession record, read.2)
  | result => (result, read.2)

/-- The transaction of `revoke_token`. -/
def revokeTokenUpdater (now : ℕ → ℤ) (token : String) : Updater Bool := fun state =>
  let state := service.prune state (now 0)
  if state.accessTokens.contains token then
    .ok (true, { state with accessTokens := state.accessTokens.erase token })
  else if state.refreshTokens.contains token then
    .ok (true, { state with
      refreshTokens := state.refreshTokens.modify token fun r =>
        { r with revokedAt := some (now 1) } })
  else .ok (false, state)

/-- The transaction of `revoke_tokens_for_user`. -/
def revokeTokensForUserUpdater (now : ℕ → ℤ) (userId tenantId : String) : Updater Unit :=
  fun state =>
  let state := service.prune state (now 0)
  .ok ((), { state with
    accessTokens := state.accessTokens.map fun r =>
      if r.session.isFor userId tenantId then { r with revokedAt := some (now 1) } else r
    refreshTokens := state.refreshTokens.map fun r =>
      if r.session.isFor userId tenantId then { r with revokedAt := some (now 1) } else r
    assetGrants := state.assetGrants.map fun r =>
      if r.userId = userId ∧ r.tenantId = tenantId then { r with expiresAt := 0 } else r })

end AuthService

end Broker
