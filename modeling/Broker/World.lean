import Broker.Lib.Runs
import Broker.AssetService
import Broker.SsoCallback

/-!
# The broker at work

The store together with the calls in flight, as a machine (`broker`) whose
events are the transactions of the services and the other instants at which a
call may be interrupted: a run is any interleaving of any number of calls.

A call of two parts is in flight in between, under a number of its own: a
password sign-in between its authentication and its transaction, an exchange
between burning the code and creating the pair, a callback while ResourceSpace
validates its session key, an authorised request while it still holds the
session it has read. A call keeps the service it began with; the services of
other calls may differ, as after a restart under another configuration.

What the clock and the random generator supply is part of an event. `Fresh`
runs never draw a token twice, and the clock of `Timed` runs never goes back.
-/

namespace Broker

open Py Runs

/-! ## Events -/

/-- The clock readings of an event, in milliseconds since 1970. -/
structure Clock where
  now : ℕ → ℤ
  /-- The clock is past the epoch: no reading is falsy. -/
  pos : ∀ i, 0 < now i

/-- What happens. Calls of several parts are told apart by the number `call`. -/
inductive Action
  /-- `begin_authorization`, until `authenticate` has returned the session. -/
  | authenticate (call : ℕ) (request : AuthorizationRequest) (session : Session)
  /-- The transaction of that call. -/
  | beginAuthorization (call : ℕ)
  | beginAuthorizationFromSession (request : AuthorizationRequest) (session : Session)
  | beginSsoAuthorization (startedAt : ℤ) (request : SsoRequest)
  | inspectPendingSsoState (handoffState : String)
  | completeSsoAuthorization (handoffState : String) (session : Session)
  | consumePendingSsoState (handoffState : String)
  /-- The callback route, until it calls ResourceSpace. -/
  | receiveCallback (call : ℕ) (rate : RateLimitResult) (form : CallbackForm)
  /-- The rest of that call, given what ResourceSpace answered. -/
  | answerCallback (call : ℕ) (authenticatedAt : String) (result : Except PyError Json)
  /-- `exchange_authorization_code`, up to its second transaction. -/
  | exchangeAuthorizationCode (call : ℕ) (clientId redirectUri code : String)
      (codeVerifier : Option String)
  /-- The second transaction of that call. -/
  | createTokenPair (call : ℕ)
  | refreshAccessToken (clientId refreshToken : String)
  /-- `read_access_token`, for a request that goes on with the session. -/
  | readAccessToken (call : ℕ) (token : String)
  /-- `_create_grant` within that request. -/
  | createGrant (call : ℕ) (request : GrantRequest)
  | verifyGrant (grantId expiresAt signature : Option String)
  | revokeToken (token : String)
  | revokeTokensForUser (userId tenantId : String)
  | prune
  /-- The call ends, or is lost. -/
  | finish (call : ℕ)

/-- An event: what happens, in which service, and what its environment supplies. -/
structure Event where
  service : AuthService
  clock : Clock
  rand : Rand
  action : Action

/-- The `i`-th clock reading of the event. -/
abbrev Event.now (e : Event) : ℕ → ℤ := e.clock.now

/-- The answer to an event. -/
inductive Answer
  /-- Nothing is answered: the call is in flight, has ended or does not exist. -/
  | none
  | code (code : String)
  | handoffState (handoffState : String)
  | sso (result : SsoResult)
  | callback (response : CallbackResponse)
  | tokens (result : Except OAuthError TokenResponse)
  | record (record : Option AccessToken)
  | grant (response : GrantResponse)
  | verification (result : Verification)
  | revoked (found : Bool)
  deriving DecidableEq

/-! ## States -/

/-- A password sign-in past its authentication. -/
structure SignIn where
  service : AuthService
  request : AuthorizationRequest
  session : Session

/-- An exchange past its first transaction. -/
structure Exchange where
  service : AuthService
  clientId : String
  redirectUri : String
  code : String
  codeVerifier : Option String
  session : Session
  scope : String

/-- A callback that waits for ResourceSpace. -/
structure CallbackCall where
  service : AuthService
  callback : Callback

/-- An authorised request. -/
structure Request where
  service : AuthService
  session : Session

/-- The store and the calls in flight. -/
structure World where
  store : Store
  signIns : Dict ℕ SignIn
  exchanges : Dict ℕ Exchange
  callbacks : Dict ℕ CallbackCall
  requests : Dict ℕ Request

namespace World

/-- The empty store, and no call in flight. -/
def initial : World := ⟨Store.initial, ∅, ∅, ∅, ∅⟩

/-- The outcome of a transaction, with its answer. -/
def commit {α : Type} (w : World) (outcome : Except PyError α × Store) (answer : α → Answer) :
    Except PyError Answer × World :=
  (outcome.1.map answer, { w with store := outcome.2 })

/-- The end of a call. -/
def finish (w : World) (call : ℕ) : World :=
  { w with
    signIns := w.signIns.erase call
    exchanges := w.exchanges.erase call
    callbacks := w.callbacks.erase call
    requests := w.requests.erase call }

variable (unicode : Unicode)

/-- The rest of a callback: the session key is validated, and the sign-in
    completed. -/
def answerCallback (w : World) (e : Event) (c : CallbackCall) (authenticatedAt : String)
    (result : Except PyError Json) : Except PyError Answer × World :=
  match authenticateWithSessionKey unicode c.service.config authenticatedAt
    c.callback.record.tenant c.callback.sessionKey c.callback.username result with
  | .error error => ((validationFailure error).map .callback, w)
  | .ok session =>
    let outcome := update (c.service.completeSsoAuthorizationUpdater e.now e.rand
      c.callback.handoffState session) w.store
    ((outcome.1.bind (Broker.answerCallback unicode c.callback)).map .callback,
      { w with store := outcome.2 })

/-- One event. -/
def step (w : World) (e : Event) : Except PyError Answer × World :=
  let service := e.service
  match e.action with
  | .authenticate call request session =>
    (.ok .none, { w with
      signIns := w.signIns.set call ⟨service, request, service.signInSession request session⟩ })
  | .beginAuthorization call =>
    match w.signIns.get? call with
    | none => (.ok .none, w)
    | some s =>
      { w with signIns := w.signIns.erase call }.commit
        (update (s.service.beginAuthorizationUpdater e.now e.rand s.request s.session) w.store) .code
  | .beginAuthorizationFromSession request session =>
    w.commit (update (service.beginAuthorizationUpdater e.now e.rand request
      (service.signInSession request session)) w.store) .code
  | .beginSsoAuthorization startedAt request =>
    w.commit (update (service.beginSsoAuthorizationUpdater startedAt e.now e.rand request) w.store)
      .handoffState
  | .inspectPendingSsoState handoffState =>
    (.ok (.sso (AuthService.inspectPendingSsoState (e.now 0) w.store handoffState)), w)
  | .completeSsoAuthorization handoffState session =>
    w.commit (update (service.completeSsoAuthorizationUpdater e.now e.rand handoffState session)
      w.store) .sso
  | .consumePendingSsoState handoffState =>
    w.commit (update (service.consumePendingSsoStateUpdater e.now handoffState) w.store) .sso
  | .receiveCallback call rate form =>
    match receiveCallback unicode service.config rate form
      (AuthService.inspectPendingSsoState (e.now 0) w.store form.handoffState) with
    | .error error => (.error error, w)
    | .ok (.inl response) => (.ok (.callback response), w)
    | .ok (.inr callback) =>
      (.ok .none, { w with callbacks := w.callbacks.set call ⟨service, callback⟩ })
  | .answerCallback call authenticatedAt result =>
    match w.callbacks.get? call with
    | none => (.ok .none, w)
    | some c =>
      { w with callbacks := w.callbacks.erase call }.answerCallback unicode e c authenticatedAt result
  | .exchangeAuthorizationCode call clientId redirectUri code codeVerifier =>
    match service.exchangeAuthorizationCode e.now clientId redirectUri code codeVerifier w.store with
    | (.ok (.ok (session, scope)), store) =>
      (.ok .none, { w with
        store
        exchanges := w.exchanges.set call
          ⟨service, clientId, redirectUri, code, codeVerifier, session, scope⟩ })
    | (.ok (.error error), store) => (.ok (.tokens (.error error)), { w with store })
    | (.error error, store) => (.error error, { w with store })
  | .createTokenPair call =>
    match w.exchanges.get? call with
    | none => (.ok .none, w)
    | some x =>
      { w with exchanges := w.exchanges.erase call }.commit
        (update (x.service.createTokenPairUpdater e.now e.rand x.session x.scope x.clientId) w.store)
        fun tokens => .tokens (.ok tokens)
  | .refreshAccessToken clientId refreshToken =>
    w.commit (service.refreshAccessToken e.now e.rand clientId refreshToken w.store) .tokens
  | .readAccessToken call token =>
    let read := service.readAccessToken e.now token w.store
    (read.1.map .record, { w with
      store := read.2
      requests := match read.1 with
        | .ok (some record) => w.requests.set call ⟨service, record.session⟩
        | _ => w.requests })
  | .createGrant call request =>
    match w.requests.get? call with
    | none => (.ok .none, w)
    | some r =>
      w.commit (update ((AssetService.mk r.service.config).createGrantUpdater e.now e.rand r.session
        request) w.store) .grant
  | .verifyGrant grantId expiresAt signature =>
    w.commit ((AssetService.mk service.config).verifyGrant e.now grantId expiresAt signature w.store)
      .verification
  | .revokeToken token =>
    w.commit (update (service.revokeTokenUpdater e.now token) w.store) .revoked
  | .revokeTokensForUser userId tenantId =>
    w.commit (update (service.revokeTokensForUserUpdater e.now userId tenantId) w.store)
      fun _ => .none
  | .prune => (.ok .none, { w with store := service.prune w.store (e.now 0) })
  | .finish call => (.ok .none, w.finish call)

end World

/-- The broker, as a machine. -/
def broker (unicode : Unicode) : Machine World Event (Except PyError Answer) where
  init := World.initial
  step := World.step unicode

/-! ## Runs -/

/-- No token is drawn by two events. -/
def Fresh (es : List Event) : Prop :=
  es.Pairwise fun e e' => ∀ i j, e.rand.token i ≠ e'.rand.token j

/-- The clock never goes back. -/
def Timed (es : List Event) : Prop :=
  (∀ e ∈ es, ∀ i j, i ≤ j → e.now i ≤ e.now j) ∧
    es.Pairwise fun e e' => ∀ i j, e.now i ≤ e'.now j

/-! ## Sample runs -/

namespace Sample

/-- A configuration with one client. -/
def config : AppConfig where
  environment := "production"
  baseUrl := "https://broker.example"
  oauth :=
    { clients := (∅ : Dict String OAuthClientConfig).set "canva-client"
        ⟨"canva-client", some "canva", ["https://canva.example/return"]⟩
      tokenTtlSeconds := 3600
      signedUrlTtlSeconds := 300
      authCodeTtlSeconds := 600
      refreshGraceSeconds := 30
      refreshTokenTtlSeconds := 2592000 }
  signing := ⟨"asset-secret"⟩
  rateLimit := ⟨10, 60000⟩
  resourceSpace :=
    { mode := "live"
      allowedHosts := []
      tenants := []
      ssoEnabled := true
      ssoPendingTtlSeconds := 600
      ssoReplayRetentionSeconds := 3600 }

/-- A service that stores sessions as they are. -/
def service : AuthService := ⟨config, .null⟩

def tenant : Tenant where
  id := "tenant_dam"
  slug := some "dam"
  name := some "dam.example"
  baseUrl := "https://dam.example"
  apiUrl := some "https://dam.example/api/"
  rootCollections := []
  collectionChildren := []

def session : Session where
  tenant
  user := ⟨"tenant_dam:ada", "ada", "ada", "member", none⟩
  upstream := ⟨"live", some "session-key", "2026-01-01T00:00:00Z"⟩
  broker := none

def verifier : String := "verifier"

def request : AuthorizationRequest where
  clientId := "canva-client"
  redirectUri := "https://canva.example/return"
  scope := "dam:read"
  codeChallenge := some "iMnq5o6zALKXGivsnlom_0F5_WYda32GHkxlV7mq7hQ"
  codeChallengeMethod := some "S256"

/-- The events of a service whose clock stands still during each, at the given
    time, and whose every draw is the given string. -/
def run (service : AuthService) (steps : List (String × ℤ × Action)) : List Event :=
  steps.map fun (draw, t, action) =>
    { service, action
      clock := ⟨fun _ => max 1 t, fun _ => by omega⟩
      rand := ⟨fun _ => draw, fun _ => 0⟩ }

theorem fresh (service : AuthService) {steps : List (String × ℤ × Action)}
    (h : (steps.map Prod.fst).Nodup) : Fresh (run service steps) := by
  rw [Fresh, run, List.pairwise_map]
  rw [List.Nodup, List.pairwise_map] at h
  exact h.imp fun hne _ _ => hne

theorem timed (service : AuthService) {steps : List (String × ℤ × Action)}
    (h : (steps.map fun s => s.2.1).Pairwise (· ≤ ·)) : Timed (run service steps) := by
  refine ⟨fun e he i j _ => ?_, ?_⟩
  · obtain ⟨s, _, rfl⟩ := List.mem_map.1 he
    exact le_refl _
  · rw [run, List.pairwise_map]
    rw [List.pairwise_map] at h
    exact h.imp fun hle _ _ => max_le_max_left 1 hle

end Sample

end Broker
