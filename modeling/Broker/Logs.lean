import Broker.ApiCalls
import Broker.Quotas
import Broker.Routes

/-!
# What the sign-in routes log

The handlers of `POST /oauth/authorise` and of `POST /oauth/sso/callback`, each as one
computation on the state of the server, which writes its log as it goes (`Handler`). The rate
limiter, the store and the log are the state; an exception that no handler catches is logged
when the request is answered (`serve`).
-/

namespace Broker

open Py Runs

/-! ## Entries -/

/-- A value in an entry of the log. -/
inductive LogValue
  | none
  | flag (b : Bool)
  | text (s : String)
  deriving DecidableEq, Repr

/-- An entry of the log: its time, level and message, and its context. -/
structure LogEntry where
  ts : String
  level : String
  message : String
  context : List (String × LogValue)
  deriving DecidableEq, Repr

/-- A deployment, with the settings of its log. -/
structure LoggedSite extends Site where
  clientIpLogKey : String
  clientIpLogDiagnostics : Bool
  /-- `str(exc)`, for an exception that is raised about a URL or another text. -/
  exceptionText : PyError → String → String

/-- `_client_ip_log_key`. -/
def LoggedSite.logKey (site : LoggedSite) : String :=
  if site.clientIpLogKey ≠ "" then site.clientIpLogKey
  else if site.config.signing.assetSecret ≠ "" then site.config.signing.assetSecret
  else "development-client-ip-log-key"

/-- `pseudonymize_client_ip`. -/
def pseudonymizeClientIp (value key : String) : LogValue :=
  if value = "" ∨ value = "unknown" then .none
  else .text (String.ofList
    ((hexdigest (Sha256.hmac key.toUTF8.toList value.toUTF8.toList)).take 12))

/-- `value or None`. -/
def LogValue.orNone (value : String) : LogValue := if value = "" then .none else .text value

/-- `ClientHostResolution.log_context`. -/
def ClientHostResolution.logContext (resolution : ClientHostResolution) (site : LoggedSite) :
    List (String × LogValue) :=
  [("transportPeerHash", pseudonymizeClientIp resolution.transportPeer site.logKey),
   ("resolvedClientHostHash", pseudonymizeClientIp resolution.host site.logKey),
   ("clientIpHeader", .orNone resolution.clientIpHeader),
   ("clientIpHeaderTrusted", .flag resolution.headerTrusted),
   ("clientIpHeaderPresent", .flag resolution.headerPresent)] ++
    if site.clientIpLogDiagnostics then [("transportPeer", .orNone resolution.transportPeer)] else []

/-! ## Handlers -/

/-- The state of the server. -/
structure Server where
  store : Store
  buckets : Dict String Bucket
  log : List LogEntry

/-- An exception, with its text. -/
structure Raised where
  error : PyError
  text : String
  deriving DecidableEq, Repr

/-- A handler, or a part of one. -/
abbrev Handler := ExceptT Raised (StateM Server)

/-- What a request meets with: its peer and headers, the addresses of hosts, and what the clock
    and the random generator supply to it. -/
structure Surroundings where
  request : HttpRequest
  getaddrinfo : List Char → Option (List (List Char))
  /-- When the rate limiter is asked. -/
  limitedAt : ℤ
  correlationId : String
  /-- When an initiation begins. -/
  startedAt : ℤ
  now : ℕ → ℤ
  rand : Rand
  /-- The time of day of each entry of the log. -/
  ts : ℕ → String

section Handlers

variable (site : LoggedSite) (around : Surroundings)

/-- `_emit`. -/
def Server.emit (level message : String) (context : List (String × LogValue)) (s : Server) : Server :=
  { s with log := s.log ++ [⟨around.ts s.log.length, level, message, context⟩] }

/-- `log.info`. -/
def info (message : String) (context : List (String × LogValue)) : Handler Unit :=
  modifyGet fun s => ((), s.emit around "info" message context)

/-- `rate_limiter.consume`. -/
def consumeRate (key : String) : Handler RateLimitResult :=
  modifyGet fun s =>
    ((consume site.config.rateLimit around.limitedAt key s.buckets).1,
      { s with buckets := (consume site.config.rateLimit around.limitedAt key s.buckets).2 })

/-- A transaction of the store, with what it raises. -/
def transact {α : Type} (updater : Updater α) : Handler (Except PyError α) :=
  modifyGet fun s => ((update updater s.store).1, { s with store := (update updater s.store).2 })

/-- An exception about a text. -/
def LoggedSite.raising {α : Type} (error : PyError) (about : String) : Handler α :=
  throw ⟨error, site.exceptionText error about⟩

/-! ## Authorisation -/

/-- `_begin_sso_authorize`. -/
def postSsoInitiation (call : AuthorizeCall) : Handler HttpResponse :=
  match beginSsoAuthorize site.unicode site.rawHost around.getaddrinfo site.config around.request
    around.correlationId call with
  | .error error =>
    site.raising error (String.ofList (strip (call.body.field "tenant_url").toList))
  | .ok (.inl response) => pure response
  | .ok (.inr request) => do
    let outcome ← transact
      (site.service.beginSsoAuthorizationUpdater around.startedAt around.now around.rand request)
    match outcome with
    | .error error =>
      match handoffResponse site.unicode site.config request (.error error) with
      | .error error => site.raising error ""
      | .ok response => pure response
    | .ok handoffState =>
      match hostOf site.unicode request.tenant.baseUrl with
      | none => site.raising .valueError request.tenant.baseUrl
      | some tenantHost =>
        info around "oauth_sso_initiated"
          ([("correlationId", .text around.correlationId), ("clientId", .text request.clientId),
            ("tenantHost", .text tenantHost)] ++
            (resolveClientHost site.config around.request).logContext site)
        match handoffResponse site.unicode site.config request (.ok handoffState) with
        | .error error => site.raising error ""
        | .ok response => pure response

/-- The password sign-in of `oauth_authorize_post`, given what ResourceSpace answers to the
    password. -/
def postPassword (call : AuthorizeCall) (upstream : Except Raised Session) : Handler HttpResponse :=
  match upstream with
  | .error raised => pure (errorPage (mapError raised.error))
  | .ok session => do
    let outcome ← transact (site.service.beginAuthorizationUpdater around.now around.rand call.request
      (site.service.signInSession call.request session))
    match outcome with
    | .error error => pure (errorPage (mapError error))
    | .ok code =>
      let rawTenant := call.body.field "tenant_url"
      match hostOf site.unicode
        (if "://".toList <:+: rawTenant.toList then rawTenant else "//" ++ rawTenant) with
      | none => pure (errorPage (mapError .valueError))
      | some tenantHost =>
        info around "oauth_authorize_completed"
          [("clientId", .text call.request.clientId), ("tenantHost", .text tenantHost)]
        pure (completionResponse site.unicode call code)

/-- `oauth_authorize_post`. -/
def postAuthorise (form : Form) (upstream : Except Raised Session) : Handler HttpResponse := do
  let rate ← consumeRate site around ("oauth_authorize:" ++ clientHost site.config around.request)
  match oauthAuthorizePost site.config rate form with
  | .inl response => pure response
  | .inr call =>
    if call.isSso site.unicode then postSsoInitiation site around call
    else postPassword site around call upstream

/-! ## Callbacks -/

/-- The status that the service reports. -/
def SsoResult.status : SsoResult → String
  | invalid => "invalid"
  | replayed _ => "replayed"
  | expired _ => "expired"
  | active _ => "active"
  | consumed _ => "consumed"
  | valid _ _ => "valid"

/-- What ResourceSpace answers to a session key: the time of day then, and what the call returns
    or raises, with the text of what it raises. -/
structure SessionKeyAnswer where
  authenticatedAt : String
  result : Except PyError Json
  text : String

/-- `authenticate_with_session_key` for a callback, with the text of what it raises. -/
def SessionKeyAnswer.outcome (answer : SessionKeyAnswer) (tenant : Tenant) (form : CallbackForm) :
    Except Raised Session :=
  (authenticateWithSessionKey site.unicode site.config.toAppConfig answer.authenticatedAt tenant
    form.sessionKey form.username answer.result).mapError fun error => ⟨error, answer.text⟩

/-- The correlation id of a handoff state, or else that of the callback. -/
def correlationIdOf (record : PendingSsoState) : String :=
  if record.correlationId = "" then around.correlationId else record.correlationId

/-- An answer of the callback, once it is logged. -/
def logged (message : String) (context : List (String × LogValue)) (response : CallbackResponse) :
    Handler HttpResponse := do
  info around message context
  pure (.callback response)

/-- `oauth_sso_callback` once its session key is validated. -/
def postCompletion (form : CallbackForm) (record : PendingSsoState) (tenantHost : String)
    (session : Session) : Handler HttpResponse := do
  let correlationId := correlationIdOf around record
  let outcome ← transact (site.service.completeSsoAuthorizationUpdater (fun i => around.now (i + 1))
    around.rand form.handoffState session)
  match outcome with
  | .error error => site.raising error ""
  | .ok (.replayed _) =>
    logged around "oauth_sso_state_replay" [("correlationId", .text correlationId)] .stateReplay
  | .ok (.valid code _) =>
    match appendQuery site.unicode record.redirectUri
      [("code", code), ("state", record.canvaState)] with
    | .error error => site.raising error record.redirectUri
    | .ok completionUrl =>
      let context := [("correlationId", LogValue.text correlationId),
        ("clientId", .text record.clientId), ("tenantHost", .text tenantHost)]
      info around "oauth_sso_token_validation_succeeded" context
      logged around "oauth_sso_callback_completed"
        (context ++ [("usernameProvided", .flag (form.username ≠ ""))]) (.signedIn completionUrl)
  | .ok completed =>
    logged around "oauth_sso_state_invalid"
      [("correlationId", .text correlationId), ("reason", .text completed.status)] .stateInvalid

/-- `oauth_sso_callback` once its handoff state is found active. -/
def postValidation (form : CallbackForm) (answer : SessionKeyAnswer) (record : PendingSsoState) :
    Handler HttpResponse :=
  let correlationId := correlationIdOf around record
  match hostOf site.unicode record.tenant.baseUrl with
  | none => site.raising .valueError record.tenant.baseUrl
  | some tenantHost =>
    let failed (reason : String) := logged around "oauth_sso_token_validation_failed"
      [("correlationId", .text correlationId), ("clientId", .text record.clientId),
        ("tenantHost", .text tenantHost), ("reason", .text reason)]
    if form.username = "" then
      logged around "oauth_sso_handoff_failed"
        [("correlationId", .text correlationId), ("reason", .text "missing_username")] .missingUsername
    else if form.sessionKey = "" then failed "missing_sessionkey" .missingSessionKey
    else
      match answer.outcome site record.tenant form with
      | .error ⟨.resourceSpaceError e, _⟩ =>
        failed e.code (.validationFailed (if [400, 401, 403].contains e.statusCode then 401 else 502))
      | .error raised => throw raised
      | .ok session => postCompletion site around form record tenantHost session

/-- `oauth_sso_callback` past the rate limiter. -/
def postInspection (form : CallbackForm) (answer : SessionKeyAnswer) : Handler HttpResponse := do
  if form.handoffState = "" then
    logged around "oauth_sso_state_invalid"
      [("correlationId", .text around.correlationId), ("reason", .text "missing_state")] .stateInvalid
  else
    let found ← modifyGet fun s =>
      (AuthService.inspectPendingSsoState (around.now 0) s.store form.handoffState, s)
    match found with
    | .invalid =>
      logged around "oauth_sso_state_invalid"
        [("correlationId", .text around.correlationId), ("reason", .text "unknown_state")]
        .stateInvalid
    | .expired record =>
      logged around "oauth_sso_state_expired"
        [("correlationId", .text (correlationIdOf around record))] .stateExpired
    | .replayed record =>
      logged around "oauth_sso_state_replay"
        [("correlationId", .text (correlationIdOf around record))] .stateReplay
    | .active record => postValidation site around form answer record
    | .consumed record | .valid _ record =>
      logged around "oauth_sso_state_invalid"
        [("correlationId", .text (correlationIdOf around record)), ("reason", .text "unexpected_state")]
        .stateInvalid

/-- `oauth_sso_callback`. -/
def postSsoCallback (form : CallbackForm) (answer : SessionKeyAnswer) : Handler HttpResponse :=
  if !site.config.resourceSpace.ssoEnabled then
    pure (.callback (.error 404 "NOT_FOUND" "Not found." none))
  else do
    let resolution := resolveClientHost site.config around.request
    info around "oauth_sso_callback_received"
      (("correlationId", .text around.correlationId) :: resolution.logContext site)
    let rate ← consumeRate site around ("oauth_sso_callback:" ++ resolution.host)
    if !rate.allowed then
      pure (.callback (.error 429 "RATE_LIMITED" "Too many requests."
        (some (max 1 (rate.retryAfterMs / 1000)))))
    else postInspection site around form answer

end Handlers

/-! ## Requests -/

/-- A request of a sign-in. -/
inductive SignInRequest
  /-- `POST /oauth/authorise`, or `/oauth/authorize`, with what ResourceSpace answers to the
      password. -/
  | authorise (path : String) (around : Surroundings) (form : Form) (upstream : Except Raised Session)
  /-- `POST /oauth/sso/callback`, with what ResourceSpace answers to the session key. -/
  | ssoCallback (around : Surroundings) (form : CallbackForm) (answer : SessionKeyAnswer)

namespace SignInRequest

def path : SignInRequest → String
  | authorise path _ _ _ => path
  | ssoCallback _ _ _ => "/oauth/sso/callback"

def around : SignInRequest → Surroundings
  | authorise _ around _ _ => around
  | ssoCallback around _ _ => around

/-- The handler of a request. -/
def handler (site : LoggedSite) : SignInRequest → Handler HttpResponse
  | authorise _ around form upstream => postAuthorise site around form upstream
  | ssoCallback around form answer => postSsoCallback site around form answer

/-- The answer to a request: what its handler answers, or a failure, which is logged
    (`_unexpected`). -/
def serve (site : LoggedSite) (s : Server) (r : SignInRequest) : HttpResponse × Server :=
  match (r.handler site).run s with
  | (.ok response, s) => (response, s)
  | (.error raised, s) =>
    (.error 500 "INTERNAL_ERROR" "Unexpected server error." none,
      s.emit r.around "error" "request_failed"
        [("path", .text r.path), ("error", .text raised.text)])

end SignInRequest

/-- The server, over the requests of sign-ins. -/
def signInServer (site : LoggedSite) : Machine Server SignInRequest HttpResponse where
  init := ⟨Store.initial, ∅, []⟩
  step := SignInRequest.serve site

end Broker
