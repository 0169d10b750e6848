import Broker.Authorise
import Broker.World

/-!
# The broker behind its routes

The broker as its clients see it (`routes`): a machine whose events are the
requests of the HTTP routes, with any forms, and whose answers are their
responses. A request becomes at most one event of the services
(`HttpEvent.event`), whatever the state, so a run of the routes is a run of the
services (`world_after`); what the routes alone remember is the form of a
password sign-in in flight, to which they redirect.
-/

namespace Broker

open Py Runs

/-- A deployment: what all its requests share. -/
structure Site where
  unicode : Unicode
  /-- The IDNA form of a host. -/
  rawHost : List Char → Option (List Char)
  config : RouteConfig
  fieldCipher : FieldCipher

/-- The authorization service of a deployment. -/
def Site.service (site : Site) : AuthService := ⟨site.config.toAppConfig, site.fieldCipher⟩

/-! ## Requests -/

/-- What an authorisation request meets with: its peer, the addresses of hosts,
    the random identifier and the clock of an SSO initiation, and what
    ResourceSpace answers to the password, or the error its failure maps to. -/
structure SignInContext where
  request : HttpRequest
  getaddrinfo : List Char → Option (List (List Char))
  correlationId : String
  startedAt : ℤ
  upstream : Except ResourceSpaceError Session

/-- Requests. Those of several parts are told apart by the number `call`. -/
inductive HttpAction
  /-- `POST /oauth/authorise`; of a password sign-in, until it is authenticated. -/
  | authorise (call : ℕ) (rate : RateLimitResult) (form : Form) (context : SignInContext)
  /-- The rest of that request. -/
  | authorised (call : ℕ)
  /-- `POST /oauth/sso/callback`, until it calls ResourceSpace. -/
  | ssoCallback (call : ℕ) (rate : RateLimitResult) (form : CallbackForm)
  /-- The rest of that request. -/
  | ssoAnswered (call : ℕ) (authenticatedAt : String) (result : Except PyError Json)
  /-- `POST /oauth/token`; of an exchange, until its second transaction. -/
  | token (call : ℕ) (rate : RateLimitResult) (form : Form)
  /-- The rest of that request. -/
  | tokenPair (call : ℕ)
  /-- `POST /oauth/revoke`. -/
  | revoke (form : Form)
  /-- `POST /webhooks/canva/user-uninstall`, with a verified body or not. -/
  | userUninstall (verified : Bool) (body : Option Json)
  /-- A request with a bearer token, until it has read it. -/
  | readAccessToken (call : ℕ) (token : String)
  /-- A grant created within that request. -/
  | createGrant (call : ℕ) (request : GrantRequest)
  /-- `GET /public/assets/{grant_id}`, and of the like. -/
  | serveGrant (grantId expiresAt signature : Option String)
  /-- The pruning in the background. -/
  | prune
  /-- The request ends, or is lost. -/
  | finish (call : ℕ)

/-- A request with what the clock and the random generator supply to it. -/
structure HttpEvent where
  clock : Clock
  rand : Rand
  action : HttpAction

section Translation

variable (site : Site)

/-- The outcome of the checks of an authorisation request: what it is answered
    at once, or what it goes on with. -/
inductive Authorisation
  | answered (response : Except PyError HttpResponse)
  | initiation (request : SsoRequest)
  | signIn (call : AuthorizeCall) (session : Session)

/-- `oauth_authorize_post` up to a transaction or to an upstream answer. -/
def authorise (rate : RateLimitResult) (form : Form) (context : SignInContext) : Authorisation :=
  match oauthAuthorizePost site.config rate form with
  | .inl response => .answered (.ok response)
  | .inr call =>
    if call.isSso site.unicode then
      match beginSsoAuthorize site.unicode site.rawHost context.getaddrinfo site.config
        context.request context.correlationId call with
      | .error error => .answered (.error error)
      | .ok (.inl response) => .answered (.ok response)
      | .ok (.inr request) => .initiation request
    else
      match context.upstream with
      | .error error => .answered (.ok (errorPage error))
      | .ok session => .signIn call session

/-- The string of a JSON value. -/
def jsonStr : Json → Option String
  | .str s => some s
  | _ => none

/-- What `canva_user_uninstall` does with a verified body: ids that are not
    strings are those of no user, and a revocation for them only prunes. -/
def uninstallAction (body : Option Json) : Option Action :=
  let userId := body.bind (·.get? "user_id")
  let tenantId := body.bind (·.get? "tenant_id")
  if userId.any (·.truthy) && tenantId.any (·.truthy) then
    match userId.bind jsonStr, tenantId.bind jsonStr with
    | some userId, some tenantId => some (.revokeTokensForUser userId tenantId)
    | _, _ => some .prune
  else none

/-- What a request has the services do. -/
def HttpAction.serviceAction : HttpAction → Option Action
  | authorise call rate form context =>
    match Broker.authorise site rate form context with
    | .answered _ => none
    | .initiation request => some (.beginSsoAuthorization context.startedAt request)
    | .signIn c session => some (.authenticate call c.request session)
  | authorised call => some (.beginAuthorization call)
  | ssoCallback call rate form => some (.receiveCallback call rate form)
  | ssoAnswered call authenticatedAt result => some (.answerCallback call authenticatedAt result)
  | token call rate form =>
    if !rate.allowed then none
    else if form.field "grant_type" = "authorization_code" then
      some (.exchangeAuthorizationCode call (form.field "client_id") (form.field "redirect_uri")
        (form.field "code") (form.get? "code_verifier"))
    else if form.field "grant_type" = "refresh_token" then
      some (.refreshAccessToken (form.field "client_id") (form.field "refresh_token"))
    else none
  | tokenPair call => some (.createTokenPair call)
  | revoke form => some (.revokeToken (form.field "token"))
  | userUninstall verified body => if verified then uninstallAction body else none
  | readAccessToken call accessToken => some (.readAccessToken call accessToken)
  | createGrant call request => some (.createGrant call request)
  | serveGrant grantId expiresAt signature => some (.verifyGrant grantId expiresAt signature)
  | prune => some .prune
  | finish call => some (.finish call)

/-- The event of the services that a request is. -/
def HttpEvent.event (e : HttpEvent) : Option Event :=
  (e.action.serviceAction site).map fun action => ⟨site.service, e.clock, e.rand, action⟩

end Translation

/-! ## Responses -/

/-- The services, and the password sign-ins in flight. -/
structure RouteState where
  world : World
  authorizing : Dict ℕ AuthorizeCall

section Machine

variable (site : Site)

/-- The response to a request, given what the services answer, if they are asked. -/
def HttpAction.respond (authorizing : Dict ℕ AuthorizeCall) (answer : Except PyError Answer) :
    HttpAction → Except PyError HttpResponse
  | authorise _ rate form context =>
    match Broker.authorise site rate form context with
    | .answered response => response
    | .initiation request =>
      match answer with
      | .ok (.handoffState handoffState) => handoffResponse site.unicode site.config request (.ok handoffState)
      | .ok _ => .ok .pending
      | .error error => handoffResponse site.unicode site.config request (.error error)
    | .signIn _ _ => .ok .pending
  | authorised call =>
    match authorizing.get? call, answer with
    | some c, .ok (.code code) => .ok (completionResponse site.unicode c code)
    | _, .ok _ => .ok .pending
    | _, .error error => .ok (errorPage (mapError error))
  | ssoCallback _ _ _ | ssoAnswered _ _ _ =>
    answer.map fun
      | .callback response => .callback response
      | _ => .pending
  | token _ rate form =>
    if !rate.allowed then
      .ok (.error 429 "RATE_LIMITED" "Too many requests." (some (max 1 (rate.retryAfterMs / 1000))))
    else if ["authorization_code", "refresh_token"].contains (form.field "grant_type") then
      answer.map fun
        | .tokens result => .tokens result
        | _ => .pending
    else .ok (.tokens (.error ⟨"unsupported_grant_type", "Unsupported grant type."⟩))
  | tokenPair _ =>
    answer.map fun
      | .tokens result => .tokens result
      | _ => .pending
  | _ => answer.map fun _ => .other

/-- The sign-ins in flight after a request. -/
def HttpAction.remember (authorizing : Dict ℕ AuthorizeCall) : HttpAction → Dict ℕ AuthorizeCall
  | authorise call rate form context =>
    match Broker.authorise site rate form context with
    | .signIn c _ => authorizing.set call c
    | _ => authorizing
  | _ => authorizing

/-- The broker behind its routes, as a machine. -/
def routes : Machine RouteState HttpEvent (Except PyError HttpResponse) where
  init := ⟨World.initial, ∅⟩
  step s e :=
    let authorizing := e.action.remember site s.authorizing
    match e.event site with
    | none => (e.action.respond site s.authorizing (.ok .none), ⟨s.world, authorizing⟩)
    | some event =>
      let (answer, world) := s.world.step site.unicode event
      (e.action.respond site s.authorizing answer, ⟨world, authorizing⟩)

/-- The run of the services that a run of the routes is. -/
def serviceRun (es : List HttpEvent) : List Event := es.filterMap (·.event site)

variable {site}

theorem serviceRun_append (es fs : List HttpEvent) :
    serviceRun site (es ++ fs) = serviceRun site es ++ serviceRun site fs :=
  List.filterMap_append

theorem next_world (s : RouteState) (e : HttpEvent) :
    ((routes site).next s e).world =
      (e.event site).elim s.world ((broker site.unicode).next s.world) := by
  simp only [Machine.next, routes]
  cases e.event site with
  | none => rfl
  | some event => rfl

theorem next_authorizing (s : RouteState) (e : HttpEvent) :
    ((routes site).next s e).authorizing = e.action.remember site s.authorizing := by
  simp only [Machine.next, routes]
  cases e.event site with
  | none => rfl
  | some event => rfl

theorem out_eq (s : RouteState) (e : HttpEvent) :
    (routes site).out s e = e.action.respond site s.authorizing
      ((e.event site).elim (.ok .none) ((broker site.unicode).out s.world)) := by
  simp only [Machine.out, routes]
  cases e.event site with
  | none => rfl
  | some event => rfl

/-- The services are where their run has taken them. -/
theorem world_after (es : List HttpEvent) :
    ((routes site).after es).world = (broker site.unicode).after (serviceRun site es) := by
  induction es using List.reverseRecOn with
  | nil => rfl
  | append_singleton es e ih =>
    rw [Machine.after_snoc, next_world, ih, serviceRun_append]
    cases hevent : e.event site with
    | none => simp [serviceRun, hevent]
    | some event =>
      have hsingle : serviceRun site [e] = [event] := by simp [serviceRun, hevent]
      rw [hsingle, Machine.after_snoc]
      rfl

end Machine

end Broker
