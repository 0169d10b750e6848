import Broker.Challenges
import Broker.Handoffs
import Broker.Routes

/-!
# Redirect safety

Whatever the routes are sent, what they store for a client is what its
configuration allows (`Allowed`): the authorisation route checks the OAuth
parameters before either sign-in persists them, and no later operation changes
them. So the URLs that carry a code lead where the configuration says
(`redirects_allowed`).
-/

namespace Broker

open Py Runs

variable {site : Site}

/-! ## Checked parameters -/

/-- The client is configured and the redirect URI literally one of its own; the
    challenge is an S256 one, of 32 bytes. -/
structure Allowed (config : RouteConfig) (clientId redirectUri : String)
    (codeChallenge : Option String) (codeChallengeMethod : String) : Prop where
  redirect : ∃ client, config.oauth.clients.get? clientId = some client ∧
    redirectUri ∈ client.redirectUriAllowlist
  method : codeChallengeMethod = "S256"
  challenge : ∃ digest : List UInt8, digest.length = 32 ∧
    codeChallenge = some (Base64.encodeUnpadded digest)

/-- A request whose parameters are allowed. -/
def AuthorizationRequest.Allowed (config : RouteConfig) (request : AuthorizationRequest) : Prop :=
  Broker.Allowed config request.clientId request.redirectUri request.codeChallenge
    (AuthService.methodOrS256 request.codeChallengeMethod)

/-- Outside development and test, only an URI of the allowlist is allowed. -/
theorem mem_of_isRedirectUriAllowed {config : RouteConfig} {clientId redirectUri : String}
    (production : devLikeEnvironments.contains config.environment = false)
    (h : isRedirectUriAllowed config clientId redirectUri = true) :
    ∃ client, config.oauth.clients.get? clientId = some client ∧
      redirectUri ∈ client.redirectUriAllowlist := by
  rw [isRedirectUriAllowed] at h
  split at h
  · cases h
  · rename_i client hclient
    refine ⟨client, hclient, ?_⟩
    split_ifs at h
    · rw [manualTestModeEnabled, production] at h
      cases h
    · exact List.contains_iff_mem.1 h

/-- The authorisation route goes on with allowed parameters only. -/
theorem allowed_of_oauthAuthorizePost {config : RouteConfig} {rate : RateLimitResult} {form : Form}
    {call : AuthorizeCall} (production : devLikeEnvironments.contains config.environment = false)
    (h : oauthAuthorizePost config rate form = .inr call) : call.request.Allowed config := by
  rw [oauthAuthorizePost] at h
  dsimp only at h
  generalize (if shouldUseManualTestMode config form = true then _ else form) = body at h
  generalize (if body.field "code_challenge_method" = "" then _ else _) = method at h
  generalize (if body.field "scope" = "" then _ else _) = scope at h
  split_ifs at h with _ _ _ hredirect hmethod _ hchallenge
  cases h
  rw [Bool.not_eq_true', Bool.not_eq_false] at hredirect
  rw [not_or, Bool.not_eq_true', Bool.not_eq_false] at hchallenge
  obtain ⟨digest, hlength, hdigest⟩ := digest_of_isValid hchallenge.2
  rw [not_not] at hmethod
  subst hmethod
  exact ⟨mem_of_isRedirectUriAllowed production hredirect, rfl, digest, hlength, congrArg some hdigest⟩

/-! ## What is stored -/

/-- The sign-ins that an action begins are for allowed parameters; it is none that
    the routes do not offer. -/
def Action.Checked (config : RouteConfig) : Action → Prop
  | authenticate _ request _ => request.Allowed config
  | beginSsoAuthorization _ request => request.toAuthorizationRequest.Allowed config
  | beginAuthorizationFromSession _ _ => False
  | completeSsoAuthorization _ _ => False
  | _ => True

section Store

variable {unicode : Unicode} {config : RouteConfig} {es : List Event}
  (checked : ∀ e ∈ es, e.action.Checked config)

include checked

theorem pending_allowed {k : String} {r : PendingSsoState}
    (h : ((broker unicode).after es).store.pendingSsoStates.get? k = some r) :
    Allowed config r.clientId r.redirectUri r.codeChallenge r.codeChallengeMethod := by
  obtain ⟨pre, e, post, rfl, startedAt, request, hinitiates, hrecord⟩ := pending_origin h
  have hrequest := checked e (by simp)
  rw [hinitiates.action] at hrequest
  have hclient := congrArg PendingSsoState.clientId hrecord
  have hredirect := congrArg PendingSsoState.redirectUri hrecord
  have hchallenge := congrArg PendingSsoState.codeChallenge hrecord
  have hmethod := congrArg PendingSsoState.codeChallengeMethod hrecord
  dsimp only [AuthService.pendingSsoState] at hclient hredirect hchallenge hmethod
  rw [hclient, hredirect, hchallenge, hmethod]
  exact hrequest

theorem code_allowed {k : String} {r : AuthorizationCode}
    (h : ((broker unicode).after es).store.authorizationCodes.get? k = some r) :
    Allowed config r.clientId r.redirectUri r.codeChallenge r.codeChallengeMethod := by
  obtain ⟨pre, e, post, rfl, service, t, request, session, hissues, -, rfl⟩ := code_origin h
  have hpre : ∀ f ∈ pre, f.action.Checked config := fun f hf => checked f (by simp [hf])
  change request.Allowed config
  cases hissues with
  | beginAuthorization _ inFlight =>
    obtain ⟨b, f, rest, rfl, request, session, action, rfl⟩ := sign_in_origin inFlight
    have hrequest := hpre f (by simp)
    rw [action] at hrequest
    exact hrequest
  | beginAuthorizationFromSession action =>
    have hnever := checked e (by simp)
    rw [action] at hnever
    exact hnever.elim
  | completed completes =>
    obtain ⟨hredirect, hmethod, hchallenge⟩ := pending_allowed hpre completes.stored
    refine ⟨hredirect, ?_, hchallenge⟩
    dsimp only [PendingSsoState.request]
    rw [hmethod]
    rfl

end Store

/-! ## Requests -/

/-- The initiation of a hosted sign-in is for the parameters that were checked. -/
theorem request_of_beginSsoAuthorize {unicode : Unicode} {rawHost : List Char → Option (List Char)}
    {getaddrinfo : List Char → Option (List (List Char))} {config : RouteConfig}
    {peer : HttpRequest} {correlationId : String} {call : AuthorizeCall} {request : SsoRequest}
    (h : beginSsoAuthorize unicode rawHost getaddrinfo config peer correlationId call =
      .ok (.inr request)) : request.toAuthorizationRequest = call.request := by
  rw [beginSsoAuthorize] at h
  split_ifs at h
  · cases h
  dsimp only at h
  split at h
  · cases h
  · split_ifs at h
    · cases h
    · split at h
      · cases h
      · split_ifs at h
        · cases h
        · cases h
          rfl

/-- Both sign-ins are for the parameters that were checked. -/
theorem authorise_checks
    (production : devLikeEnvironments.contains site.config.environment = false)
    (rate : RateLimitResult) (form : Form) (context : SignInContext) :
    (∀ request, authorise site rate form context = .initiation request →
      request.toAuthorizationRequest.Allowed site.config) ∧
    ∀ call session, authorise site rate form context = .signIn call session →
      call.request.Allowed site.config := by
  rw [authorise]
  cases hposted : oauthAuthorizePost site.config rate form with
  | inl response => exact ⟨fun _ h => (nomatch h), fun _ _ h => (nomatch h)⟩
  | inr call =>
    have hallowed := allowed_of_oauthAuthorizePost production hposted
    dsimp only
    split_ifs
    · refine ⟨fun request h => ?_, fun c session h => ?_⟩
      · split at h
        · cases h
        · cases h
        · rename_i hbegun
          cases h
          rw [request_of_beginSsoAuthorize hbegun]
          exact hallowed
      · split at h <;> cases h
    · cases context.upstream with
      | error error => exact ⟨fun _ h => (nomatch h), fun _ _ h => (nomatch h)⟩
      | ok session =>
        refine ⟨fun _ h => (nomatch h), fun c session h => ?_⟩
        cases h
        exact hallowed

/-- What a request has the services do is checked. -/
theorem checked_of_serviceAction {action : HttpAction} {a : Action}
    (production : devLikeEnvironments.contains site.config.environment = false)
    (h : action.serviceAction site = some a) : a.Checked site.config := by
  cases action with
  | authorise call rate form context =>
    obtain ⟨hinitiation, hsignIn⟩ := authorise_checks production rate form context
    dsimp only [HttpAction.serviceAction] at h
    split at h
    · cases h
    · rename_i request hrequest
      cases h
      exact hinitiation request hrequest
    · rename_i c session hcall
      cases h
      exact hsignIn c session hcall
  | token call rate form =>
    dsimp only [HttpAction.serviceAction] at h
    split_ifs at h
    · cases h
      trivial
    · cases h
      trivial
  | userUninstall verified body =>
    dsimp only [HttpAction.serviceAction, uninstallAction] at h
    split_ifs at h
    split at h
    · cases h
      trivial
    · cases h
      trivial
  -- No other action has a redirect URI.
  | _ =>
    cases h
    trivial

theorem checked_of_mem {es : List HttpEvent} {f : Event}
    (production : devLikeEnvironments.contains site.config.environment = false)
    (h : f ∈ serviceRun site es) : f.action.Checked site.config := by
  obtain ⟨e, -, he⟩ := List.mem_filterMap.1 h
  obtain ⟨a, ha, rfl⟩ := Option.map_eq_some_iff.1 he
  exact checked_of_serviceAction production ha

/-! ## Password sign-ins in flight -/

/-- The event that begins a password sign-in. -/
theorem serviceAction_authenticate {action : HttpAction} {call : ℕ} {request : AuthorizationRequest}
    {session : Session}
    (h : action.serviceAction site = some (.authenticate call request session))
    (authorizing : Dict ℕ AuthorizeCall) :
    ∃ c, action.remember site authorizing = authorizing.set call c ∧ c.request = request := by
  cases action with
  | authorise call rate form context =>
    dsimp only [HttpAction.serviceAction] at h
    dsimp only [HttpAction.remember]
    cases houtcome : authorise site rate form context with
    | answered response => simp only [houtcome, reduceCtorEq] at h
    | initiation request => simp only [houtcome, Option.some.injEq, reduceCtorEq] at h
    | signIn c session =>
      simp only [houtcome, Option.some.injEq, Action.authenticate.injEq] at h
      obtain ⟨rfl, rfl, rfl⟩ := h
      exact ⟨c, rfl, rfl⟩
  | token call rate form =>
    dsimp only [HttpAction.serviceAction] at h
    split_ifs at h <;> cases h
  | userUninstall verified body =>
    dsimp only [HttpAction.serviceAction, uninstallAction] at h
    split_ifs at h
    split at h <;> cases h
  | _ => cases h

/-- A request that begins no password sign-in is not remembered. -/
theorem remember_eq {action : HttpAction}
    (h : ∀ call request session, action.serviceAction site ≠ some (.authenticate call request session))
    (authorizing : Dict ℕ AuthorizeCall) : action.remember site authorizing = authorizing := by
  cases action with
  | authorise call rate form context =>
    dsimp only [HttpAction.serviceAction] at h
    dsimp only [HttpAction.remember]
    cases houtcome : authorise site rate form context with
    | signIn c session =>
      rw [houtcome] at h
      exact absurd rfl (h call c.request session)
    | _ => rfl
  | _ => rfl

/-- The routes remember a password sign-in in flight as the services have it. -/
theorem authorizing_of_signIn {es : List HttpEvent} {call : ℕ} {x : SignIn}
    (h : ((routes site).after es).world.signIns.get? call = some x) :
    ∃ c, ((routes site).after es).authorizing.get? call = some c ∧ c.request = x.request := by
  induction es using List.reverseRecOn generalizing x with
  | nil => cases h
  | append_singleton es e ih =>
    rw [Machine.after_snoc] at h ⊢
    generalize (routes site).after es = s at ih h ⊢
    rw [next_world, HttpEvent.event] at h
    rw [next_authorizing]
    cases haction : e.action.serviceAction site with
    | none =>
      rw [haction] at h
      rw [remember_eq fun _ _ _ => by simp [haction]]
      exact ih h
    | some a =>
      rw [haction, Option.map_some, Option.elim_some] at h
      -- A sign-in is put in flight together with the form it was asked for.
      by_cases hauthenticate : ∃ c request session, a = .authenticate c request session
      · obtain ⟨c, request, session, rfl⟩ := hauthenticate
        obtain ⟨asked, hremember, hrequest⟩ := serviceAction_authenticate haction s.authorizing
        rw [hremember, Dict.get?_set]
        simp only [Machine.next, broker, World.step, Dict.get?_set] at h
        split_ifs at h ⊢
        · cases h
          exact ⟨asked, rfl, hrequest⟩
        · exact ih h
      · rw [remember_eq fun c request session => by
          rw [haction]
          exact fun h => hauthenticate ⟨c, request, session, Option.some.inj h⟩]
        have hstep := sign_in_step site.unicode s.world ⟨site.service, e.clock, e.rand, a⟩ call
        rw [h] at hstep
        generalize hbefore : s.world.signIns.get? call = o at hstep
        cases hstep with
        | same => exact ih hbefore
        | started action => exact absurd ⟨_, _, _, action⟩ hauthenticate

/-! ## Redirects -/

/-- The URL of a response that carries an authorization code. -/
def HttpResponse.codeUrl? : HttpResponse → Option String
  | completion url => some url
  | callback (.sso _ _ _ url) => url
  | _ => none

/-- The URL is built from a redirect URI that is allowed, with a code. -/
structure BuiltFrom (site : Site) (clientId redirectUri code url : String) : Prop where
  redirect : ∃ client, site.config.oauth.clients.get? clientId = some client ∧
    redirectUri ∈ client.redirectUriAllowlist
  built : ∃ state, appendQuery site.unicode redirectUri [("code", code), ("state", state)] = .ok url

theorem completionResponse_url {unicode : Unicode} {c : AuthorizeCall} {code url : String}
    (h : (completionResponse unicode c code).codeUrl? = some url) :
    appendQuery unicode c.request.redirectUri [("code", code), ("state", c.state)] = .ok url := by
  unfold completionResponse at h
  dsimp only at h
  split at h
  · rename_i happended
    cases h
    exact happended
  · cases h

/-- What a callback is answered at once has no URL. -/
theorem receiveCallback_url {unicode : Unicode} {config : AppConfig} {rate : RateLimitResult}
    {form : CallbackForm} {inspected : SsoResult} {response : CallbackResponse}
    (h : receiveCallback unicode config rate form inspected = .ok (.inl response)) :
    (HttpResponse.callback response).codeUrl? = none := by
  unfold receiveCallback Callback.receive at h
  cases inspected with
  | active record =>
    dsimp only at h
    cases hhost : hostOf unicode record.tenant.baseUrl with
    | none =>
      rw [hhost] at h
      split_ifs at h <;> cases h <;> rfl
    | some host =>
      rw [hhost] at h
      split_ifs at h <;> cases h <;> rfl
  | _ =>
    dsimp only at h
    split_ifs at h <;>
      · cases h
        rfl

/-- A failed validation is answered without a URL. -/
theorem validationFailure_url {error : PyError} {response : CallbackResponse}
    (h : validationFailure error = .ok response) :
    (HttpResponse.callback response).codeUrl? = none := by
  cases error with
  | resourceSpaceError e =>
    cases h
    rfl
  | _ => cases h

/-- A completion that is answered with a URL has signed in. -/
theorem answerCallback_url {unicode : Unicode} {callback : Callback} {result : SsoResult}
    {response : CallbackResponse} {url : String}
    (h : answerCallback unicode callback result = .ok response)
    (hurl : (HttpResponse.callback response).codeUrl? = some url) : response = .signedIn url := by
  cases result with
  | valid code record =>
    dsimp only [answerCallback] at h
    cases happended : appendQuery unicode callback.record.redirectUri
        [("code", code), ("state", callback.record.canvaState)] with
    | error error =>
      rw [happended] at h
      cases h
    | ok url' =>
      rw [happended] at h
      cases h
      cases hurl
      rfl
  | _ =>
    cases h
    cases hurl

/-- A callback that is answered with a URL has signed in. -/
theorem signedIn_of_url {unicode : Unicode} {w : World} {e : Event} {call : ℕ}
    {authenticatedAt url : String} {result : Except PyError Json} {response : CallbackResponse}
    (action : e.action = .answerCallback call authenticatedAt result)
    (h : (broker unicode).out w e = .ok (.callback response))
    (hurl : (HttpResponse.callback response).codeUrl? = some url) : response = .signedIn url := by
  change (w.step unicode e).1 = _ at h
  rw [World.step, action] at h
  dsimp only at h
  cases hc : w.callbacks.get? call with
  | none =>
    rw [hc] at h
    cases h
  | some c =>
    rw [hc] at h
    dsimp only [World.answerCallback] at h
    -- What ResourceSpace refused is answered with a page.
    cases hauth : authenticateWithSessionKey unicode c.service.config authenticatedAt
        c.callback.record.tenant c.callback.sessionKey c.callback.username result with
    | error error =>
      rw [hauth] at h
      dsimp only at h
      cases hfailure : validationFailure error with
      | error error =>
        rw [hfailure] at h
        cases h
      | ok failure =>
        rw [hfailure] at h
        cases h
        rw [validationFailure_url hfailure] at hurl
        cases hurl
    | ok session =>
      rw [hauth] at h
      dsimp only at h
      generalize (update (c.service.completeSsoAuthorizationUpdater e.now e.rand
        c.callback.handoffState session) w.store).1 = outcome at h
      -- What it accepted is answered by what the transaction made of it.
      cases outcome with
      | error error => cases h
      | ok completed =>
        rw [Except.bind] at h
        cases hanswer : answerCallback unicode c.callback completed with
        | error error =>
          rw [hanswer] at h
          cases h
        | ok answer =>
          rw [hanswer] at h
          cases h
          exact answerCallback_url hanswer hurl

/-- A refusal of the parameters carries no code. -/
theorem oauthAuthorizePost_url {config : RouteConfig} {rate : RateLimitResult} {form : Form}
    {response : HttpResponse} (h : oauthAuthorizePost config rate form = .inl response) :
    response.codeUrl? = none := by
  rw [oauthAuthorizePost] at h
  dsimp only at h
  generalize (if shouldUseManualTestMode config form = true then _ else form) = body at h
  generalize (if body.field "code_challenge_method" = "" then _ else _) = method at h
  generalize (if body.field "scope" = "" then _ else _) = scope at h
  split_ifs at h <;>
    · cases h
      rfl

/-- An initiation that is answered at once is answered with a page. -/
theorem beginSsoAuthorize_url {unicode : Unicode} {rawHost : List Char → Option (List Char)}
    {getaddrinfo : List Char → Option (List (List Char))} {config : RouteConfig}
    {peer : HttpRequest} {correlationId : String} {call : AuthorizeCall} {response : HttpResponse}
    (h : beginSsoAuthorize unicode rawHost getaddrinfo config peer correlationId call =
      .ok (.inl response)) : response.codeUrl? = none := by
  rw [beginSsoAuthorize] at h
  split_ifs at h
  · cases h
    rfl
  · dsimp only at h
    split at h
    · cases h
    · split_ifs at h
      · cases h
        rfl
      · split at h
        · cases h
          rfl
        · split_ifs at h
          · cases h
            rfl
          · cases h

/-- What an authorisation request is answered at once has no URL with a code. -/
theorem authorise_url {rate : RateLimitResult} {form : Form} {context : SignInContext}
    {response : HttpResponse} (h : authorise site rate form context = .answered (.ok response)) :
    response.codeUrl? = none := by
  rw [authorise] at h
  split at h
  · rename_i posted hposted
    cases h
    exact oauthAuthorizePost_url hposted
  · split_ifs at h
    · split at h
      · cases h
      · rename_i begun hbegun
        cases h
        exact beginSsoAuthorize_url hbegun
      · cases h
    · split at h
      · cases h
        rfl
      · cases h

theorem handoffResponse_url {unicode : Unicode} {config : RouteConfig} {request : SsoRequest}
    {outcome : Except PyError String} {response : HttpResponse}
    (h : handoffResponse unicode config request outcome = .ok response) : response.codeUrl? = none := by
  unfold handoffResponse at h
  split at h
  · cases h
    rfl
  · cases h
  · cases hhost : hostOf unicode request.tenant.baseUrl with
    | none =>
      rw [hhost] at h
      cases h
    | some host =>
      rw [hhost] at h
      cases h
      rfl

/-- The code that ends a password sign-in is stored, for its request. -/
theorem begin_answer {unicode : Unicode} {w : World} {e : Event} {call : ℕ} {code : String}
    (action : e.action = .beginAuthorization call)
    (h : (broker unicode).out w e = .ok (.code code)) :
    ∃ x r, w.signIns.get? call = some x ∧
      ((broker unicode).next w e).store.authorizationCodes.get? code = some r ∧
      r.clientId = x.request.clientId ∧ r.redirectUri = x.request.redirectUri := by
  simp only [Machine.out, Machine.next, broker, World.step, action] at h ⊢
  cases hx : w.signIns.get? call with
  | none =>
    rw [hx] at h
    cases h
  | some x =>
    rw [hx] at h
    cases h
    exact ⟨x, _, rfl, Dict.get?_set_self _ _ _, rfl, rfl⟩

/-- A URL with a code answers a password sign-in or a callback. -/
theorem respond_url {action : HttpAction} {authorizing : Dict ℕ AuthorizeCall}
    {answer : Except PyError Answer} {response : HttpResponse} {url : String}
    (h : action.respond site authorizing answer = .ok response)
    (hurl : response.codeUrl? = some url) :
    (∃ call c code, action = .authorised call ∧ authorizing.get? call = some c ∧
      answer = .ok (.code code) ∧ (completionResponse site.unicode c code).codeUrl? = some url) ∨
    ∃ r, answer = .ok (.callback r) ∧ (HttpResponse.callback r).codeUrl? = some url ∧
      ((∃ call rate form, action = .ssoCallback call rate form) ∨
        ∃ call authenticatedAt result, action = .ssoAnswered call authenticatedAt result) := by
  -- Only a finished authorisation and the callback answer with a redirect that carries
  -- a code: pages, errors and the hand-off to ResourceSpace carry none.
  cases action with
  | authorise call rate form context =>
    dsimp only [HttpAction.respond] at h
    split at h
    · rename_i houtcome
      rw [h] at houtcome
      rw [authorise_url houtcome] at hurl
      cases hurl
    · split at h
      · rw [handoffResponse_url h] at hurl
        cases hurl
      · cases h
        cases hurl
      · rw [handoffResponse_url h] at hurl
        cases hurl
    · cases h
      cases hurl
  | authorised call =>
    dsimp only [HttpAction.respond] at h
    split at h
    · rename_i c code hc
      cases h
      exact .inl ⟨call, c, code, rfl, hc, rfl, hurl⟩
    · cases h
      cases hurl
    · cases h
      cases hurl
  | ssoCallback call rate form =>
    dsimp only [HttpAction.respond] at h
    cases answer with
    | error error => cases h
    | ok a =>
      cases a with
      | callback r =>
        cases h
        exact .inr ⟨r, rfl, hurl, .inl ⟨call, rate, form, rfl⟩⟩
      | _ =>
        cases h
        cases hurl
  | ssoAnswered call authenticatedAt result =>
    dsimp only [HttpAction.respond] at h
    cases answer with
    | error error => cases h
    | ok a =>
      cases a with
      | callback r =>
        cases h
        exact .inr ⟨r, rfl, hurl, .inr ⟨call, authenticatedAt, result, rfl⟩⟩
      | _ =>
        cases h
        cases hurl
  | token call rate form =>
    dsimp only [HttpAction.respond] at h
    split_ifs at h
    · cases h
      cases hurl
    · cases answer with
      | error error => cases h
      | ok a =>
        cases a <;>
          · cases h
            cases hurl
    · cases h
      cases hurl
  | tokenPair call =>
    dsimp only [HttpAction.respond] at h
    cases answer with
    | error error => cases h
    | ok a =>
      cases a <;>
        · cases h
          cases hurl
  | _ =>
    dsimp only [HttpAction.respond] at h
    cases answer with
    | error error => cases h
    | ok a =>
      cases h
      cases hurl

/-- The code that ends a password sign-in is stored for the redirect URI of its
    form, which was checked. -/
theorem authorised_allowed {pre : List HttpEvent} {e : HttpEvent} {call : ℕ} {c : AuthorizeCall}
    {code url : String} (production : devLikeEnvironments.contains site.config.environment = false)
    (action : e.action = .authorised call)
    (remembered : ((routes site).after pre).authorizing.get? call = some c)
    (answer : (e.event site).elim (.ok .none)
      ((broker site.unicode).out ((routes site).after pre).world) = .ok (.code code))
    (response : (completionResponse site.unicode c code).codeUrl? = some url) :
    ∃ r, ((routes site).after (pre ++ [e])).world.store.authorizationCodes.get? code = some r ∧
      BuiltFrom site r.clientId r.redirectUri code url := by
  have hevent : e.event site = some ⟨site.service, e.clock, e.rand, .beginAuthorization call⟩ := by
    rw [HttpEvent.event, action]
    rfl
  rw [hevent, Option.elim_some] at answer
  obtain ⟨x, r, hx, hstored, hclient, hredirect⟩ := begin_answer rfl answer
  have hafter : ((routes site).after (pre ++ [e])).world.store.authorizationCodes.get? code =
      some r := by
    rw [Machine.after_snoc, next_world, hevent]
    exact hstored
  obtain ⟨c', hc', hrequest⟩ := authorizing_of_signIn hx
  obtain rfl := Option.some.inj (remembered.symm.trans hc')
  have hallowed := code_allowed (fun f hf => checked_of_mem production hf) (world_after _ ▸ hafter)
  refine ⟨r, hafter, hallowed.redirect, c.state, ?_⟩
  rw [hredirect, ← hrequest]
  exact completionResponse_url response

/-- The code that ends a callback is minted for the redirect URI of the initiation,
    which was checked then. -/
theorem answered_allowed {unicode : Unicode} {config : RouteConfig} {es : List Event} {e : Event}
    {call : ℕ} {authenticatedAt url : String} {result : Except PyError Json}
    (checked : ∀ f ∈ es, f.action.Checked config)
    (action : e.action = .answerCallback call authenticatedAt result)
    (answer : (broker unicode).out ((broker unicode).after es) e = .ok (.callback (.signedIn url))) :
    ∃ record : PendingSsoState, Allowed config record.clientId record.redirectUri record.codeChallenge
        record.codeChallengeMethod ∧
      appendQuery unicode record.redirectUri
        [("code", randomToken "code" (e.rand.token 0)), ("state", record.canvaState)] = .ok url ∧
      (Fresh es → ∃ r, ((broker unicode).next ((broker unicode).after es) e).store.authorizationCodes.get?
          (randomToken "code" (e.rand.token 0)) = some r ∧
        r.clientId = record.clientId ∧ r.redirectUri = record.redirectUri) := by
  obtain ⟨c, session, record, hanswers, hcompletes⟩ := callback_signedIn action answer
  obtain ⟨_, _, _, -, hc, -⟩ := hanswers.inFlight
  obtain ⟨p, g, q, rfl, -, hinspected, -⟩ := callback_origin hc
  have hallowed := pending_allowed (fun f hf => checked f (List.mem_append_left _ hf)) hinspected
  have hbuilt := (hanswers.out hcompletes).symm.trans answer
  refine ⟨c.callback.record, hallowed, ?_, fun hfresh => ?_⟩
  · cases happended : appendQuery unicode c.callback.record.redirectUri
        [("code", randomToken "code" (e.rand.token 0)), ("state", c.callback.record.canvaState)] with
    | error error =>
      rw [happended] at hbuilt
      cases hbuilt
    | ok url' =>
      rw [happended] at hbuilt
      cases hbuilt
      rfl
  · obtain ⟨r, hstored, rfl⟩ := completes_code hcompletes
    have hrecord := hanswers.record hfresh hcompletes
    exact ⟨_, hstored, (congrArg PendingSsoState.clientId hrecord).symm,
      (congrArg PendingSsoState.redirectUri hrecord).symm⟩

/-- A URL with a code that the routes answer to a request is built from an allowed
    redirect URI; if no token is drawn twice, from that of the code's record. -/
theorem url_allowed {pre : List HttpEvent} {e : HttpEvent} {response : HttpResponse} {url : String}
    (production : devLikeEnvironments.contains site.config.environment = false)
    (h : (routes site).out ((routes site).after pre) e = .ok response)
    (hurl : response.codeUrl? = some url) :
    ∃ clientId redirectUri code, BuiltFrom site clientId redirectUri code url ∧
      (Fresh (serviceRun site pre) → ∃ r,
        ((routes site).after (pre ++ [e])).world.store.authorizationCodes.get? code = some r ∧
        r.clientId = clientId ∧ r.redirectUri = redirectUri) := by
  rw [out_eq] at h
  rcases respond_url h hurl with ⟨call, c, code, haction, hc, hanswer, hcompletion⟩ |
    ⟨r, hanswer, hurl, ⟨call, rate, form, haction⟩ | ⟨call, authenticatedAt, result, haction⟩⟩
  -- A password sign-in that has been authorised.
  · obtain ⟨r, hstored, hbuilt⟩ := authorised_allowed production haction hc hanswer hcompletion
    exact ⟨r.clientId, r.redirectUri, code, hbuilt, fun _ => ⟨r, hstored, rfl, rfl⟩⟩
  -- A callback refused at once: it redirects nowhere.
  · have hevent : e.event site =
        some ⟨site.service, e.clock, e.rand, .receiveCallback call rate form⟩ := by
      rw [HttpEvent.event, haction]
      rfl
    rw [hevent, Option.elim_some] at hanswer
    simp only [Machine.out, broker, World.step] at hanswer
    split at hanswer
    · cases hanswer
    · rename_i hreceived
      cases hanswer
      rw [receiveCallback_url hreceived] at hurl
      cases hurl
    · cases hanswer
  · have hevent : e.event site =
        some ⟨site.service, e.clock, e.rand, .answerCallback call authenticatedAt result⟩ := by
      rw [HttpEvent.event, haction]
      rfl
    rw [hevent, Option.elim_some, world_after] at hanswer
    -- A callback answered: the record it completed had its redirect URI checked.
    obtain rfl := signedIn_of_url rfl hanswer hurl
    obtain ⟨record, hallowed, hbuilt, hstored⟩ :=
      answered_allowed (fun f hf => checked_of_mem production hf) rfl hanswer
    refine ⟨record.clientId, record.redirectUri, _,
      ⟨hallowed.redirect, record.canvaState, hbuilt⟩, fun hfresh => ?_⟩
    rw [Machine.after_snoc, next_world, hevent, Option.elim_some, world_after]
    exact hstored hfresh

/-- Whatever the routes are sent, outside development and test: every stored code
    and handoff state is for a configured client, one of its own redirect URIs and
    an S256 challenge, and every URL that carries a code is built from such a
    redirect URI, that of the code's record if no token is drawn twice. -/
theorem redirects_allowed (site : Site) (es : List HttpEvent)
    (production : devLikeEnvironments.contains site.config.environment = false) :
    (∀ k r, ((routes site).after es).world.store.authorizationCodes.get? k = some r →
      Allowed site.config r.clientId r.redirectUri r.codeChallenge r.codeChallengeMethod) ∧
    (∀ k r, ((routes site).after es).world.store.pendingSsoStates.get? k = some r →
      Allowed site.config r.clientId r.redirectUri r.codeChallenge r.codeChallengeMethod) ∧
    ∀ pre e post response url, es = pre ++ e :: post →
      (routes site).out ((routes site).after pre) e = .ok response →
      response.codeUrl? = some url →
      ∃ clientId redirectUri code, BuiltFrom site clientId redirectUri code url ∧
        (Fresh (serviceRun site pre) → ∃ r,
          ((routes site).after (pre ++ [e])).world.store.authorizationCodes.get? code = some r ∧
          r.clientId = clientId ∧ r.redirectUri = redirectUri) := by
  have hchecked : ∀ f ∈ serviceRun site es, f.action.Checked site.config :=
    fun f hf => checked_of_mem production hf
  refine ⟨fun k r h => ?_, fun k r h => ?_, fun pre e post response url _ => url_allowed production⟩
  · rw [world_after] at h
    exact code_allowed hchecked h
  · rw [world_after] at h
    exact pending_allowed hchecked h

/-! ## A sample sign-in -/

namespace Sample

def deployment : Site where
  unicode := .ascii
  rawHost _ := none
  config :=
    { toAppConfig := config
      clientIpHeader := "x-real-ip"
      trustedProxyHosts := ["10.0.0.0/8"]
      clientId := "canva-client"
      ssoSystemKey := "canva" }
  fieldCipher := .null

/-- The form of the sample request. -/
def form : Form :=
  [("response_type", "code"), ("client_id", "canva-client"),
    ("redirect_uri", "https://canva.example/return"), ("state", "canva-state"),
    ("code_challenge", "iMnq5o6zALKXGivsnlom_0F5_WYda32GHkxlV7mq7hQ"),
    ("tenant_url", "https://dam.example")].foldl (fun form item => form.set item.1 item.2) ∅

/-- A password sign-in that ResourceSpace authenticates. -/
def passwordRun : List HttpEvent :=
  [⟨⟨fun _ => 1000, fun _ => by decide⟩, ⟨fun _ => "a", fun _ => 0⟩,
      .authorise 0 ⟨true, 0⟩ form ⟨⟨none, fun _ => none⟩, fun _ => none, "", 0, .ok session⟩⟩,
    ⟨⟨fun _ => 2000, fun _ => by decide⟩, ⟨fun _ => "b", fun _ => 0⟩, .authorised 0⟩]

end Sample

theorem redirects_allowed_run :
    ∃ r, ((routes Sample.deployment).after Sample.passwordRun).world.store.authorizationCodes.get? "code_b" =
        some r ∧
      Allowed Sample.deployment.config r.clientId r.redirectUri r.codeChallenge r.codeChallengeMethod := by
  have hstored : (((routes Sample.deployment).after Sample.passwordRun).world.store.authorizationCodes.get?
      "code_b").isSome = true := by decide +kernel
  obtain ⟨r, hr⟩ := Option.isSome_iff_exists.1 hstored
  exact ⟨r, hr, (redirects_allowed Sample.deployment Sample.passwordRun (by decide)).1 "code_b" r hr⟩

end Broker
