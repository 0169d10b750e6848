import Broker.ClientHost
import Broker.SsoCallback
import Broker.Tenants

/-!
# The authorisation route

The route `/oauth/authorise`, posted with the sign-in form: its checks of the
OAuth parameters (`oauthAuthorizePost`), and then either a password sign-in or
the initiation of a hosted one (`beginSsoAuthorize`).

A password sign-in ends with a redirect to the client's redirect URI, carrying
the authorization code (`completionResponse`).
-/

namespace Broker

open Py

/-- A posted form, as the routes read it: one string for each field. -/
abbrev Form := Dict String String

/-- `form.get(key) or ""`. -/
def Form.field (form : Form) (key : String) : String := (form.get? key).getD ""

/-- The answers of the routes. -/
inductive HttpResponse
  /-- The error body `json_error`. -/
  | error (statusCode : ℤ) (code message : String) (retryAfter : Option ℤ)
  /-- The sign-in page, with an error. -/
  | page (statusCode : ℤ) (errorCode : String) (errorMessage : Option String)
  /-- A redirect to a client, with an authorization code. -/
  | completion (url : String)
  /-- A redirect to the hosted sign-in, with a handoff state. -/
  | handoff (url : String)
  | callback (response : CallbackResponse)
  | tokens (result : Except OAuthError TokenResponse)
  /-- Any other answer. -/
  | other
  /-- None yet: the call is in flight. -/
  | pending
  deriving DecidableEq

/-! ## OAuth parameters -/

def manualTestState : String := "manual-fixture-auth"

def manualTestVerifier : String := "manual-test-verifier-123456789"

def maxStateLen : ℕ := 512

def maxScopeLen : ℕ := 256

def maxCodeChallengeLen : ℕ := 128

def maxTenantUrlLen : ℕ := 2048

/-- A character of `_CODE_CHALLENGE_RE`. -/
def isCodeChallengeChar (c : Char) : Bool := isLetter c || isDigit c || ['_', '-'].contains c

/-- `_is_valid_s256_code_challenge`. -/
def isValidS256CodeChallenge (challenge : String) : Bool :=
  let chars := challenge.toList
  chars.length = 43 && chars.all isCodeChallengeChar &&
    let padding := List.replicate ((4 - chars.length % 4) % 4) '='
    match Base64.decode (chars ++ padding) with
    | none => false
    | some digest => digest.length = 32 && Base64.encodeUnpadded digest = challenge

/-- `_manual_test_mode_enabled`. -/
def manualTestModeEnabled (config : RouteConfig) : Bool :=
  devLikeEnvironments.contains config.environment

/-- `_manual_authorize_defaults`. -/
def manualAuthorizeDefaults (config : RouteConfig) : List (String × String) :=
  [("client_id", config.clientId),
   ("redirect_uri", String.ofList (config.baseUrl.toList.reverse.dropWhile (· = '/')).reverse ++
     "/oauth/manual/callback"),
   ("response_type", "code"),
   ("state", manualTestState),
   ("scope", "openid dam:read"),
   ("code_challenge", sha256B64url manualTestVerifier),
   ("code_challenge_method", "S256")]

/-- `_should_use_manual_test_mode`. -/
def shouldUseManualTestMode (config : RouteConfig) (values : Form) : Bool :=
  manualTestModeEnabled config &&
    ["client_id", "redirect_uri", "response_type", "state"].all (values.field · = "")

/-- `body.setdefault(key, value)`. -/
def Form.setDefault (form : Form) (item : String × String) : Form :=
  if form.contains item.1 then form else form.set item.1 item.2

/-- `_is_redirect_uri_allowed`. -/
def isRedirectUriAllowed (config : RouteConfig) (clientId redirectUri : String) : Bool :=
  match config.oauth.clients.get? clientId with
  | none => false
  | some client =>
    if client.redirectUriAllowlist.isEmpty then manualTestModeEnabled config
    else client.redirectUriAllowlist.contains redirectUri

/-- An authorisation request past its checks. -/
structure AuthorizeCall where
  request : AuthorizationRequest
  /-- The state of the client. -/
  state : String
  body : Form

/-- `oauth_authorize_post`, up to its branch on the method of the sign-in: its
    answer, or the request to go on with. -/
def oauthAuthorizePost (config : RouteConfig) (rate : RateLimitResult) (form : Form) :
    HttpResponse ⊕ AuthorizeCall :=
  if !rate.allowed then
    .inl (.error 429 "RATE_LIMITED" "Too many requests." (some (max 1 (rate.retryAfterMs / 1000))))
  else
    let body :=
      if shouldUseManualTestMode config form then
        (manualAuthorizeDefaults config).foldl Form.setDefault form
      else form
    let clientId := body.field "client_id"
    let redirectUri := body.field "redirect_uri"
    let state := body.field "state"
    let scope := if body.field "scope" = "" then "openid dam:read" else body.field "scope"
    let codeChallengeMethod :=
      if body.field "code_challenge_method" = "" then "S256" else body.field "code_challenge_method"
    let codeChallenge := body.field "code_challenge"
    if body.field "response_type" ≠ "code" ∨ clientId = "" ∨ redirectUri = "" ∨ state = "" then
      .inl (.error 400 "INVALID_REQUEST" "Missing OAuth parameters." none)
    else if !isConfiguredClient config.toAppConfig clientId then
      .inl (.error 400 "INVALID_CLIENT" "Unknown OAuth client_id." none)
    else if !isRedirectUriAllowed config clientId redirectUri then
      .inl (.error 400 "INVALID_REDIRECT_URI"
        "redirect_uri is not in OAUTH_REDIRECT_URI_ALLOWLIST." none)
    else if codeChallengeMethod ≠ "S256" then
      .inl (.error 400 "INVALID_REQUEST"
        "Only S256 PKCE is supported (code_challenge_method must be 'S256')." none)
    else if state.length > maxStateLen ∨ scope.length > maxScopeLen ∨
        codeChallenge.length > maxCodeChallengeLen ∨
        (body.field "tenant_url").length > maxTenantUrlLen then
      .inl (.error 400 "INVALID_REQUEST" "OAuth request parameters exceed length limits." none)
    else if codeChallenge = "" ∨ !isValidS256CodeChallenge codeChallenge then
      .inl (.error 400 "INVALID_REQUEST" "A valid S256 code_challenge is required." none)
    else
      .inr
        { request := ⟨clientId, redirectUri, scope, some codeChallenge, some codeChallengeMethod⟩
          state
          body }

/-! ## Errors on the sign-in page -/

/-- `map_error`. -/
def mapError : PyError → ResourceSpaceError
  | .resourceSpaceError e => e
  | _ => ⟨"INTERNAL_ERROR", "Unexpected ResourceSpace integration failure.", 500⟩

/-- The sign-in page, with the mapped error. -/
def errorPage (error : ResourceSpaceError) : HttpResponse :=
  .page (if error.statusCode = 0 then 400 else error.statusCode) error.code (some error.message)

/-! ## Sign-ins -/

section SignIns

variable (unicode : Unicode)

/-- Whether the request is for the hosted sign-in. -/
def AuthorizeCall.isSso (call : AuthorizeCall) : Bool :=
  let method := call.body.field "auth_method"
  unicode.lower (strip (if method = "" then "password" else method).toList) = "sso".toList

/-- The answer to a password sign-in that has issued a code. -/
def completionResponse (call : AuthorizeCall) (code : String) : HttpResponse :=
  let rawTenant := call.body.field "tenant_url"
  -- The host of the tenant is logged first; a URL that does not parse then raises.
  let logged := Url.urlparse unicode
    (if "://".toList <:+: rawTenant.toList then rawTenant else "//" ++ rawTenant)
  match logged, appendQuery unicode call.request.redirectUri
    [("code", code), ("state", call.state)] with
  | some _, .ok url => .completion url
  | _, _ => errorPage (mapError .valueError)

variable (rawHost : List Char → Option (List Char))
  (getaddrinfo : List Char → Option (List (List Char)))

/-- `_begin_sso_authorize` up to its transaction: its answer, or the initiation. -/
def beginSsoAuthorize (config : RouteConfig) (request : HttpRequest) (correlationId : String)
    (call : AuthorizeCall) : Except PyError (HttpResponse ⊕ SsoRequest) :=
  if !config.resourceSpace.ssoEnabled then .ok (.inl (.page 400 "SSO_DISABLED" none))
  else
    let tenantUrl := String.ofList (strip (call.body.field "tenant_url").toList)
    match Url.urlparse unicode tenantUrl with
    | none => .error .valueError
    | some parsed =>
      if unicode.lower parsed.scheme = "http".toList then
        .ok (.inl (.page 400 "TENANT_NOT_HTTPS" none))
      else
        match getConfiguredTenant unicode rawHost getaddrinfo config.toAppConfig (some tenantUrl) with
        | .error error => .ok (.inl (errorPage (mapError error)))
        | .ok tenant =>
          if !startsWith (unicode.lower tenant.baseUrl.toList) "https://".toList then
            .ok (.inl (.page 400 "TENANT_NOT_HTTPS" none))
          else
            .ok (.inr { call.request with
              canvaState := call.state
              tenant
              correlationId
              initiatorKey := "oauth_sso_init:" ++ clientHost config request })

/-- The answer to an SSO initiation, given the outcome of its transaction. The host of
    the tenant, which is logged first, is read outside any `try`. -/
def handoffResponse (config : RouteConfig) (request : SsoRequest) :
    Except PyError String → Except PyError HttpResponse
  | .error (.resourceSpaceError e) =>
    .ok (.error (if e.statusCode = 0 then 503 else e.statusCode) e.code e.message none)
  | .error error => .error error
  | .ok handoffState =>
    match hostOf unicode request.tenant.baseUrl with
    | none => .error .valueError
    | some _ =>
      let query := Url.urlencode [("system", config.ssoSystemKey), ("state", handoffState)]
      .ok (.handoff (String.ofList
        ((request.tenant.baseUrl.toList.reverse.dropWhile (· = '/')).reverse ++
          "/pages/user/user_api_session.php?".toList ++ query)))

end SignIns

end Broker
