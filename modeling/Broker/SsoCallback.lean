import Broker.AuthService
import Broker.ResourceSpace

/-!
# The SSO callback

The route `/oauth/sso/callback`, called by ResourceSpace with a handoff state
and a session key. It inspects the handoff state (`receiveCallback`), validates
the session key upstream and completes the sign-in (`answerCallback`): other
operations may run while it waits for ResourceSpace.
-/

namespace Broker

open Py

/-- The verdict of the rate limiter. -/
structure RateLimitResult where
  allowed : Bool
  retryAfterMs : ℤ
  deriving DecidableEq, Repr

/-- The form of a callback; a missing field reads as the empty string. -/
structure CallbackForm where
  handoffState : String
  sessionKey : String
  username : String
  deriving DecidableEq, Repr

/-- The answer of the callback route. -/
inductive CallbackResponse
  | error (statusCode : ℤ) (code message : String) (retryAfter : Option ℤ)
  | sso (statusCode : ℤ) (message : String) (reason redirectUrl : Option String)
  deriving DecidableEq, Repr

/-- A callback past its first checks: the record it found active, and the
    session key to validate. -/
structure Callback where
  handoffState : String
  record : PendingSsoState
  sessionKey : String
  username : String
  deriving DecidableEq, Repr

/-- `_host_of`, none for a `ValueError`. -/
def hostOf (unicode : Unicode) (url : String) : Option String :=
  (Url.urlparse unicode url).map fun parsed =>
    String.ofList (unicode.lower (parsed.hostname unicode))

@[simp]
theorem hostOf_isSome (unicode : Unicode) (url : String) :
    (hostOf unicode url).isSome = (Url.urlparse unicode url).isSome :=
  Option.isSome_map

/-- `_append_query`. -/
def appendQuery (unicode : Unicode) (url : String) (params : List (String × String)) :
    Except PyError String :=
  match Url.urlparse unicode url with
  | none => .error .valueError
  | some parsed =>
    let pairs := Url.parseQsl parsed.query ++ params
    .ok { parsed with query := Url.urlencode pairs }.geturl

namespace CallbackResponse

/-- A failed sign-in, as the callback reports it. -/
def failed (statusCode : ℤ) (message reason : String) : CallbackResponse :=
  sso statusCode message (some reason) none

def stateInvalid : CallbackResponse :=
  failed 400 "This sign-in link is not valid. Please start again from Canva." "sso_state_invalid"

def stateExpired : CallbackResponse :=
  failed 400 "This sign-in link has expired. Please start again from Canva." "sso_state_expired"

def stateReplay : CallbackResponse :=
  failed 400 "This sign-in link has already been used. Please start again from Canva."
    "sso_state_replay"

def missingUsername : CallbackResponse :=
  failed 400 "ResourceSpace did not provide a username for this sign-in." "sso_handoff_failed"

def missingSessionKey : CallbackResponse :=
  failed 401 "ResourceSpace did not provide a valid session."
    "resourcespace_token_validation_failed"

def validationFailed (statusCode : ℤ) : CallbackResponse :=
  failed statusCode "ResourceSpace session validation failed."
    "resourcespace_token_validation_failed"

def signedIn (redirectUrl : String) : CallbackResponse :=
  sso 200 "Signed in to ResourceSpace. You can return to Canva to continue." none (some redirectUrl)

end CallbackResponse

/-- The checks of a form whose handoff state is active. -/
def Callback.receive (record : PendingSsoState) (form : CallbackForm) : CallbackResponse ⊕ Callback :=
  if form.username = "" then .inl .missingUsername
  else if form.sessionKey = "" then .inl .missingSessionKey
  else .inr ⟨form.handoffState, record, form.sessionKey, form.username⟩

/-- `oauth_sso_callback` up to its call of ResourceSpace, given how it finds its
    handoff state: its answer, or the callback to go on with. The host of the
    tenant, which it logs, is read outside any `try`. -/
def receiveCallback (unicode : Unicode) (config : AppConfig) (rate : RateLimitResult)
    (form : CallbackForm) (inspected : SsoResult) : Except PyError (CallbackResponse ⊕ Callback) :=
  if !config.resourceSpace.ssoEnabled then .ok (.inl (.error 404 "NOT_FOUND" "Not found." none))
  else if !rate.allowed then
    .ok (.inl (.error 429 "RATE_LIMITED" "Too many requests."
      (some (max 1 (rate.retryAfterMs / 1000)))))
  else if form.handoffState = "" then .ok (.inl .stateInvalid)
  else
    match inspected with
    | .expired _ => .ok (.inl .stateExpired)
    | .replayed _ => .ok (.inl .stateReplay)
    | .active record =>
      match hostOf unicode record.tenant.baseUrl with
      | none => .error .valueError
      | some _ => .ok (Callback.receive record form)
    | _ => .ok (.inl .stateInvalid)

/-- The answer to a session key that did not validate, when it is not an error
    of the broker itself. -/
def validationFailure : PyError → Except PyError CallbackResponse
  | .resourceSpaceError e =>
    .ok (.validationFailed (if [400, 401, 403].contains e.statusCode then 401 else 502))
  | e => .error e

/-- The answer of the callback to the outcome of `complete_sso_authorization`. -/
def answerCallback (unicode : Unicode) (callback : Callback) :
    SsoResult → Except PyError CallbackResponse
  | .replayed _ => .ok .stateReplay
  | .valid code _ =>
    (appendQuery unicode callback.record.redirectUri
      [("code", code), ("state", callback.record.canvaState)]).map .signedIn
  | _ => .ok .stateInvalid

end Broker
