import Broker.AuthService
import Broker.Lib.DateTime
import Broker.Lib.Url

/-!
# The asset service

`AssetService`: short-lived grants of asset bytes, delivered under signed URLs.
A grant is bound to the user and the tenant of the session it was created for;
its URL carries its expiry and an HMAC of both under the signing secret.

As in the authorization service, `now i` is what the `i`-th call of `_now_ms()`
returns.
-/

namespace Broker

open Py

/-- `_broker_integration_from_session`. -/
def brokerIntegrationFromSession (session : Session) : Option String :=
  session.broker.bind (·.integration)

/-- `_create_signature`. -/
def createSignature (grantId : String) (expiresAt : ℤ) (secret : String) : String :=
  Base64.encodeUnpadded (Sha256.hmac secret.toUTF8.toList
    (grantId ++ ":" ++ toString expiresAt).toUTF8.toList)

/-- `_iso_from_ms`. -/
def isoFromMs (ms : ℤ) : Except PyError String := do
  match isoUtc (← float (Double.round (ms / 1000))) with
  | .ok text => return text
  | .error .overflow => throw .overflowError
  | .error .os => throw .osError
  | .error .value => throw .valueError

/-- `_prune_expired_grants`. -/
def pruneExpiredGrants (state : Store) (current : ℤ) : Store :=
  { state with assetGrants := state.assetGrants.filter fun _ r => !decide (r.expiresAt ≤ current) }

/-- What a request asks a grant for. -/
structure GrantRequest where
  pathPrefix : String
  source : AssetSource
  mimeType : Option String
  filename : Option String
  deriving DecidableEq, Repr

/-- The answer of `_create_grant`. -/
structure GrantResponse where
  grantId : String
  url : String
  expiresAt : String
  deriving DecidableEq, Repr

/-- The answer of `verify_grant`: the grant, or the reason it is refused. -/
inductive Verification
  | refused (reason : String)
  | ok (grant : AssetGrant)
  deriving DecidableEq, Repr

/-- An `AssetService`: the configuration it runs with. -/
structure AssetService where
  config : AppConfig

namespace AssetService

variable (service : AssetService)

/-- The path of the grants of `create_preview_grant`. -/
def previewPath : String := "/public/assets"

/-- The path of the grants of `create_download_grant`. -/
def downloadPath : String := "/signed/assets"

/-- The transaction of `_create_grant`. -/
def createGrantUpdater (now : ℕ → ℤ) (rand : Rand) (session : Session) (request : GrantRequest) :
    Updater GrantResponse := fun state => do
  let state := pruneExpiredGrants state (now 0)
  let grantId := randomToken "grant" (rand.token 0)
  let expiresAt := now 1 + service.config.oauth.signedUrlTtlSeconds * 1000
  let signature := createSignature grantId expiresAt service.config.signing.assetSecret
  let grant : AssetGrant :=
    { grantId
      userId := session.user.id
      tenantId := session.tenant.id
      expiresAt
      source := request.source
      integration := brokerIntegrationFromSession session
      mimeType := request.mimeType
      filename := request.filename }
  let query := Url.urlencode [("expires", toString expiresAt), ("sig", signature)]
  let expires ← isoFromMs expiresAt
  return ({ grantId
            url := service.config.baseUrl ++ request.pathPrefix ++ "/" ++ grantId ++ "?" ++
              String.ofList query
            expiresAt := expires },
    { state with assetGrants := state.assetGrants.set grantId grant })

/-- The transaction of `verify_grant`. -/
def grantUpdater (now : ℕ → ℤ) (grantId : String) : Updater (Option AssetGrant) := fun state =>
  let state := pruneExpiredGrants state (now 1)
  .ok (state.assetGrants.get? grantId, state)

/-- `verify_grant`: the expiry and the signature of the URL are checked before
    the store is. -/
def verifyGrant (now : ℕ → ℤ) (grantId expiresAt signature : Option String) (state : Store) :
    Except PyError Verification × Store :=
  if !truthyStr grantId || !truthyStr expiresAt || !truthyStr signature then
    (.ok (.refused "missing_signature"), state)
  else
    let grantId := grantId.getD ""
    let signature := signature.getD ""
    match Py.int (expiresAt.getD "") with
    | none => (.ok (.refused "expired"), state)
    | some expiry =>
      if expiry < now 0 then (.ok (.refused "expired"), state)
      -- `hmac.compare_digest` compares ASCII strings only.
      else if !isAscii signature.toList then (.error .typeError, state)
      else if createSignature grantId expiry service.config.signing.assetSecret ≠ signature then
        (.ok (.refused "invalid_signature"), state)
      else
        match update (grantUpdater now grantId) state with
        | (.ok (some grant), state) =>
          (.ok (if grant.expiresAt < now 2 then .refused "expired" else .ok grant), state)
        | (.ok none, state) => (.ok (.refused "expired"), state)
        | (.error e, state) => (.error e, state)

end AssetService

end Broker
