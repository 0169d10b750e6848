import Mathlib.Data.Int.Notation
import Broker.Lib.Dict

/-!
# Configuration

The snapshot `AppConfig` of the broker's settings, with the settings its
services read. Durations are the integers of the environment variables: any
sign is possible, and no service assumes one.
-/

namespace Broker

open Py

/-- A configured OAuth client. -/
structure OAuthClientConfig where
  clientId : String
  integration : Option String
  redirectUriAllowlist : List String
  deriving DecidableEq, Repr

structure OAuthConfig where
  clients : Dict String OAuthClientConfig
  tokenTtlSeconds : ℤ
  signedUrlTtlSeconds : ℤ
  authCodeTtlSeconds : ℤ
  refreshGraceSeconds : ℤ
  refreshTokenTtlSeconds : ℤ
  deriving DecidableEq, Repr

structure SigningConfig where
  assetSecret : String
  deriving DecidableEq, Repr

structure RateLimitConfig where
  maxRequests : ℤ
  windowMs : ℤ
  deriving DecidableEq, Repr

/-- A ResourceSpace tenant, as a registry record or a session holds it. -/
structure Tenant where
  id : String
  slug : Option String
  name : Option String
  baseUrl : String
  apiUrl : Option String
  rootCollections : List String
  collectionChildren : List (String × List String)
  deriving DecidableEq, Repr

structure ResourceSpaceConfig where
  mode : String
  allowedHosts : List String
  tenants : List Tenant
  ssoEnabled : Bool
  ssoPendingTtlSeconds : ℤ
  ssoReplayRetentionSeconds : ℤ
  deriving DecidableEq, Repr

structure AppConfig where
  environment : String
  baseUrl : String
  oauth : OAuthConfig
  signing : SigningConfig
  rateLimit : RateLimitConfig
  resourceSpace : ResourceSpaceConfig
  deriving DecidableEq, Repr

/-- The snapshot with the settings that only the routes read. -/
structure RouteConfig extends AppConfig where
  clientIpHeader : String
  trustedProxyHosts : List String
  /-- `oauth.client_id`. -/
  clientId : String
  /-- `resource_space.sso_system_key`. -/
  ssoSystemKey : String
  deriving DecidableEq, Repr

/-- The environments that keep the permissive defaults. -/
def devLikeEnvironments : List String := ["development", "test"]

end Broker
