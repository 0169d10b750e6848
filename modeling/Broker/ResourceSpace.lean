import Broker.Lib.Json
import Broker.Lib.Url
import Broker.Session

/-!
# ResourceSpace sign-ins

The part of `ResourceSpaceService` behind the hosted sign-in (SSO): a session
key handed back by ResourceSpace is validated, by a signed call to the tenant
or against the fixture data, and a session built for its user.

What a live tenant answers to the signed call, and the time of day written into
the session, are parameters.
-/

namespace Broker

open Py

/-- `normalize_base_url`: the scheme and the authority of a URL, `https` when it
    has no scheme. -/
def normalizeBaseUrl (unicode : Unicode) (value : String) : Except PyError (Option String) :=
  let candidate := strip value.toList
  if candidate.isEmpty then .ok none
  else
    let candidate :=
      if startsWith candidate "http://".toList || startsWith candidate "https://".toList then
        candidate
      else "https://".toList ++ candidate
    match Url.urlparse unicode (String.ofList candidate) with
    | none => .error .valueError
    | some parsed =>
      if parsed.netloc.isEmpty then .ok none
      else
        let base := parsed.scheme ++ "://".toList ++ parsed.netloc
        .ok (some (String.ofList ((base.reverse.dropWhile (· = '/')).reverse)))

/-! ## Fixture data -/

/-- A user of the fixture data. -/
structure FixtureUser where
  id : String
  username : String
  displayName : String
  tenantId : String
  role : String

namespace Fixture

/-- `TENANTS`. -/
def tenants : List Tenant :=
  [{ id := "tenant_acme", slug := some "acme", name := some "Acme Brands UAT"
     baseUrl := "https://acme.demo.resourcespace.local", apiUrl := none
     rootCollections := [], collectionChildren := [] },
   { id := "tenant_globex", slug := some "globex", name := some "Globex Media UAT"
     baseUrl := "https://globex.demo.resourcespace.local", apiUrl := none
     rootCollections := [], collectionChildren := [] }]

/-- `USERS`. -/
def users : List FixtureUser :=
  [⟨"user_alice", "alice", "Alice Admin", "tenant_acme", "admin"⟩,
   ⟨"user_bob", "bob", "Bob Brand Manager", "tenant_acme", "editor"⟩,
   ⟨"user_clara", "clara", "Clara Curator", "tenant_globex", "admin"⟩]

/-- `FIXTURE_SSO_SESSION_KEYS`. -/
def ssoSessionKeys : List (String × String) :=
  [("fixture-sso-alice", "user_alice"), ("fixture-sso-clara", "user_clara")]

/-- `get_tenant_by_id`. -/
def getTenantById (tenantId : String) : Option Tenant := tenants.find? (·.id = tenantId)

/-- `get_user_by_id`. -/
def getUserById (userId : String) : Option FixtureUser := users.find? (·.id = userId)

end Fixture

/-! ## Session keys -/

/-- The failure of a session key. -/
def sessionExpired (message : String) : PyError :=
  .resourceSpaceError ⟨"UPSTREAM_SESSION_EXPIRED", message, 401⟩

/-- `_authenticate_fixture_sso`. -/
def authenticateFixtureSso (unicode : Unicode) (authenticatedAt : String) (tenant : Tenant)
    (sessionKey : String) : Except PyError Session :=
  match (Fixture.ssoSessionKeys.lookup sessionKey).bind Fixture.getUserById with
  | none => .error (sessionExpired "Unknown fixture SSO session key.")
  | some user =>
    let wrongTenant := sessionExpired "Fixture SSO session key is not valid for this tenant."
    match Fixture.getTenantById user.tenantId with
    | none => .error wrongTenant
    | some fixtureTenant => do
      let baseUrl ← normalizeBaseUrl unicode tenant.baseUrl
      let fixtureUrl ← normalizeBaseUrl unicode fixtureTenant.baseUrl
      if baseUrl = fixtureUrl then
        .ok
          { tenant := fixtureTenant
            user := { id := user.id, username := user.username, displayName := user.displayName
                      role := user.role, email := none }
            upstream := { mode := "fixture", sessionKey := none, authenticatedAt }
            broker := none }
      else .error wrongTenant

/-- `_validate_live_sessionkey`, given what `_call_live_api` returns or raises:
    only a list of resource types validates the key. -/
def validateLiveSessionkey (unicode : Unicode) (authenticatedAt : String) (tenant : Tenant)
    (sessionKey username : String) (result : Except PyError Json) : Except PyError Session :=
  match result with
  | .ok (.list _) =>
    .ok
      { tenant
        user :=
          { id := tenant.id ++ ":" ++ String.ofList (unicode.lower username.toList)
            username, displayName := username, role := "member", email := none }
        upstream := { mode := "live", sessionKey := some sessionKey, authenticatedAt }
        broker := none }
  | .ok _ => .error (sessionExpired "ResourceSpace session key did not validate.")
  | .error e => .error e

/-- The failure of a handoff without a user or a key. -/
def handoffFailed (message : String) : PyError :=
  .resourceSpaceError ⟨"SSO_HANDOFF_FAILED", message, 400⟩

/-- `authenticate_with_session_key`. -/
def authenticateWithSessionKey (unicode : Unicode) (config : AppConfig) (authenticatedAt : String)
    (tenant : Tenant) (sessionKey username : String) (result : Except PyError Json) :
    Except PyError Session :=
  if (strip username.toList).isEmpty then
    .error (handoffFailed "ResourceSpace callback did not provide a username.")
  else if (strip sessionKey.toList).isEmpty then
    .error (handoffFailed "ResourceSpace callback did not provide a session key.")
  else if config.resourceSpace.mode = "fixture" then
    authenticateFixtureSso unicode authenticatedAt tenant sessionKey
  else validateLiveSessionkey unicode authenticatedAt tenant sessionKey username result

/-- The session a callback authenticates is for the tenant it was given: that
    record of a live tenant, a fixture tenant of the same base URL. -/
theorem tenant_of_authenticateWithSessionKey {unicode : Unicode} {config : AppConfig}
    {authenticatedAt sessionKey username : String} {tenant : Tenant}
    {result : Except PyError Json} {session : Session}
    (h : authenticateWithSessionKey unicode config authenticatedAt tenant sessionKey username
      result = .ok session) :
    if config.resourceSpace.mode = "fixture" then
      normalizeBaseUrl unicode session.tenant.baseUrl = normalizeBaseUrl unicode tenant.baseUrl
    else session.tenant = tenant := by
  rw [authenticateWithSessionKey] at h
  split_ifs at h ⊢ with _ _ hmode
  · rw [authenticateFixtureSso] at h
    split at h
    · cases h
    · split at h
      · cases h
      · rename_i fixtureTenant _
        obtain ⟨baseUrl, hbase, h⟩ := exists_ok_of_bind h
        obtain ⟨fixtureUrl, hfixture, h⟩ := exists_ok_of_bind h
        split_ifs at h with hurl
        cases h
        rw [hbase, hfixture, hurl]
  · unfold validateLiveSessionkey at h
    split at h
    · cases h
      rfl
    · cases h
    · cases h

end Broker
