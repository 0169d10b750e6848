import Broker.Lib.Quoting
import Broker.Sources
import Broker.Tenants

/-!
# Password sign-ins

A user signs in with a password to a tenant of the fixture data, or to a live one, which is asked for
a session key (`authenticate`).

The password is sent at most once: to the API of the tenant that the URL is resolved to, at addresses
that are not blocked, in a call that is read back as the login of that user, whatever the name and the
password hold. The session that is returned has the key that the tenant answers, and is the same for
every password that the tenant answers so (`credentials_confined`). A session of the fixture data is
for a user at the tenant of that user (`homed_of_authenticated`).
-/

namespace Broker

open Py

/-! ## Fixture tenants -/

namespace Fixture

/-- The passwords of `USERS`. -/
def passwords : List (String × String) :=
  [("user_alice", "alice-password"), ("user_bob", "bob-password"), ("user_clara", "clara-password")]

/-- `get_tenant_by_base_url`. -/
def getTenantByBaseUrl (baseUrl : String) : Option Tenant := tenants.find? (·.baseUrl = baseUrl)

/-- `get_user_by_tenant_and_username`. -/
def getUserByTenantAndUsername (unicode : Unicode) (tenantId username : String) : Option FixtureUser :=
  users.find? fun user => user.tenantId = tenantId ∧
    unicode.lower user.username.toList = unicode.lower username.toList

end Fixture

section SignIns

variable (unicode : Unicode)

/-- `_authenticate_fixture_tenant`. -/
def authenticateFixtureTenant (authenticatedAt : String) (baseUrl : Option String)
    (username password : String) : Except PyError Session := do
  let normalized ← normalizeBaseUrl unicode (baseUrl.getD "")
  match Fixture.getTenantByBaseUrl (normalized.getD "") with
  | none => throw (refusal "UNKNOWN_TENANT" "Unknown fixture tenant." 403)
  | some tenant =>
    match Fixture.getUserByTenantAndUsername unicode tenant.id username with
    | none => throw (refusal "INVALID_CREDENTIALS" "Invalid fixture credentials." 401)
    | some user =>
      if Fixture.passwords.lookup user.id ≠ some password then
        throw (refusal "INVALID_CREDENTIALS" "Invalid fixture credentials." 401)
      else
        return {
          tenant
          user := ⟨user.id, user.username, user.displayName, user.role, none⟩
          upstream := ⟨"fixture", none, authenticatedAt⟩
          broker := none }

end SignIns

/-! ## Live tenants -/

/-- A call that is posted as a form, and the pinned URLs that it is tried at. -/
structure LoginRequest where
  form : List (String × String)
  headers : List (String × String)
  attempts : List String
  deriving DecidableEq, Repr

/-- What a login meets: the resolver when its URL is pinned, and the replies to a form at the pinned
    URLs. -/
structure LoginHop where
  pinning : List Char → Option (List (List Char))
  reply : List (String × String) → String → ApiReply

section Live

variable (py : Interpreter) (httpx : Httpx)

/-- `_post_jsonish_sync`. -/
def postJsonish (hop : LoginHop) (url : String) (form : List (String × String)) (integration : Option String) :
    Traced LoginRequest PyError Json := do
  let pinned ← Traced.lift (pinRequest py.unicode httpx.rawHost hop.pinning httpx url [])
  let (attempts, response) := firstReachable (hop.reply form) pinned.urls
  Traced.emit { form, headers := resourcespaceRequestHeaders integration, attempts }
  match response with
  | some response => Traced.lift (parseJsonishResponse response)
  | none => throw (refusal "UPSTREAM_UNAVAILABLE" "ResourceSpace could not be reached." 502)

/-- The form of a login. -/
def loginForm (username password : String) : List (String × String) :=
  [("query", String.ofList (Url.urlencode
    [("function", "login"), ("username", username), ("password", password)]))]

/-- The session of a user of a live tenant. -/
def liveSession (authenticatedAt : String) (tenant : Tenant) (username sessionKey : String) : Session where
  tenant
  user :=
    { id := tenant.id ++ ":" ++ String.ofList (py.unicode.lower username.toList)
      username, displayName := username, role := "member", email := none }
  upstream := { mode := "live", sessionKey := some sessionKey, authenticatedAt }
  broker := none

variable (getaddrinfo : List Char → Option (List (List Char))) (config : AppConfig) (hop : LoginHop)
  (authenticatedAt : String)

/-- `_authenticate_live_tenant`. -/
def authenticateLiveTenant (baseUrl : Option String) (username password : String)
    (integration : Option String) : Traced LoginRequest PyError Session := do
  let tenant ← Traced.lift (getConfiguredTenant py.unicode httpx.rawHost getaddrinfo config baseUrl)
  let result ← postJsonish py httpx hop (tenant.apiUrl.getD "") (loginForm username password) integration
  if isFailure result then
    throw (refusal "INVALID_CREDENTIALS" "Invalid ResourceSpace credentials." 401)
  else return liveSession py authenticatedAt tenant username (str py result)

/-- `authenticate`. -/
def authenticate (tenantBaseUrl : Option String) (username password : String)
    (integration : Option String) : Traced LoginRequest PyError Session :=
  if config.resourceSpace.mode = "fixture" then
    Traced.lift (authenticateFixtureTenant py.unicode authenticatedAt tenantBaseUrl username password)
  else authenticateLiveTenant py httpx getaddrinfo config hop authenticatedAt tenantBaseUrl username password
    integration

end Live

/-! ## What is sent -/

section Confined

variable {py : Interpreter} {httpx : Httpx} {getaddrinfo : List Char → Option (List (List Char))}
  {config : AppConfig} {hop : LoginHop}

/-- The tenant of a URL: the record of the registry that has its identity, with the URLs normalized, or one
    made up for its identity. -/
inductive ResolvesTo (unicode : Unicode) (rawHost : List Char → Option (List Char)) (config : AppConfig)
    (baseUrl : Option String) (tenant : Tenant) : Prop
  | registered {identity : TenantIdentity} {record : Tenant} {normalized : Option String}
    (requested : requestedIdentity unicode rawHost baseUrl = .ok (some identity))
    (mem : record ∈ config.resourceSpace.tenants)
    (same : tenantIdentity unicode rawHost record.baseUrl = .ok (some identity))
    (base : normalizeBaseUrl unicode record.baseUrl = .ok normalized)
    (resolved : tenant =
      { record with
        baseUrl := normalized.getD ""
        apiUrl := some (normalizeApiUrl (normalized.getD "") record.apiUrl) })
  | madeUp {identity : TenantIdentity}
    (requested : requestedIdentity unicode rawHost baseUrl = .ok (some identity))
    (made : tenant = madeUpTenant unicode identity)

theorem same_of_registeredTenant {unicode : Unicode} {rawHost : List Char → Option (List Char)}
    {requested : Option TenantIdentity} {records : List Tenant} {record : Tenant}
    (h : registeredTenant unicode rawHost requested records = .ok (some record)) :
    record ∈ records ∧ ∃ identity, requested = some identity ∧
      tenantIdentity unicode rawHost record.baseUrl = .ok (some identity) := by
  induction records with
  | nil => cases h
  | cons first records ih =>
    rw [registeredTenant] at h
    split_ifs at h with hsome
    · obtain ⟨identity, hidentity⟩ := Option.isSome_iff_exists.1 hsome
      obtain ⟨found, hfound, h⟩ := exists_ok_of_bind h
      split_ifs at h with hsame
      · cases h
        exact ⟨List.mem_cons_self, identity, hidentity, hfound.trans (congrArg Except.ok (hsame.trans hidentity))⟩
      · exact ⟨List.mem_cons_of_mem _ (ih h).1, (ih h).2⟩
    · exact ⟨List.mem_cons_of_mem _ (ih h).1, (ih h).2⟩

theorem madeUp_of_dynamicTenant {unicode : Unicode} {rawHost : List Char → Option (List Char)}
    {normalized : String} {requested : Option TenantIdentity} {tenant : Tenant}
    (h : dynamicTenant unicode rawHost getaddrinfo config normalized requested = .ok tenant) :
    ∃ identity, requested = some identity ∧ tenant = madeUpTenant unicode identity := by
  rw [dynamicTenant] at h
  cases hparsed : Url.urlparse unicode normalized with
  | none =>
    rw [hparsed] at h
    cases h
  | some parsed =>
    rw [hparsed] at h
    dsimp only at h
    split_ifs at h
    · cases h
    obtain ⟨_, -, h⟩ := exists_ok_of_bind h
    cases requested with
    | none => cases h
    | some identity =>
      dsimp only at h
      split_ifs at h
      · cases h
      exact ⟨identity, rfl, (Except.ok.inj h).symm⟩

theorem resolves_of_getConfiguredTenant {unicode : Unicode} {rawHost : List Char → Option (List Char)}
    {baseUrl : Option String} {tenant : Tenant}
    (h : getConfiguredTenant unicode rawHost getaddrinfo config baseUrl = .ok tenant) :
    ResolvesTo unicode rawHost config baseUrl tenant := by
  rw [getConfiguredTenant] at h
  obtain ⟨normalized, hnormalized, h⟩ := exists_ok_of_bind h
  cases normalized with
  | none => cases h
  | some normalized =>
    obtain ⟨requested, hrequested, h⟩ := exists_ok_of_bind h
    have hidentity : requestedIdentity unicode rawHost baseUrl = .ok requested := by
      rw [requestedIdentity, hnormalized]
      exact hrequested
    obtain ⟨registered, hregistered, h⟩ := exists_ok_of_bind h
    cases registered with
    | some record =>
      obtain ⟨hmem, identity, rfl, hsame⟩ := same_of_registeredTenant hregistered
      obtain ⟨base, hbase, h⟩ := exists_ok_of_bind h
      obtain ⟨_, -, h⟩ := exists_ok_of_bind h
      exact .registered hidentity hmem hsame hbase (Except.ok.inj h).symm
    | none =>
      obtain ⟨identity, rfl, hmade⟩ := madeUp_of_dynamicTenant h
      exact .madeUp hidentity hmade

theorem ResolvesTo.exists_apiUrl {unicode : Unicode} {rawHost : List Char → Option (List Char)}
    {baseUrl : Option String} {tenant : Tenant} (h : ResolvesTo unicode rawHost config baseUrl tenant) :
    ∃ apiUrl, tenant.apiUrl = some apiUrl := by
  cases h with
  | registered _ _ _ _ resolved => exact ⟨_, congrArg Tenant.apiUrl resolved⟩
  | madeUp _ made => exact ⟨_, congrArg Tenant.apiUrl made⟩

/-- A call is posted once at most, to addresses that are not blocked. -/
theorem trace_postJsonish {url : String} {form : List (String × String)} {integration : Option String}
    {sent : LoginRequest} (h : sent ∈ (postJsonish py httpx hop url form integration).trace) :
    (postJsonish py httpx hop url form integration).trace = [sent] ∧ sent.form = form ∧
      IsPinnedTo httpx url sent.attempts := by
  rw [postJsonish] at h ⊢
  cases hpinned : pinRequest py.unicode httpx.rawHost hop.pinning httpx url [] with
  | error error =>
    rw [hpinned] at h
    cases h
  | ok pinned =>
    rw [hpinned] at h
    have hgoes := isPinnedTo_of_pinRequest hpinned (hop.reply form)
    dsimp only [bind, Traced.bind, Traced.lift, Traced.emit] at h ⊢
    cases hresponse : (firstReachable (hop.reply form) pinned.urls).2 with
    | none =>
      rw [hresponse] at h
      obtain rfl := List.mem_singleton.1 h
      exact ⟨rfl, rfl, hgoes⟩
    | some response =>
      rw [hresponse] at h
      obtain rfl := List.mem_singleton.1 h
      exact ⟨rfl, rfl, hgoes⟩

/-- A call that is answered. -/
theorem postJsonish_answered {url : String} {form : List (String × String)} {integration : Option String}
    {pinned : PinnedRequest} {attempts : List String} {response : ApiResponse}
    (hpinned : pinRequest py.unicode httpx.rawHost hop.pinning httpx url [] = .ok pinned)
    (hreached : firstReachable (hop.reply form) pinned.urls = (attempts, some response)) :
    postJsonish py httpx hop url form integration =
      ⟨[⟨form, resourcespaceRequestHeaders integration, attempts⟩], parseJsonishResponse response⟩ := by
  rw [postJsonish, hpinned]
  dsimp only [bind, Traced.bind, Traced.lift, Traced.emit]
  rw [hreached]
  rfl

/-- Forms that are answered alike return the same. -/
theorem result_postJsonish {form form' : List (String × String)} (alike : hop.reply form = hop.reply form')
    (url : String) (integration : Option String) :
    (postJsonish py httpx hop url form integration).result =
      (postJsonish py httpx hop url form' integration).result := by
  rw [postJsonish, postJsonish, alike]
  cases pinRequest py.unicode httpx.rawHost hop.pinning httpx url [] with
  | error error => rfl
  | ok pinned => rfl

variable {authenticatedAt username password : String} {tenantBaseUrl integration : Option String}

theorem authenticate_live (live : config.resourceSpace.mode ≠ "fixture") :
    authenticate py httpx getaddrinfo config hop authenticatedAt tenantBaseUrl username password integration =
      authenticateLiveTenant py httpx getaddrinfo config hop authenticatedAt tenantBaseUrl username password
        integration := by
  rw [authenticate, if_neg live]

theorem trace_authenticateLiveTenant {tenant : Tenant} {apiUrl : String}
    (h : getConfiguredTenant py.unicode httpx.rawHost getaddrinfo config tenantBaseUrl = .ok tenant)
    (api : tenant.apiUrl = some apiUrl) :
    (authenticateLiveTenant py httpx getaddrinfo config hop authenticatedAt tenantBaseUrl username password
      integration).trace = (postJsonish py httpx hop apiUrl (loginForm username password) integration).trace := by
  rw [authenticateLiveTenant, h, Traced.bind_of_ok rfl, Traced.trace_lift, List.nil_append, api]
  refine Traced.trace_bind_of_silent fun result => ?_
  split_ifs
  · rfl
  · rfl

/-- What a sign-in to a live tenant returns. -/
theorem result_authenticateLiveTenant {session : Session} :
    (authenticateLiveTenant py httpx getaddrinfo config hop authenticatedAt tenantBaseUrl username password
      integration).result = .ok session ↔
      ∃ tenant apiUrl value,
        getConfiguredTenant py.unicode httpx.rawHost getaddrinfo config tenantBaseUrl = .ok tenant ∧
        tenant.apiUrl = some apiUrl ∧
        (postJsonish py httpx hop apiUrl (loginForm username password) integration).result = .ok value ∧
        isFailure value = false ∧ session = liveSession py authenticatedAt tenant username (str py value) := by
  rw [authenticateLiveTenant, Traced.result_bind_eq_ok]
  refine exists_congr fun tenant => ?_
  constructor
  · rintro ⟨htenant, h⟩
    obtain ⟨apiUrl, hapi⟩ := (resolves_of_getConfiguredTenant htenant).exists_apiUrl
    rw [hapi] at h
    obtain ⟨value, hvalue, h⟩ := Traced.result_bind_eq_ok.1 h
    split_ifs at h with hfailure
    rw [Bool.not_eq_true] at hfailure
    exact ⟨apiUrl, value, htenant, hapi, hvalue, hfailure, (Except.ok.inj h).symm⟩
  · rintro ⟨apiUrl, value, htenant, hapi, hvalue, hfailure, rfl⟩
    refine ⟨htenant, ?_⟩
    rw [hapi]
    refine Traced.result_bind_eq_ok.2 ⟨value, hvalue, ?_⟩
    rw [if_neg (Bool.not_eq_true _ ▸ hfailure)]
    rfl

/-- For another password that is answered alike, the same is returned. -/
theorem result_authenticateLiveTenant_congr {password' : String}
    (alike : hop.reply (loginForm username password') = hop.reply (loginForm username password)) :
    (authenticateLiveTenant py httpx getaddrinfo config hop authenticatedAt tenantBaseUrl username password'
      integration).result =
      (authenticateLiveTenant py httpx getaddrinfo config hop authenticatedAt tenantBaseUrl username password
        integration).result := by
  rw [authenticateLiveTenant, authenticateLiveTenant]
  cases getConfiguredTenant py.unicode httpx.rawHost getaddrinfo config tenantBaseUrl with
  | error error => rfl
  | ok tenant =>
    have hsame := @result_postJsonish py httpx hop _ _ alike (tenant.apiUrl.getD "") integration
    exact (Traced.result_lift_bind rfl).trans
      ((Traced.result_bind_congr hsame).trans (Traced.result_lift_bind rfl).symm)

/-- A password is sent once at most, and not at all in fixture mode: in a form that reads back as the login
    of the user, to the API of the tenant of the URL, at addresses that are not blocked. A live tenant that
    answers a session key signs the user in with that key; and for another password that it answers alike,
    the same is returned. -/
theorem credentials_confined :
    (∀ sent ∈ (authenticate py httpx getaddrinfo config hop authenticatedAt tenantBaseUrl username password
        integration).trace,
      (authenticate py httpx getaddrinfo config hop authenticatedAt tenantBaseUrl username password
        integration).trace = [sent] ∧
      config.resourceSpace.mode ≠ "fixture" ∧
      (∃ query, sent.form = [("query", query)] ∧ Url.parseQsl query.toList =
        [("function", "login"), ("username", username), ("password", password)]) ∧
      ∃ tenant apiUrl, ResolvesTo py.unicode httpx.rawHost config tenantBaseUrl tenant ∧
        tenant.apiUrl = some apiUrl ∧ IsPinnedTo httpx apiUrl sent.attempts) ∧
    (config.resourceSpace.mode ≠ "fixture" →
      (∀ session, (authenticate py httpx getaddrinfo config hop authenticatedAt tenantBaseUrl username password
          integration).result = .ok session ↔
        ∃ tenant apiUrl value,
          getConfiguredTenant py.unicode httpx.rawHost getaddrinfo config tenantBaseUrl = .ok tenant ∧
          tenant.apiUrl = some apiUrl ∧
          (postJsonish py httpx hop apiUrl (loginForm username password) integration).result = .ok value ∧
          isFailure value = false ∧ session = liveSession py authenticatedAt tenant username (str py value)) ∧
      ∀ password', hop.reply (loginForm username password') = hop.reply (loginForm username password) →
        (authenticate py httpx getaddrinfo config hop authenticatedAt tenantBaseUrl username password'
          integration).result =
        (authenticate py httpx getaddrinfo config hop authenticatedAt tenantBaseUrl username password
          integration).result) := by
  refine ⟨fun sent hsent => ?_, fun live => ⟨fun session => ?_, fun password' alike => ?_⟩⟩
  · by_cases hmode : config.resourceSpace.mode = "fixture"
    · rw [authenticate, if_pos hmode] at hsent
      cases hsent
    rw [authenticate_live hmode] at hsent ⊢
    cases htenant : getConfiguredTenant py.unicode httpx.rawHost getaddrinfo config tenantBaseUrl with
    | error error =>
      rw [authenticateLiveTenant, htenant] at hsent
      cases hsent
    | ok tenant =>
      have hresolves := resolves_of_getConfiguredTenant htenant
      obtain ⟨apiUrl, hapi⟩ := hresolves.exists_apiUrl
      rw [trace_authenticateLiveTenant htenant hapi] at hsent ⊢
      obtain ⟨honce, hform, hgoes⟩ := trace_postJsonish hsent
      refine ⟨honce, hmode, ⟨_, hform, ?_⟩, tenant, apiUrl, hresolves, hapi, hgoes⟩
      rw [String.toList_ofList]
      exact Url.parseQsl_urlencode _
  · rw [authenticate_live live]
    exact result_authenticateLiveTenant
  · rw [authenticate_live live, authenticate_live live]
    exact result_authenticateLiveTenant_congr alike

end Confined

namespace Sample

/-- A tenant that answers one login with a key, and refuses the others. -/
def loginHop : LoginHop where
  pinning := resolver
  reply form _ :=
    .response ⟨200, .ok (if form = loginForm "ada" "p&function=x" then .str "key" else .bool false), ""⟩

end Sample

/-- A password with the delimiters of a query is sent as one, and the key that is answered is kept. -/
theorem credentials_confined_injection : ∃ sent query session,
    (authenticate Sample.plainInterpreter Sample.plainHttpx Sample.resolver Sample.config Sample.loginHop ""
      (some "https://dam.example") "ada" "p&function=x" none).trace = [sent] ∧
    sent.form = [("query", query)] ∧
    Url.parseQsl query.toList = [("function", "login"), ("username", "ada"), ("password", "p&function=x")] ∧
    (authenticate Sample.plainInterpreter Sample.plainHttpx Sample.resolver Sample.config Sample.loginHop ""
      (some "https://dam.example") "ada" "p&function=x" none).result = .ok session ∧
    session.upstream.sessionKey = some "key" := by
  have htenant : getConfiguredTenant Sample.plainInterpreter.unicode Sample.plainHttpx.rawHost Sample.resolver
      Sample.config (some "https://dam.example") = .ok (Sample.madeUp "dam-example" "dam.example") := by
    decide +kernel
  have hapi : (Sample.madeUp "dam-example" "dam.example").apiUrl = some "https://dam.example/api/" := by
    decide +kernel
  have hpinned := Sample.pinRequest_dam ""
  rw [String.append_empty] at hpinned
  have hposted := @postJsonish_answered Sample.plainInterpreter Sample.plainHttpx Sample.loginHop
    "https://dam.example/api/" (loginForm "ada" "p&function=x") none _ _ _ hpinned rfl
  have hanswered : (postJsonish Sample.plainInterpreter Sample.plainHttpx Sample.loginHop
      "https://dam.example/api/" (loginForm "ada" "p&function=x") none).result = .ok (.str "key") := by
    rw [hposted, if_pos rfl]
    rfl
  generalize hrun : authenticate Sample.plainInterpreter Sample.plainHttpx Sample.resolver Sample.config
    Sample.loginHop "" (some "https://dam.example") "ada" "p&function=x" none = run
  have htrace : run.trace ≠ [] := by
    rw [← hrun, authenticate_live (by decide), trace_authenticateLiveTenant htenant hapi, hposted]
    exact List.cons_ne_nil _ _
  obtain ⟨hconfined, hsigned⟩ := @credentials_confined Sample.plainInterpreter Sample.plainHttpx
    Sample.resolver Sample.config Sample.loginHop "" "ada" "p&function=x" (some "https://dam.example") none
  rw [hrun] at hconfined hsigned
  obtain ⟨sent, hsent⟩ := List.exists_mem_of_ne_nil _ htrace
  obtain ⟨honce, -, ⟨query, hform, hquery⟩, -⟩ := hconfined sent hsent
  exact ⟨sent, query, _, honce, hform, hquery, ((hsigned (by decide)).1 _).2
    ⟨_, _, _, htenant, hapi, hanswered, by decide, rfl⟩, rfl⟩

/-! ## Sessions of sign-ins -/

/-- The sessions that `authenticate` and `authenticate_with_session_key` return. -/
inductive Authenticated (py : Interpreter) (session : Session) : Prop
  | password (httpx : Httpx) (getaddrinfo : List Char → Option (List (List Char))) (config : AppConfig)
    (hop : LoginHop) (authenticatedAt : String) (tenantBaseUrl : Option String) (username password : String)
    (integration : Option String)
    (h : (authenticate py httpx getaddrinfo config hop authenticatedAt tenantBaseUrl username password
      integration).result = .ok session)
  | handoff (config : AppConfig) (authenticatedAt : String) (tenant : Tenant) (sessionKey username : String)
    (result : Except PyError Json)
    (h : authenticateWithSessionKey py.unicode config authenticatedAt tenant sessionKey username result =
      .ok session)

section Homed

variable {py : Interpreter}

theorem getUserById_of_mem : ∀ user ∈ Fixture.users, Fixture.getUserById user.id = some user := by
  simp only [Fixture.users, List.forall_mem_cons, List.not_mem_nil, false_implies, implies_true, and_true]
  exact ⟨rfl, rfl, rfl⟩

theorem tenantId_of_getTenantById {tenantId : String} {tenant : Tenant}
    (h : Fixture.getTenantById tenantId = some tenant) : tenant.id = tenantId := by
  simpa using List.find?_some h

theorem homed_of_authenticateFixtureTenant {unicode : Unicode} {authenticatedAt username password : String}
    {baseUrl : Option String} {session : Session}
    (h : authenticateFixtureTenant unicode authenticatedAt baseUrl username password = .ok session) :
    session.identity.Homed := by
  obtain ⟨normalized, -, h⟩ := exists_ok_of_bind h
  cases htenant : Fixture.getTenantByBaseUrl (normalized.getD "") with
  | none =>
    rw [htenant] at h
    cases h
  | some tenant =>
    rw [htenant] at h
    dsimp only at h
    cases huser : Fixture.getUserByTenantAndUsername unicode tenant.id username with
    | none =>
      rw [huser] at h
      cases h
    | some user =>
      rw [huser] at h
      dsimp only at h
      split_ifs at h
      cases h
      have hmem : user ∈ Fixture.users := List.mem_of_find?_eq_some huser
      have hfound : user.tenantId = tenant.id ∧
          unicode.lower user.username.toList = unicode.lower username.toList := by
        simpa using List.find?_some huser
      exact ⟨user, getUserById_of_mem user hmem, hfound.1⟩

theorem homed_of_authenticateFixtureSso {unicode : Unicode} {authenticatedAt sessionKey : String}
    {tenant : Tenant} {session : Session}
    (h : authenticateFixtureSso unicode authenticatedAt tenant sessionKey = .ok session) :
    session.identity.Homed := by
  rw [authenticateFixtureSso] at h
  cases huser : (Fixture.ssoSessionKeys.lookup sessionKey).bind Fixture.getUserById with
  | none =>
    rw [huser] at h
    cases h
  | some user =>
    rw [huser] at h
    dsimp only at h
    cases htenant : Fixture.getTenantById user.tenantId with
    | none =>
      rw [htenant] at h
      cases h
    | some fixtureTenant =>
      rw [htenant] at h
      obtain ⟨baseUrl, -, h⟩ := exists_ok_of_bind h
      obtain ⟨fixtureUrl, -, h⟩ := exists_ok_of_bind h
      split_ifs at h
      cases h
      obtain ⟨userId, -, hid⟩ := Option.bind_eq_some_iff.1 huser
      have hmem : user ∈ Fixture.users := List.mem_of_find?_eq_some hid
      exact ⟨user, getUserById_of_mem user hmem, (tenantId_of_getTenantById htenant).symm⟩

/-- A session that is signed in to the fixture data is for a user at the tenant of that user. -/
theorem homed_of_authenticated {session : Session} (h : Authenticated py session)
    (mode : session.upstream.mode = "fixture") : session.identity.Homed := by
  cases h with
  | password httpx getaddrinfo config hop authenticatedAt tenantBaseUrl username password integration h =>
    by_cases hmode : config.resourceSpace.mode = "fixture"
    · rw [authenticate, if_pos hmode] at h
      exact homed_of_authenticateFixtureTenant h
    · rw [authenticate_live hmode, result_authenticateLiveTenant] at h
      obtain ⟨tenant, apiUrl, value, -, -, -, -, rfl⟩ := h
      have hlive : "live" ≠ "fixture" := by decide
      exact absurd mode hlive
  | handoff config authenticatedAt tenant sessionKey username result h =>
    rw [authenticateWithSessionKey] at h
    split_ifs at h with _ _ hmode
    · exact homed_of_authenticateFixtureSso h
    · cases result with
      | error e => cases h
      | ok value =>
        cases value with
        | list items =>
          cases h
          have hlive : "live" ≠ "fixture" := by decide
          exact absurd mode hlive
        | _ => cases h

end Homed

end Broker
