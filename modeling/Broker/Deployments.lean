import Broker.JsonStore
import Broker.Redirects
import Broker.Sealing
import Broker.Settings

/-!
# Deployments

The broker as it is started (`createApp`): its settings are made of the environment variables and
checked (`validateConfigForEnvironment`), its store is made, and its services are built of them.
Outside development and test it starts with settings that are fit for it only
(`configProblems_eq_nil_iff`), and the environment is neither of these unless the variables say so.

Then, whatever its routes are sent: what is stored for clients is what their allowlists say, the
sensitive fields of sessions are sealed, the manual mode is off, and no request of Canva is taken for
verified without a signature (`started_safe`).
-/

namespace Broker

open Py Runs Crash Files

/-! ## Checks -/

/-- The components of `Path(file_path)`. -/
def pathOf (filePath : String) : Path :=
  ((filePath.toList.splitOn '/').map String.ofList).filter (· ∉ ["", "."])

/-- What a process finds when it starts. -/
structure Startup where
  context : ConfigContext
  /-- The environment variables. -/
  environ : Dict String String
  /-- The key of the `cryptography` package for an ASCII text, none when it raises. -/
  newFernet : String → Option Fernet
  disk : Disk
  /-- How `create_json_store` ends, for a path and for whether its permissions have to hold. -/
  createJsonStore : String → Bool → Except StoreError Unit
  /-- It ends as a run of `_ensure_file` does on the disk. -/
  createJsonStore_ends : ∀ (store : JsonStore) (filePath : String), store.filePath = pathOf filePath →
    ∃ trace disk', Ends exec store.ensureFile disk trace
      (createJsonStore filePath store.requireSecurePermissions) disk'

/-- `Fernet(key.encode("ascii"))`, none when it raises. -/
def Startup.fernet (startup : Startup) (key : String) : Option Fernet :=
  if isAscii key.toList then startup.newFernet key else none

/-- `create_field_cipher`. -/
def createFieldCipher (startup : Startup) (key : String) : Except PyError FieldCipher :=
  if key = "" then .ok .null
  else (startup.fernet key).elim (.error .valueError) fun f => .ok (.fernet f)

/-- `DEV_LIKE_ENVIRONMENTS`, of a snapshot. -/
def Settings.devLike (settings : Settings) : Bool := devLikeEnvironments.contains settings.environment

/-- `CLIENT_IP_LOG_DIAGNOSTICS_ENVIRONMENTS`. -/
def clientIpLogDiagnosticsEnvironments : List String := ["development", "test", "staging", "uat"]

/-- The origins of `CORS_ORIGIN`. -/
def Settings.corsOrigins (settings : Settings) : List String := splitCsv (some settings.corsOrigin)

/-- The message, if there is a problem. -/
def problemIf (problem : Bool) (message : String) : List String := if problem then [message] else []

/-- The problem with `OAUTH_CLIENT_ID`. -/
def clientIdProblems (oauth : OAuthSettings) : List String :=
  if oauth.clientId = "" then ["OAUTH_CLIENT_ID must be set."]
  else problemIf (oauth.clientId = "canva-dev-app" && !oauth.allowDefaultClientId)
    "OAUTH_CLIENT_ID is the placeholder 'canva-dev-app'. Set it to a non-default client id, or set OAUTH_ALLOW_DEFAULT_CLIENT_ID=true to opt in to the placeholder (only safe when OAUTH_REDIRECT_URI_ALLOWLIST is tightly scoped — otherwise an attacker who guesses the client id can drive an OAuth flow against this broker)."

/-- The advice on how to make a key. -/
def generateKey : String :=
  "Generate one with `python -c \"from cryptography.fernet import Fernet; print(Fernet.generate_key().decode())\"`."

/-- The problem with `STORAGE_ENCRYPTION_KEY`. -/
def storageKeyProblems (startup : Startup) (key : String) : List String :=
  if key = "" then ["STORAGE_ENCRYPTION_KEY must be set outside development/test. " ++ generateKey]
  else problemIf (startup.fernet key).isNone
    ("STORAGE_ENCRYPTION_KEY must be a url-safe base64-encoded 32-byte Fernet key. " ++ generateKey)

/-- The problems that are found in settings for other environments than development and test. -/
def configProblems (startup : Startup) (settings : Settings) : List String :=
  problemIf (truthyStr settings.oauth.clientsParseError) (settings.oauth.clientsParseError.getD "") ++
  problemIf (truthyStr settings.resourceSpace.tenantsParseError)
    (settings.resourceSpace.tenantsParseError.getD "") ++
  problemIf (settings.signing.requestVerificationMode ≠ "required")
    ("CANVA_REQUEST_VERIFICATION_MODE must be 'required' outside development (currently '" ++
      settings.signing.requestVerificationMode ++ "').") ++
  problemIf (settings.signing.canvaClientSecret = "")
    "CANVA_CLIENT_SECRET must be set so the broker can verify Canva signatures." ++
  problemIf (["", "development-signing-secret"].contains settings.signing.assetSecret)
    "ASSET_SIGNING_SECRET must be set to a long random value (the default is unsafe)." ++
  clientIdProblems settings.oauth ++
  problemIf settings.oauth.redirectUriAllowlist.isEmpty
    "OAUTH_REDIRECT_URI_ALLOWLIST must list every redirect_uri Canva uses for this broker (comma-separated, exact match)." ++
  (settings.oauth.clients.entries.flatMap fun entry =>
    problemIf entry.2.redirectUriAllowlist.isEmpty
      ("OAuth client '" ++ entry.1 ++ "' must define a redirect URI allowlist. Use OAUTH_REDIRECT_URI_ALLOWLIST for the primary Canva client or redirectUriAllowlist in OAUTH_CLIENTS_JSON for additional clients.")) ++
  problemIf (settings.corsOrigins.isEmpty || settings.corsOrigins.contains "*")
    "CORS_ORIGIN must be set to one or more specific origins, not '*' (comma-separated, e.g. https://app-<lowercased-app-id>.canva-apps.com,https://www.canva.com)." ++
  problemIf (!(["fixture", "live"].contains settings.resourceSpace.mode))
    ("RESOURCE_SPACE_MODE must be 'fixture' or 'live' (got '" ++ settings.resourceSpace.mode ++
      "'). Any other value is treated as live at runtime, which is easy to misconfigure.") ++
  storageKeyProblems startup settings.storageEncryptionKey ++
  problemIf (settings.clientIpHeader ≠ "" && settings.trustedProxyHosts.isEmpty)
    ("TRUSTED_PROXY_HOSTS must list the CIDRs or addresses of reverse proxies that may set CLIENT_IP_HEADER (" ++
      settings.clientIpHeader ++
      "). The header is ignored for direct connections to prevent client IP spoofing.") ++
  problemIf (settings.clientIpLogDiagnostics && !clientIpLogDiagnosticsEnvironments.contains
      (String.ofList (startup.context.py.unicode.lower settings.environment.toList)))
    ("CLIENT_IP_LOG_DIAGNOSTICS is permitted only when APP_ENV is one of development, test, staging, or uat (currently '" ++
      settings.environment ++
      "'). It logs raw transportPeer addresses; disable before production deploy.")

/-- `validate_config_for_environment`, with the message of the error. -/
def validateConfigForEnvironment (startup : Startup) (settings : Settings) : Except String Unit :=
  if truthyStr (startup.environ.get? "RAILWAY_ENVIRONMENT") && settings.devLike then
    .error ("Refusing to start on Railway with APP_ENV='" ++ settings.environment ++
      "'. Set APP_ENV to production, staging, or uat and provide the required security configuration. Discovery runs belong on localhost, not a deployed Railway service.")
  else if settings.devLike then .ok ()
  else if (configProblems startup settings).isEmpty then .ok ()
  else .error ("Refusing to start in environment '" ++ settings.environment ++
    "'. Fix the following before deploying:\n  - " ++
    "\n  - ".intercalate (configProblems startup settings))

/-! ## Startup -/

/-- The services of a broker that has started: its settings, and the cipher of its store. -/
structure Dependencies where
  config : Settings
  fieldCipher : FieldCipher

/-- What a broker fails to start with. -/
inductive StartupError
  | validation (message : String)
  | store (error : StoreError)
  | raised (error : PyError)

/-- `create_app`, of the variables of the process. -/
def createApp (startup : Startup) : Except StartupError Dependencies := do
  let config ← (createConfig startup.context (configSource none startup.environ)).mapError .raised
  (validateConfigForEnvironment startup config).mapError .validation
  (startup.createJsonStore config.storagePath (!config.devLike)).mapError .store
  let fieldCipher ← (createFieldCipher startup config.storageEncryptionKey).mapError .raised
  return ⟨config, fieldCipher⟩

/-- The settings that the services read, which read the registry of tenants so. -/
def Settings.routeConfig (settings : Settings) (registry : List Json → List Tenant) : RouteConfig where
  environment := settings.environment
  baseUrl := settings.baseUrl
  oauth := settings.oauth.toOAuthConfig
  signing := settings.signing.toSigningConfig
  rateLimit := settings.rateLimit
  resourceSpace :=
    { mode := settings.resourceSpace.mode
      allowedHosts := settings.resourceSpace.allowedHosts
      tenants := registry settings.resourceSpace.tenants
      ssoEnabled := settings.resourceSpace.ssoEnabled
      ssoPendingTtlSeconds := settings.resourceSpace.ssoPendingTtlSeconds
      ssoReplayRetentionSeconds := settings.resourceSpace.ssoReplayRetentionSeconds }
  clientIpHeader := settings.clientIpHeader
  trustedProxyHosts := settings.trustedProxyHosts
  clientId := settings.oauth.clientId
  ssoSystemKey := settings.resourceSpace.ssoSystemKey

/-- A broker that has started, with the hosts that it finds. -/
def Dependencies.site (deps : Dependencies) (unicode : Unicode) (rawHost : List Char → Option (List Char))
    (registry : List Json → List Tenant) : Site :=
  ⟨unicode, rawHost, deps.config.routeConfig registry, deps.fieldCipher⟩

/-! ## What is checked -/

/-- Settings that are fit for other environments than development and test. -/
structure Deployable (startup : Startup) (settings : Settings) : Prop where
  parsed : truthyStr settings.oauth.clientsParseError = false ∧
    truthyStr settings.resourceSpace.tenantsParseError = false
  verified : settings.signing.requestVerificationMode = "required"
  canvaClientSecret : settings.signing.canvaClientSecret ≠ ""
  assetSecret : settings.signing.assetSecret ∉ ["", "development-signing-secret"]
  clientId : settings.oauth.clientId ≠ "" ∧
    (settings.oauth.clientId = "canva-dev-app" → settings.oauth.allowDefaultClientId = true)
  redirectUriAllowlist : settings.oauth.redirectUriAllowlist ≠ []
  clients : ∀ id client, settings.oauth.clients.get? id = some client → client.redirectUriAllowlist ≠ []
  corsOrigins : settings.corsOrigins ≠ [] ∧ "*" ∉ settings.corsOrigins
  mode : settings.resourceSpace.mode ∈ ["fixture", "live"]
  keyed : settings.storageEncryptionKey ≠ "" ∧
    ∃ f, startup.fernet settings.storageEncryptionKey = some f
  proxies : settings.clientIpHeader ≠ "" → settings.trustedProxyHosts ≠ []
  diagnostics : settings.clientIpLogDiagnostics = true → String.ofList
    (startup.context.py.unicode.lower settings.environment.toList) ∈ clientIpLogDiagnosticsEnvironments

theorem problemIf_eq_nil_iff {problem : Bool} {message : String} :
    problemIf problem message = [] ↔ problem = false := by
  cases problem <;> simp [problemIf]

theorem clientIdProblems_eq_nil_iff {oauth : OAuthSettings} :
    clientIdProblems oauth = [] ↔
      oauth.clientId ≠ "" ∧ (oauth.clientId = "canva-dev-app" → oauth.allowDefaultClientId = true) := by
  rw [clientIdProblems]
  split_ifs with h
  · exact iff_of_false id fun hne => hne.1 h
  · rw [problemIf_eq_nil_iff, and_iff_right h, Bool.and_eq_false_imp, decide_eq_true_eq, Bool.not_eq_false']

theorem storageKeyProblems_eq_nil_iff {startup : Startup} {key : String} :
    storageKeyProblems startup key = [] ↔ key ≠ "" ∧ ∃ f, startup.fernet key = some f := by
  rw [storageKeyProblems]
  split_ifs with h
  · exact iff_of_false id fun hne => hne.1 h
  · rw [problemIf_eq_nil_iff, and_iff_right h, Option.isNone_eq_false_iff, Option.isSome_iff_exists]

/-- No problem is found exactly in settings that are fit. -/
theorem configProblems_eq_nil_iff {startup : Startup} {settings : Settings} :
    configProblems startup settings = [] ↔ Deployable startup settings := by
  have hclients := Dict.forall_get?_iff settings.oauth.clients
    (p := fun _ client => client.redirectUriAllowlist ≠ [])
  simp only [configProblems, List.append_eq_nil_iff, problemIf_eq_nil_iff, clientIdProblems_eq_nil_iff,
    storageKeyProblems_eq_nil_iff, List.flatMap_eq_nil_iff, decide_eq_false_iff_not, not_not,
    List.isEmpty_eq_false_iff, Bool.or_eq_false_iff, Bool.not_eq_false', Bool.and_eq_false_imp,
    List.contains_eq_mem, decide_eq_true_eq]
  constructor
  · rintro ⟨⟨⟨⟨⟨⟨⟨⟨⟨⟨⟨⟨h₁, h₂⟩, h₃⟩, h₄⟩, h₅⟩, h₆⟩, h₇⟩, h₈⟩, h₉⟩, h₁₀⟩, h₁₁⟩, h₁₂⟩, h₁₃⟩
    exact ⟨⟨h₁, h₂⟩, h₃, h₄, h₅, h₆, h₇, hclients.2 h₈, h₉, h₁₀, h₁₁, h₁₂, h₁₃⟩
  · rintro ⟨⟨h₁, h₂⟩, h₃, h₄, h₅, h₆, h₇, h₈, h₉, h₁₀, h₁₁, h₁₂, h₁₃⟩
    exact ⟨⟨⟨⟨⟨⟨⟨⟨⟨⟨⟨⟨h₁, h₂⟩, h₃⟩, h₄⟩, h₅⟩, h₆⟩, h₇⟩, hclients.1 h₈⟩, h₉⟩, h₁₀⟩, h₁₁⟩, h₁₂⟩, h₁₃⟩

/-- The environment is one of development and test only if a variable says so. -/
theorem set_of_devLike {source : Dict String String}
    (h : devLikeEnvironments.contains (environmentName source) = true) :
    ∃ name ∈ ["APP_ENV", "NODE_ENV"], ∃ value, source.get? name = some value ∧
      String.ofList (strip value.toList) ∈ devLikeEnvironments := by
  rw [environmentName, List.contains_iff_mem] at h
  cases hname : [source.get? "APP_ENV", source.get? "NODE_ENV"].find? truthyStr with
  | none =>
    rw [hname] at h
    exact absurd h (by decide +kernel)
  | some value =>
    rw [hname, Option.bind_some, id] at h
    obtain ⟨text, rfl⟩ : ∃ text, value = some text := by
      have htruthy := List.find?_some hname
      cases value with
      | none => cases htruthy
      | some text => exact ⟨text, rfl⟩
    have hmem := List.mem_of_find?_eq_some hname
    rw [List.mem_cons, List.mem_singleton] at hmem
    rcases hmem with hmem | hmem
    · exact ⟨"APP_ENV", List.mem_cons_self, text, hmem.symm, h⟩
    · exact ⟨"NODE_ENV", List.mem_cons_of_mem _ List.mem_cons_self, text, hmem.symm, h⟩

/-- What a broker that has started was made of. -/
theorem started_of_createApp {startup : Startup} {deps : Dependencies} (h : createApp startup = .ok deps) :
    createConfig startup.context startup.environ = .ok deps.config ∧
      validateConfigForEnvironment startup deps.config = .ok () ∧
      startup.createJsonStore deps.config.storagePath (!deps.config.devLike) = .ok () ∧
      createFieldCipher startup deps.config.storageEncryptionKey = .ok deps.fieldCipher := by
  rw [createApp] at h
  obtain ⟨config, hconfig, h⟩ := exists_ok_of_bind h
  obtain ⟨_, hvalid, h⟩ := exists_ok_of_bind h
  obtain ⟨_, hstore, h⟩ := exists_ok_of_bind h
  obtain ⟨fieldCipher, hcipher, h⟩ := exists_ok_of_bind h
  obtain rfl := Except.ok.inj h
  exact ⟨mapError_eq_ok.1 hconfig, mapError_eq_ok.1 hvalid, mapError_eq_ok.1 hstore,
    mapError_eq_ok.1 hcipher⟩

/-- A broker that does not start for its store raises an `OSError`, or a `RuntimeError` outside
    development and test. -/
theorem store_of_createApp {startup : Startup} {error : StoreError}
    (h : createApp startup = .error (.store error)) :
    ∃ settings, createConfig startup.context startup.environ = .ok settings ∧
      startup.createJsonStore settings.storagePath (!settings.devLike) = .error error := by
  rw [createApp] at h
  rcases bind_eq_error.1 h with h | ⟨config, hconfig, h⟩
  · obtain ⟨_, -, he⟩ := mapError_eq_error.1 h
    cases he
  rcases bind_eq_error.1 h with h | ⟨_, -, h⟩
  · obtain ⟨_, -, he⟩ := mapError_eq_error.1 h
    cases he
  rcases bind_eq_error.1 h with h | ⟨_, -, h⟩
  · obtain ⟨_, hstore, he⟩ := mapError_eq_error.1 h
    cases he
    exact ⟨config, mapError_eq_ok.1 hconfig, hstore⟩
  rcases bind_eq_error.1 h with h | ⟨_, -, h⟩
  · obtain ⟨_, -, he⟩ := mapError_eq_error.1 h
    cases he
  · cases h

/-- A path that names a file is that of a store. -/
theorem Startup.raises_createJsonStore (startup : Startup) {filePath : String} {secure : Bool}
    {error : StoreError} (named : pathOf filePath ≠ [])
    (h : startup.createJsonStore filePath secure = .error error) :
    error = .osError ∨ error = .runtimeError ∧ secure = true := by
  obtain ⟨trace, disk', hends⟩ :=
    startup.createJsonStore_ends ⟨pathOf filePath, secure, 0, fun _ => "", named⟩ filePath rfl
  rw [h] at hends
  exact hends.raises (JsonStore.raises_ensureFile _)

theorem createFieldCipher_ok_iff {startup : Startup} {key : String} :
    (∃ fieldCipher, createFieldCipher startup key = .ok fieldCipher) ↔
      (key ≠ "" → ∃ f, startup.fernet key = some f) := by
  rw [createFieldCipher]
  split_ifs with hkey
  · exact iff_of_true ⟨_, rfl⟩ fun hne => absurd hkey hne
  · rw [imp_iff_right hkey]
    cases startup.fernet key with
    | none =>
      refine iff_of_false ?_ ?_
      · rintro ⟨_, h⟩
        cases h
      · rintro ⟨_, h⟩
        cases h
    | some f => exact iff_of_true ⟨_, rfl⟩ ⟨f, rfl⟩

/-- The settings are valid exactly if they are fit for where they are. -/
theorem validateConfigForEnvironment_ok_iff {startup : Startup} {settings : Settings} :
    validateConfigForEnvironment startup settings = .ok () ↔
      (settings.devLike = true → truthyStr (startup.environ.get? "RAILWAY_ENVIRONMENT") = false) ∧
        (settings.devLike = false → Deployable startup settings) := by
  rw [validateConfigForEnvironment, ← configProblems_eq_nil_iff, ← List.isEmpty_iff]
  cases settings.devLike with
  | true => cases truthyStr (startup.environ.get? "RAILWAY_ENVIRONMENT") <;> simp
  | false => cases (configProblems startup settings).isEmpty <;> simp

/-- A broker starts exactly if its settings can be read and are fit for where it is, and its store can
    be made: in development and test, it is not on Railway and its key, if it has any, is one. A store
    whose path names a file cannot be made for an `OSError`, or outside development and test because
    its permissions cannot be restricted. -/
theorem createApp_ok_iff (startup : Startup) :
    ((∃ deps, createApp startup = .ok deps) ↔
      ∃ settings, createConfig startup.context startup.environ = .ok settings ∧
        startup.createJsonStore settings.storagePath (!settings.devLike) = .ok () ∧
        (settings.devLike = true → truthyStr (startup.environ.get? "RAILWAY_ENVIRONMENT") = false ∧
          (settings.storageEncryptionKey ≠ "" →
            ∃ f, startup.fernet settings.storageEncryptionKey = some f)) ∧
        (settings.devLike = false → Deployable startup settings)) ∧
    ∀ error, createApp startup = .error (.store error) → ∃ settings,
      createConfig startup.context startup.environ = .ok settings ∧
        (pathOf settings.storagePath ≠ [] →
          error = .osError ∨ error = .runtimeError ∧ settings.devLike = false) := by
  refine ⟨⟨?_, ?_⟩, ?_⟩
  · rintro ⟨deps, h⟩
    obtain ⟨hconfig, hvalidated, hstore, hbuilt⟩ := started_of_createApp h
    obtain ⟨hdev, hfit⟩ := validateConfigForEnvironment_ok_iff.1 hvalidated
    exact ⟨deps.config, hconfig, hstore, fun h => ⟨hdev h, createFieldCipher_ok_iff.1 ⟨_, hbuilt⟩⟩, hfit⟩
  · rintro ⟨settings, hconfig, hstore, hdev, hfit⟩
    have hvalidated := validateConfigForEnvironment_ok_iff.2 ⟨fun h => (hdev h).1, hfit⟩
    have hkey : settings.storageEncryptionKey ≠ "" →
        ∃ f, startup.fernet settings.storageEncryptionKey = some f := by
      cases h : settings.devLike with
      | true => exact (hdev h).2
      | false => exact fun _ => (hfit h).keyed.2
    obtain ⟨fieldCipher, hbuilt⟩ := createFieldCipher_ok_iff.2 hkey
    refine ⟨⟨settings, fieldCipher⟩, ?_⟩
    have hsource : configSource none startup.environ = startup.environ := rfl
    rw [createApp, hsource, hconfig]
    dsimp only [bind, Except.bind, Except.mapError]
    rw [hvalidated]
    dsimp only
    rw [hstore]
    dsimp only
    rw [hbuilt]
    rfl
  · intro error h
    obtain ⟨settings, hconfig, hstore⟩ := store_of_createApp h
    refine ⟨settings, hconfig, fun named => ?_⟩
    rcases startup.raises_createJsonStore named hstore with h | ⟨h, hsecure⟩
    · exact .inl h
    · exact .inr ⟨h, Bool.not_eq_true' _ ▸ hsecure⟩

/-! ## Runs -/

/-- `canva_user_uninstall`, up to what it has the services do. -/
def canvaUserUninstall (depth : ℕ) (canva : CanvaSigningConfig) (headers : Dict String String)
    (path rawBody : String) (now : ℤ) : Except PyError HttpAction := do
  let verification ← canva.verifyCanvaPostRequest headers path rawBody now
  return .userUninstall (verification.ok && !verification.skipped)
    (if rawBody = "" then some (.dict []) else (Json.loads depth rawBody.toList).toOption)

/-- The request carries a signature of its path and its body, of a time that is near. -/
def Signed (canva : CanvaSigningConfig) (headers : Dict String String) (path rawBody : String) (now : ℤ) :
    Prop :=
  ∃ secret timestamp, canva.decodeSecret = some secret ∧
    headers.get? "x-canva-timestamp" = some timestamp ∧ canva.InTime timestamp now ∧
    calculateSignature secret ("v1:" ++ timestamp ++ ":" ++ path ++ ":" ++ rawBody) ∈
      splitSignatures (headers.get? "x-canva-signatures")

/-- A run of the routes in which nothing is stored or trusted that the settings do not allow. -/
structure SafeSite (site : Site) (canva : CanvaSigningConfig) (es : List HttpEvent) : Prop where
  codes : ∀ k r, ((routes site).after es).world.store.authorizationCodes.get? k = some r →
    Allowed site.config r.clientId r.redirectUri r.codeChallenge r.codeChallengeMethod ∧ r.session.Sealed
  handoffs : ∀ k r, ((routes site).after es).world.store.pendingSsoStates.get? k = some r →
    Allowed site.config r.clientId r.redirectUri r.codeChallenge r.codeChallengeMethod
  accessTokens : ∀ k r, ((routes site).after es).world.store.accessTokens.get? k = some r → r.session.Sealed
  refreshTokens : ∀ k r, ((routes site).after es).world.store.refreshTokens.get? k = some r →
    r.session.Sealed
  /-- The URLs with a code that are answered. -/
  urls : ∀ pre e post response url, es = pre ++ e :: post →
    (routes site).out ((routes site).after pre) e = .ok response → response.codeUrl? = some url →
    ∃ clientId redirectUri code, BuiltFrom site clientId redirectUri code url
  /-- The manual mode is off. -/
  manual : ∀ form, shouldUseManualTestMode site.config form = false
  /-- A webhook revokes the tokens of users that a signed body names. -/
  signed : ∀ depth headers path rawBody now action userId tenantId,
    canvaUserUninstall depth canva headers path rawBody now = .ok action →
    action.serviceAction site = some (.revokeTokensForUser userId tenantId) →
    Signed canva headers path rawBody now ∧ ∃ body, Json.loads depth rawBody.toList = .ok body ∧
      body.get? "user_id" = some (.str userId) ∧ body.get? "tenant_id" = some (.str tenantId)

/-- The services of the routes have the cipher of the deployment. -/
theorem keyed_of_mem {site : Site} {f : Fernet} (cipher : site.fieldCipher = .fernet f)
    {es : List HttpEvent} {e : Event} (h : e ∈ serviceRun site es) : e.service.Keyed := by
  obtain ⟨_, -, he⟩ := List.mem_filterMap.1 h
  obtain ⟨_, -, rfl⟩ := Option.map_eq_some_iff.1 he
  exact ⟨f, cipher⟩

/-- The sessions of tokens are sealed. -/
theorem stored_sessions_sealed {unicode : Unicode} {es : List Event} (keyed : ∀ e ∈ es, e.service.Keyed) :
    (∀ k r, ((broker unicode).after es).store.accessTokens.get? k = some r → r.session.Sealed) ∧
      ∀ k r, ((broker unicode).after es).store.refreshTokens.get? k = some r → r.session.Sealed :=
  ⟨fun _ _ h => access_session (fun _ clientId integration hs => hs.stamp clientId integration)
      (fun _ _ _ split _ _ _ _ _ mints => mints.sealed keyed split) h,
    fun _ _ h => refresh_session (fun _ clientId integration hs => hs.stamp clientId integration)
      (fun _ _ _ split _ _ _ _ _ mints _ => mints.sealed keyed split) h⟩

/-- What is verified has been signed. -/
theorem signed_of_accepted {canva : CanvaSigningConfig}
    (required : canva.requestVerificationMode = "required") {headers : Dict String String}
    {path rawBody : String} {now : ℤ} {result : VerificationResult}
    (h : canva.verifyCanvaPostRequest headers path rawBody now = .ok result) (ok : result.ok = true) :
    Signed canva headers path rawBody now := by
  cases hsecret : canva.decodeSecret with
  | none =>
    rw [CanvaSigningConfig.verifyCanvaPostRequest, shouldVerify_required required, hsecret] at h
    obtain rfl := Except.ok.inj h
    cases ok
  | some secret =>
    obtain ⟨result', hresult', hok⟩ := verifyCanvaPostRequest_judges required hsecret headers path rawBody now
    obtain rfl := Except.ok.inj (h.symm.trans hresult')
    obtain ⟨timestamp, htimestamp, htime, hsigned⟩ := hok.1 ok
    exact ⟨secret, timestamp, hsecret, htimestamp, htime, hsigned⟩

/-- A revocation is for the user that the body names. -/
theorem named_of_uninstallAction {body : Option Json} {userId tenantId : String}
    (h : uninstallAction body = some (.revokeTokensForUser userId tenantId)) :
    ∃ value, body = some value ∧ value.get? "user_id" = some (.str userId) ∧
      value.get? "tenant_id" = some (.str tenantId) := by
  have hstr : ∀ {value : Json} {s : String}, jsonStr value = some s → value = .str s := by
    intro value s hs
    cases value with
    | str t => exact congrArg Json.str (Option.some.inj hs)
    | _ => cases hs
  rw [uninstallAction] at h
  split_ifs at h
  cases huser : (body.bind (·.get? "user_id")).bind jsonStr with
  | none =>
    rw [huser] at h
    cases h
  | some u =>
    cases htenant : (body.bind (·.get? "tenant_id")).bind jsonStr with
    | none =>
      rw [huser, htenant] at h
      cases h
    | some t =>
      rw [huser, htenant] at h
      cases h
      obtain ⟨userValue, huserValue, hu⟩ := Option.bind_eq_some_iff.1 huser
      obtain ⟨tenantValue, htenantValue, ht⟩ := Option.bind_eq_some_iff.1 htenant
      obtain ⟨value, rfl, huserValue⟩ := Option.bind_eq_some_iff.1 huserValue
      exact ⟨value, rfl, hstr hu ▸ huserValue, hstr ht ▸ htenantValue⟩

theorem signed_of_uninstall {site : Site} {canva : CanvaSigningConfig}
    (required : canva.requestVerificationMode = "required") {depth : ℕ} {headers : Dict String String}
    {path rawBody : String} {now : ℤ} {action : HttpAction} {userId tenantId : String}
    (h : canvaUserUninstall depth canva headers path rawBody now = .ok action)
    (revokes : action.serviceAction site = some (.revokeTokensForUser userId tenantId)) :
    Signed canva headers path rawBody now ∧ ∃ body, Json.loads depth rawBody.toList = .ok body ∧
      body.get? "user_id" = some (.str userId) ∧ body.get? "tenant_id" = some (.str tenantId) := by
  rw [canvaUserUninstall] at h
  obtain ⟨result, hresult, h⟩ := exists_ok_of_bind h
  obtain rfl := Except.ok.inj h
  rw [HttpAction.serviceAction] at revokes
  generalize hparsed : (if rawBody = "" then some (Json.dict [])
    else (Json.loads depth rawBody.toList).toOption) = parsed at revokes
  split_ifs at revokes with hverified
  rw [Bool.and_eq_true] at hverified
  refine ⟨signed_of_accepted required hresult hverified.1, ?_⟩
  obtain ⟨body, rfl, huser, htenant⟩ := named_of_uninstallAction revokes
  split_ifs at hparsed
  · obtain rfl := Option.some.inj hparsed
    cases huser
  · cases hloads : Json.loads depth rawBody.toList with
    | error e =>
      rw [hloads] at hparsed
      cases hparsed
    | ok value =>
      rw [hloads] at hparsed
      obtain rfl := Option.some.inj hparsed
      exact ⟨_, rfl, huser, htenant⟩

/-- Outside development and test, what a cipher with a key and a required verification make of a run. -/
theorem safeSite_of_production {site : Site} {canva : CanvaSigningConfig} {f : Fernet}
    (production : devLikeEnvironments.contains site.config.environment = false)
    (cipher : site.fieldCipher = .fernet f) (required : canva.requestVerificationMode = "required")
    (es : List HttpEvent) : SafeSite site canva es := by
  have hchecked : ∀ e ∈ serviceRun site es, e.action.Checked site.config := fun e he =>
    checked_of_mem production he
  have hservices : ∀ e ∈ serviceRun site es, e.service.Keyed := fun e he => keyed_of_mem cipher he
  have hsealed := @stored_sessions_sealed site.unicode _ hservices
  refine ⟨fun k r hr => ?_, fun k r hr => ?_, ?_, ?_, fun pre e post response url _ hout hurl => ?_,
    fun form => ?_, fun depth headers path rawBody now action userId tenantId huninstall hrevokes => ?_⟩
  · rw [world_after] at hr
    exact ⟨code_allowed hchecked hr, code_sealed hservices hr⟩
  · rw [world_after] at hr
    exact pending_allowed hchecked hr
  · rw [world_after]
    exact hsealed.1
  · rw [world_after]
    exact hsealed.2
  · obtain ⟨clientId, redirectUri, code, hbuilt, -⟩ := url_allowed production hout hurl
    exact ⟨clientId, redirectUri, code, hbuilt⟩
  · rw [shouldUseManualTestMode, manualTestModeEnabled, production, Bool.false_and]
  · exact signed_of_uninstall required huninstall hrevokes

/-- A broker that has started is in development or test only if it is told so, and not on Railway.
    Otherwise its settings are fit for where it is, and whatever its routes are sent, nothing is stored
    or trusted that they do not allow. -/
theorem started_safe {startup : Startup} {deps : Dependencies} (h : createApp startup = .ok deps)
    (rawHost : List Char → Option (List Char)) (registry : List Json → List Tenant) (es : List HttpEvent) :
    (deps.config.devLike = true → truthyStr (startup.environ.get? "RAILWAY_ENVIRONMENT") = false ∧
      ∃ name ∈ ["APP_ENV", "NODE_ENV"], ∃ value, startup.environ.get? name = some value ∧
        String.ofList (strip value.toList) ∈ devLikeEnvironments) ∧
    (deps.config.devLike = false → Deployable startup deps.config ∧
      SafeSite (deps.site startup.context.py.unicode rawHost registry)
        deps.config.signing.toCanvaSigningConfig es) := by
  obtain ⟨hconfig, hvalid, -, hcipher⟩ := started_of_createApp h
  obtain ⟨henvironment, -⟩ := createConfig_spec hconfig
  obtain ⟨hdevLike, hfit⟩ := validateConfigForEnvironment_ok_iff.1 hvalid
  refine ⟨fun hdev => ⟨hdevLike hdev, ?_⟩, fun hproduction => ⟨hfit hproduction, ?_⟩⟩
  · rw [Settings.devLike, henvironment] at hdev
    exact set_of_devLike hdev
  · obtain ⟨hkey, f, hf⟩ := (hfit hproduction).keyed
    rw [createFieldCipher, if_neg hkey, hf] at hcipher
    have hkeyed : (deps.site startup.context.py.unicode rawHost registry).fieldCipher = .fernet f :=
      (Except.ok.inj hcipher).symm
    exact @safeSite_of_production (deps.site startup.context.py.unicode rawHost registry) _ f hproduction hkeyed
      (hfit hproduction).verified es

namespace Sample

/-- The variables of a deployment in production. -/
def environ : Dict String String :=
  [("APP_ENV", "production"), ("CANVA_REQUEST_VERIFICATION_MODE", "required"),
    ("CANVA_CLIENT_SECRET", "c2VjcmV0"), ("ASSET_SIGNING_SECRET", "asset-secret"),
    ("OAUTH_CLIENT_ID", "canva-client"), ("OAUTH_REDIRECT_URI_ALLOWLIST", "https://canva.example/return"),
    ("CORS_ORIGIN", "https://www.canva.com"), ("RESOURCE_SPACE_MODE", "live"),
    ("STORAGE_ENCRYPTION_KEY", "MDEyMzQ1Njc4OTAxMjM0NTY3ODkwMTIzNDU2Nzg5MDE=")].foldl
    (fun environ item => environ.set item.1 item.2) ∅

/-- A startup on an empty disk, on which everything can be done. -/
def startup : Startup where
  context := configContext
  environ
  newFernet key := ((Base64.decode key.toList).filter (·.length = 32)).map fun _ =>
    ⟨fun _ _ => "gAAAAA", fun _ => some "session-key".toUTF8⟩
  disk := JsonStore.emptyDisk
  createJsonStore _ _ := .ok ()
  createJsonStore_ends store filePath _ := by
    obtain ⟨disk', heval, -⟩ := @JsonStore.eval_ensureFile store JsonStore.emptyDisk ⟨rfl, rfl⟩
    obtain ⟨trace, hends⟩ : ∃ trace, Ends exec store.ensureFile JsonStore.emptyDisk trace
        (eval exec store.ensureFile JsonStore.emptyDisk).1
        (eval exec store.ensureFile JsonStore.emptyDisk).2 := ends_eval _ _
    rw [heval] at hends
    exact ⟨trace, disk', hends⟩

theorem startup_starts : ∃ deps, createApp startup = .ok deps ∧ deps.config.devLike = false := by
  have hstarts : (createApp startup).toOption.any (!·.config.devLike) = true := by decide +kernel
  cases h : createApp startup with
  | error e =>
    rw [h] at hstarts
    cases hstarts
  | ok deps =>
    rw [h] at hstarts
    exact ⟨deps, rfl, by simpa [Except.toOption] using hstarts⟩

end Sample

theorem started_safe_production :
    ∃ deps, createApp Sample.startup = .ok deps ∧ Deployable Sample.startup deps.config ∧
      SafeSite (deps.site .ascii (fun _ => none) fun _ => [])
        deps.config.signing.toCanvaSigningConfig Sample.passwordRun := by
  obtain ⟨deps, hstarts, hproduction⟩ := Sample.startup_starts
  exact ⟨deps, hstarts,
    (started_safe hstarts (fun _ => none) (fun _ => []) Sample.passwordRun).2 hproduction⟩

end Broker
