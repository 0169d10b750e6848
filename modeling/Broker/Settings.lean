import Broker.Continuations
import Broker.Downloads
import Broker.Lib.JsonText
import Broker.Lib.Parts
import Broker.Signatures

/-!
# Settings

The snapshot of all settings (`Settings`), as it is made of the environment variables
(`createConfig`). Those of the OAuth clients beyond the first are JSON: what is written for a list of
clients is read back, and the clients that are configured are these and the first one, unless one of
them has its id (`configured_clients`).
-/

namespace Broker

open Py

/-! ## The snapshot -/

/-- `OAuthConfig`. -/
structure OAuthSettings extends OAuthConfig where
  issuer : String
  clientId : String
  allowDefaultClientId : Bool
  redirectUriAllowlist : List String
  clientsParseError : Option String

/-- `SigningConfig`. -/
structure SigningSettings extends SigningConfig, CanvaSigningConfig

/-- `ResourceSpaceConfig`. -/
structure ResourceSpaceSettings where
  mode : String
  allowedHosts : List String
  tenants : List Json
  tenantsParseError : Option String
  containerSource : String
  assetAllowedHosts : List String
  assetProxyMaxBytes : ℤ
  ssoEnabled : Bool
  ssoSystemKey : String
  ssoPendingTtlSeconds : ℤ
  ssoReplayRetentionSeconds : ℤ

/-- The snapshot, with all of its settings. -/
structure Settings where
  environment : String
  port : ℤ
  baseUrl : String
  corsOrigin : String
  storagePath : String
  storageEncryptionKey : String
  storePruneIntervalSeconds : ℤ
  clientIpHeader : String
  trustedProxyHosts : List String
  clientIpLogKey : String
  clientIpLogDiagnostics : Bool
  oauth : OAuthSettings
  signing : SigningSettings
  rateLimit : RateLimitConfig
  resourceSpace : ResourceSpaceSettings
  upload : UploadConfig
  /-- `metrics.bearer_token`. -/
  metricsBearerToken : String

/-- What `create_config` finds around the environment variables. -/
structure ConfigContext where
  py : Interpreter
  /-- The message of the `JSONDecodeError` of a text. -/
  decodeMessage : String → String
  /-- `_default_storage_path()`. -/
  storagePath : String

/-! ## Values -/

/-- `str(value).strip()`. -/
def strippedText (py : Interpreter) (value : Json) : String :=
  String.ofList (strip (value.text py.repr).toList)

/-- `_split_csv`. -/
def splitCsv : Option String → List String
  | none => []
  | some value => ((strippedParts ',' value.toList).map String.ofList).filter (· ≠ "")

/-- `_parse_bool`. -/
def parseBool (unicode : Unicode) : Option String → Bool
  | none => false
  | some value =>
    ["1", "true", "yes", "on"].contains (String.ofList (unicode.lower (strip value.toList)))

/-- `int(source.get(name, default))`. -/
def intSetting (source : Dict String String) (name : String) (default : ℤ) : Except PyError ℤ :=
  match source.get? name with
  | none => .ok default
  | some value => (int value).elim (.error .valueError) .ok

/-- The list in an environment variable: its entries, or what is wrong with it. -/
def jsonArray (context : ConfigContext) (name value : String) :
    Except PyError (Except String (List Json)) :=
  match Json.loads context.py.depth value.toList with
  | .error .value =>
    .ok (.error (name ++ " must be valid JSON (" ++ context.decodeMessage value ++ ")."))
  | .error .digits => .error .valueError
  | .error .recursion => .error .recursionError
  | .ok (.list entries) => .ok (.ok entries)
  | .ok _ => .ok (.error (name ++ " must be a JSON array."))

/-- `entry.get(name) or entry.get(other) or ""`. -/
def fieldOr (entry : Json) (name other : String) : Json :=
  ((entry.get? name).getD .null).orElse (((entry.get? other).getD .null).orElse (.str ""))

/-! ## Tenants -/

/-- The loop of `_parse_tenant_json`: an entry is kept as it is. -/
def checkTenants (py : Interpreter) : (index : ℕ) → List Json → Except String Unit
  | _, [] => .ok ()
  | index, entry :: entries =>
    if !entry.isDict then
      .error s!"RESOURCE_SPACE_TENANTS_JSON entry {index} must be an object."
    else if strippedText py (((entry.get? "id").getD .null).orElse (.str "")) = "" ∨
        strippedText py (fieldOr entry "baseUrl" "base_url") = "" then
      .error s!"RESOURCE_SPACE_TENANTS_JSON entry {index} must include id and baseUrl."
    else checkTenants py (index + 1) entries

/-- `_parse_tenant_json`. -/
def parseTenantJson (context : ConfigContext) (value : Option String) :
    Except PyError (List Json × Option String) :=
  match value with
  | none | some "" => .ok ([], none)
  | some value => do
    match ← jsonArray context "RESOURCE_SPACE_TENANTS_JSON" value with
    | .error problem => return ([], some problem)
    | .ok entries =>
      match checkTenants context.py 0 entries with
      | .error problem => return ([], some problem)
      | .ok () => return (entries, none)

/-! ## Clients -/

/-- The redirect URIs of an entry. -/
def clientAllowlist (py : Interpreter) (index : ℕ) (entry : Json) : Except String (List String) :=
  let raw :=
    match (entry.get? "redirectUriAllowlist").getD .null with
    | .null => (entry.get? "redirect_uri_allowlist").getD .null
    | raw => raw
  match raw with
  | .str uris => .ok (splitCsv (some uris))
  | .list items => .ok ((items.map (strippedText py)).filter (· ≠ ""))
  | .null => .ok []
  | _ => .error s!"OAUTH_CLIENTS_JSON entry {index} redirectUriAllowlist must be a string or array."

/-- An entry of `OAUTH_CLIENTS_JSON`. -/
def oauthClient (py : Interpreter) (index : ℕ) (entry : Json) : Except String OAuthClientConfig :=
  if !entry.isDict then .error s!"OAUTH_CLIENTS_JSON entry {index} must be an object."
  else
    let clientId := strippedText py (fieldOr entry "clientId" "client_id")
    if clientId = "" then .error s!"OAUTH_CLIENTS_JSON entry {index} must include clientId."
    else
      let integration :=
        match (entry.get? "integration").getD .null with
        | .null => none
        | raw => if strippedText py raw = "" then none else some (strippedText py raw)
      (clientAllowlist py index entry).map fun redirectUriAllowlist =>
        { clientId, integration, redirectUriAllowlist }

/-- The loop of `_parse_oauth_clients_json`. -/
def oauthClients (py : Interpreter) : (index : ℕ) → List Json → Dict String OAuthClientConfig →
    Except String (Dict String OAuthClientConfig)
  | _, [], clients => .ok clients
  | index, entry :: entries, clients =>
    match oauthClient py index entry with
    | .error problem => .error problem
    | .ok client => oauthClients py (index + 1) entries (clients.set client.clientId client)

/-- `_parse_oauth_clients_json`. -/
def parseOauthClientsJson (context : ConfigContext) (value : Option String) :
    Except PyError (Dict String OAuthClientConfig × Option String) :=
  match value with
  | none | some "" => .ok (∅, none)
  | some value => do
    match ← jsonArray context "OAUTH_CLIENTS_JSON" value with
    | .error problem => return (∅, some problem)
    | .ok entries =>
      match oauthClients context.py 0 entries ∅ with
      | .error problem => return (∅, some problem)
      | .ok clients => return (clients, none)

/-! ## The environment -/

/-- `DEFAULT_TRUSTED_PROXY_HOSTS`. -/
def defaultTrustedProxyHosts : String :=
  "10.0.0.0/8,172.16.0.0/12,192.168.0.0/16,127.0.0.0/8,100.64.0.0/10"

/-- The variables that `create_config` reads: those that it is given, or those of the process. -/
def configSource (env : Option (Dict String String)) (environ : Dict String String) : Dict String String :=
  match env with
  | none => environ
  | some env =>
    if !env.contains "APP_ENV" && !env.contains "NODE_ENV" &&
        truthyStr (environ.get? "PYTEST_CURRENT_TEST") then
      env.entries.foldl (fun source item => source.set item.1 item.2)
        ((∅ : Dict String String).set "APP_ENV" "development")
    else env

/-- The name of the environment, which is production unless it is set. -/
def environmentName (source : Dict String String) : String :=
  let name := [source.get? "APP_ENV", source.get? "NODE_ENV"].find? truthyStr
  String.ofList (strip ((name.bind id).getD "production").toList)

/-- The clients that are configured: the first one, and those of `OAUTH_CLIENTS_JSON`. -/
def configuredClients (clientId : String) (redirectUriAllowlist : List String)
    (extra : Dict String OAuthClientConfig) : Dict String OAuthClientConfig :=
  extra.entries.foldl (fun clients entry => clients.set entry.1 entry.2)
    (if clientId = "" then ∅
      else (∅ : Dict String OAuthClientConfig).set clientId
        ⟨clientId, some "canva", redirectUriAllowlist⟩)

/-- `create_config`, of these variables. -/
def createConfig (context : ConfigContext) (source : Dict String String) : Except PyError Settings := do
  let unicode := context.py.unicode
  let port ← intSetting source "PORT" 3001
  let baseUrl := (source.get? "BASE_URL").getD s!"http://localhost:{port}"
  let clientId := (source.get? "OAUTH_CLIENT_ID").getD "canva-dev-app"
  let redirectUriAllowlist := splitCsv (source.get? "OAUTH_REDIRECT_URI_ALLOWLIST")
  let (extra, clientsParseError) ← parseOauthClientsJson context (source.get? "OAUTH_CLIENTS_JSON")
  let environment := environmentName source
  let devLike := devLikeEnvironments.contains environment
  let (tenants, tenantsParseError) ← parseTenantJson context (source.get? "RESOURCE_SPACE_TENANTS_JSON")
  let clientIpHeader := (source.get? "CLIENT_IP_HEADER").getD (if devLike then "" else "x-real-ip")
  let trustedProxyHosts :=
    match source.get? "TRUSTED_PROXY_HOSTS" with
    | some raw => splitCsv (some raw)
    | none => if devLike then [] else splitCsv (some defaultTrustedProxyHosts)
  let storePruneIntervalSeconds ← intSetting source "STORE_PRUNE_INTERVAL_SECONDS" 3600
  let tokenTtlSeconds ← intSetting source "TOKEN_TTL_SECONDS" 900
  let signedUrlTtlSeconds ← intSetting source "SIGNED_URL_TTL_SECONDS" 300
  let authCodeTtlSeconds ← intSetting source "AUTH_CODE_TTL_SECONDS" 300
  let refreshGraceSeconds ← intSetting source "OAUTH_REFRESH_GRACE_SECONDS" 30
  let refreshTokenTtlSeconds ← intSetting source "REFRESH_TOKEN_TTL_SECONDS" (30 * 24 * 60 * 60)
  let requestTimestampToleranceSeconds ←
    intSetting source "CANVA_REQUEST_TIMESTAMP_TOLERANCE_SECONDS" 300
  let maxRequests ← intSetting source "RATE_LIMIT_MAX_REQUESTS" 120
  let windowMs ← intSetting source "RATE_LIMIT_WINDOW_MS" 60000
  let assetProxyMaxBytes ←
    intSetting source "RESOURCE_SPACE_ASSET_PROXY_MAX_BYTES" (50 * 1024 * 1024)
  let ssoPendingTtlSeconds ← intSetting source "RESOURCE_SPACE_SSO_PENDING_TTL_SECONDS" 600
  let ssoReplayRetentionSeconds ←
    intSetting source "RESOURCE_SPACE_SSO_REPLAY_RETENTION_SECONDS" 600
  let maxBytes ← intSetting source "CANVA_UPLOAD_MAX_BYTES" (50 * 1024 * 1024)
  let maxImagePixels ← intSetting source "CANVA_UPLOAD_MAX_IMAGE_PIXELS" 50000000
  return {
    environment, port, baseUrl
    corsOrigin := (source.get? "CORS_ORIGIN").getD "*"
    storagePath := (source.get? "STORAGE_PATH").getD context.storagePath
    storageEncryptionKey := (source.get? "STORAGE_ENCRYPTION_KEY").getD ""
    storePruneIntervalSeconds
    clientIpHeader := String.ofList (unicode.lower (strip clientIpHeader.toList))
    trustedProxyHosts
    clientIpLogKey := String.ofList (strip ((source.get? "CLIENT_IP_LOG_KEY").getD "").toList)
    clientIpLogDiagnostics := parseBool unicode (source.get? "CLIENT_IP_LOG_DIAGNOSTICS")
    oauth := {
      issuer := (source.get? "OAUTH_ISSUER").getD baseUrl
      clientId
      allowDefaultClientId := parseBool unicode (source.get? "OAUTH_ALLOW_DEFAULT_CLIENT_ID")
      redirectUriAllowlist
      clients := configuredClients clientId redirectUriAllowlist extra
      clientsParseError
      tokenTtlSeconds, signedUrlTtlSeconds, authCodeTtlSeconds, refreshGraceSeconds
      refreshTokenTtlSeconds }
    signing := {
      assetSecret := (source.get? "ASSET_SIGNING_SECRET").getD "development-signing-secret"
      canvaClientSecret := (source.get? "CANVA_CLIENT_SECRET").getD ""
      requestVerificationMode := (source.get? "CANVA_REQUEST_VERIFICATION_MODE").getD "smart"
      requestTimestampToleranceSeconds }
    rateLimit := ⟨maxRequests, windowMs⟩
    resourceSpace := {
      mode := String.ofList (unicode.lower
        (strip ((source.get? "RESOURCE_SPACE_MODE").getD "fixture").toList))
      allowedHosts := splitCsv (source.get? "RESOURCE_SPACE_ALLOWED_HOSTS")
      tenants, tenantsParseError
      containerSource := (source.get? "RESOURCE_SPACE_CONTAINER_SOURCE").getD "user_collections"
      assetAllowedHosts := splitCsv (source.get? "RESOURCE_SPACE_ASSET_ALLOWED_HOSTS")
      assetProxyMaxBytes
      ssoEnabled := parseBool unicode (source.get? "RESOURCE_SPACE_SSO_ENABLED")
      ssoSystemKey := (source.get? "RESOURCE_SPACE_SSO_SYSTEM_KEY").getD "canva"
      ssoPendingTtlSeconds, ssoReplayRetentionSeconds }
    upload := ⟨splitCsv (source.get? "CANVA_UPLOAD_ALLOWED_HOSTS"), maxBytes, maxImagePixels⟩
    metricsBearerToken := (source.get? "METRICS_TOKEN").getD "" }

/-! ## Written clients -/

/-- A text that is kept when it is stripped. -/
def IsStripped (s : String) : Prop := s ≠ "" ∧ strip s.toList = s.toList

instance (s : String) : Decidable (IsStripped s) := inferInstanceAs (Decidable (_ ∧ _))

/-- A client whose settings can be written. -/
structure OAuthClientConfig.WellFormed (client : OAuthClientConfig) : Prop where
  clientId : IsStripped client.clientId
  integration : ∀ integration, client.integration = some integration → IsStripped integration
  redirectUriAllowlist : ∀ uri ∈ client.redirectUriAllowlist, IsStripped uri

/-- The entry for a client. -/
def clientJson (client : OAuthClientConfig) : Json :=
  .dict [("clientId", .str client.clientId),
    ("integration", (client.integration.map Json.str).getD .null),
    ("redirectUriAllowlist", .list (client.redirectUriAllowlist.map Json.str))]

/-- What is written into `OAUTH_CLIENTS_JSON` for the clients. -/
def clientsJson (py : Interpreter) (clients : List OAuthClientConfig) : String :=
  String.ofList (Json.dumps py.repr (.list (clients.map clientJson)))

theorem strippedText_str {py : Interpreter} {s : String} (h : IsStripped s) :
    strippedText py (.str s) = s := by
  rw [strippedText, Json.text, h.2, String.ofList_toList]

theorem orElse_str {s : String} (h : s ≠ "") (v : Json) : (Json.str s).orElse v = .str s :=
  if_pos (decide_eq_true h)

/-- The entry for a client is read as the client. -/
theorem oauthClient_clientJson {py : Interpreter} {client : OAuthClientConfig} (h : client.WellFormed)
    (index : ℕ) : oauthClient py index (clientJson client) = .ok client := by
  obtain ⟨clientId, integration, uris⟩ := client
  obtain ⟨hclientId, hintegration, huris⟩ := h
  dsimp only at hclientId hintegration huris
  have hid : strippedText py (fieldOr (clientJson ⟨clientId, integration, uris⟩) "clientId" "client_id") =
      clientId := by
    rw [fieldOr, clientJson]
    simp only [Json.get?, List.lookup_cons, beq_self_eq_true, Option.getD_some]
    rw [orElse_str hclientId.1, strippedText_str hclientId]
  have hallowlist : clientAllowlist py index (clientJson ⟨clientId, integration, uris⟩) = .ok uris := by
    have hmap : (uris.map Json.str).map (strippedText py) = uris := by
      rw [List.map_map]
      exact (List.map_congr_left (g := id) fun uri huri => strippedText_str (huris uri huri)).trans
        (List.map_id uris)
    have hfilter : uris.filter (· ≠ "") = uris :=
      List.filter_eq_self.2 fun uri huri => decide_eq_true (huris uri huri).1
    change Except.ok (((uris.map Json.str).map (strippedText py)).filter (· ≠ "")) = _
    rw [hmap, hfilter]
  rw [oauthClient, hid, hallowlist]
  have hdict : (clientJson ⟨clientId, integration, uris⟩).isDict = true := rfl
  rw [hdict, Bool.not_true, if_neg Bool.false_ne_true, if_neg hclientId.1]
  cases integration with
  | none => rfl
  | some integration =>
    change Except.ok (OAuthClientConfig.mk clientId
      (if strippedText py (.str integration) = "" then none
        else some (strippedText py (.str integration))) uris) = _
    rw [strippedText_str (hintegration _ rfl), if_neg (hintegration _ rfl).1]

theorem oauthClients_map {py : Interpreter} {clients : List OAuthClientConfig}
    (h : ∀ client ∈ clients, client.WellFormed) (index : ℕ) (before : Dict String OAuthClientConfig) :
    oauthClients py index (clients.map clientJson) before =
      .ok (clients.foldl (fun clients client => clients.set client.clientId client) before) := by
  induction clients generalizing index before with
  | nil => rfl
  | cons client clients ih =>
    rw [List.forall_mem_cons] at h
    rw [List.map_cons, oauthClients, oauthClient_clientJson h.1, List.foldl_cons]
    exact ih h.2 (index + 1) _

/-- What is written for clients can be read. -/
theorem plain_clients (depth : ℕ) (clients : List OAuthClientConfig) :
    (Json.list (clients.map clientJson)).Plain (depth + 3) := by
  have huris : ∀ uris : List String, Json.PlainItems depth (uris.map Json.str) := by
    intro uris
    induction uris with
    | nil => trivial
    | cons uri uris ih => exact ⟨trivial, ih⟩
  have hclient : ∀ client, (clientJson client).Plain (depth + 2) := by
    intro client
    have hkeys : ["clientId", "integration", "redirectUriAllowlist"].Nodup := by decide
    refine ⟨hkeys, trivial, ?_, huris _, trivial⟩
    cases client.integration <;> trivial
  change Json.PlainItems (depth + 2) _
  induction clients with
  | nil => trivial
  | cons client clients ih => exact ⟨hclient client, ih⟩

/-- What is written for clients is read as the clients, each under its id, of which the last one counts. -/
theorem parseOauthClientsJson_clientsJson {context : ConfigContext} (depth : 3 ≤ context.py.depth)
    {clients : List OAuthClientConfig} (h : ∀ client ∈ clients, client.WellFormed) :
    parseOauthClientsJson context (some (clientsJson context.py clients)) =
      .ok (clients.foldl (fun clients client => clients.set client.clientId client) ∅, none) := by
  obtain ⟨depth', hdepth⟩ := Nat.exists_eq_add_of_le' depth
  have hloads : Json.loads context.py.depth (clientsJson context.py clients).toList =
      .ok (.list (clients.map clientJson)) := by
    rw [clientsJson, String.toList_ofList, hdepth]
    exact Json.loads_dumps _ (plain_clients depth' clients)
  have hne : clientsJson context.py clients ≠ "" := by
    intro hempty
    rw [hempty] at hloads
    cases hloads
  rw [parseOauthClientsJson, jsonArray, hloads]
  · dsimp only [bind, Except.bind]
    rw [oauthClients_map h]
    rfl
  · exact hne

/-! ## Configurations -/

/-- What the settings that are made of JSON, and the name of the environment, are made of. -/
theorem createConfig_spec {context : ConfigContext} {source : Dict String String} {settings : Settings}
    (h : createConfig context source = .ok settings) :
    settings.environment = environmentName source ∧
      ∃ extra, parseOauthClientsJson context (source.get? "OAUTH_CLIENTS_JSON") =
          .ok (extra, settings.oauth.clientsParseError) ∧
        settings.oauth.clients = configuredClients settings.oauth.clientId
          settings.oauth.redirectUriAllowlist extra := by
  rw [createConfig] at h
  obtain ⟨port, -, h⟩ := exists_ok_of_bind h
  obtain ⟨⟨extra, clientsParseError⟩, hclients, h⟩ := exists_ok_of_bind h
  obtain ⟨⟨tenants, tenantsParseError⟩, -, h⟩ := exists_ok_of_bind h
  iterate 14 obtain ⟨_, -, h⟩ := exists_ok_of_bind h
  obtain rfl := Except.ok.inj h
  exact ⟨rfl, extra, hclients, rfl⟩

theorem get?_configuredClients (clientId : String) (redirectUriAllowlist : List String)
    (extra : Dict String OAuthClientConfig) (id : String) :
    (configuredClients clientId redirectUriAllowlist extra).get? id =
      (extra.get? id).or (if id = clientId ∧ id ≠ "" then
        some ⟨clientId, some "canva", redirectUriAllowlist⟩ else none) := by
  rw [configuredClients, Dict.get?_foldl_entries]
  congr 1
  by_cases hempty : clientId = ""
  · rw [if_pos hempty, if_neg fun ⟨hid, hne⟩ => hne (hid.trans hempty)]
    rfl
  · rw [if_neg hempty, Dict.get?_set]
    by_cases hid : id = clientId
    · rw [if_pos hid, if_pos ⟨hid, hid ▸ hempty⟩]
    · rw [if_neg hid, if_neg fun h => hid h.1]
      rfl

/-- If `OAUTH_CLIENTS_JSON` is what is written for a list of clients, the clients that are configured
    are those of the list, the last one of each id, and the first client of the broker, unless its id
    is in the list. -/
theorem configured_clients {context : ConfigContext} (depth : 3 ≤ context.py.depth)
    {source : Dict String String} {clients : List OAuthClientConfig}
    (wellFormed : ∀ client ∈ clients, client.WellFormed)
    (written : source.get? "OAUTH_CLIENTS_JSON" = some (clientsJson context.py clients))
    {settings : Settings} (h : createConfig context source = .ok settings) :
    settings.oauth.clientsParseError = none ∧
      ∀ id, settings.oauth.clients.get? id =
        (clients.reverse.find? (·.clientId = id)).or
          (if id = settings.oauth.clientId ∧ id ≠ "" then
            some ⟨settings.oauth.clientId, some "canva", settings.oauth.redirectUriAllowlist⟩ else none) := by
  obtain ⟨-, extra, hparse, hclients⟩ := createConfig_spec h
  rw [written, parseOauthClientsJson_clientsJson depth wellFormed] at hparse
  obtain ⟨hextra, herror⟩ := Prod.ext_iff.1 (Except.ok.inj hparse)
  dsimp only at hextra herror
  refine ⟨herror.symm, fun id => ?_⟩
  have hget : extra.get? id = clients.reverse.find? (·.clientId = id) := by
    rw [← hextra]
    exact (Dict.get?_foldl_set OAuthClientConfig.clientId (fun client => client) clients ∅ id).trans
      (by rw [Option.map_id', Dict.get?_empty, Option.or_none])
  rw [hclients, get?_configuredClients, hget]

namespace Sample

def configContext : ConfigContext where
  py := ⟨.ascii, isDigit, fun _ => "", 16, 16, fun _ => .ok none⟩
  decodeMessage _ := "Expecting value"
  storagePath := "/data/platform-store.json"

/-- A client in the place of the first one, and another. -/
def writtenClients : List OAuthClientConfig :=
  [⟨"canva-app", none, ["https://canva.example/return"]⟩,
    ⟨"other-app", some "other", ["https://other.example/a", "https://other.example/b"]⟩]

def clientsSource : Dict String String :=
  ((∅ : Dict String String).set "OAUTH_CLIENT_ID" "canva-app").set "OAUTH_CLIENTS_JSON"
    (clientsJson configContext.py writtenClients)

end Sample

theorem configured_clients_replaced :
    ∃ settings, createConfig Sample.configContext Sample.clientsSource = .ok settings ∧
      settings.oauth.clientId = "canva-app" ∧
      settings.oauth.clients.get? "canva-app" =
        some ⟨"canva-app", none, ["https://canva.example/return"]⟩ := by
  have hwellFormed : ∀ client ∈ Sample.writtenClients, client.WellFormed := by
    intro client hclient
    simp only [Sample.writtenClients, List.mem_cons, List.not_mem_nil, or_false] at hclient
    rcases hclient with rfl | rfl <;> exact ⟨by decide +kernel, by decide +kernel, by decide +kernel⟩
  have hcreated : ((createConfig Sample.configContext Sample.clientsSource).map
      (·.oauth.clientId)).toOption = some "canva-app" := by decide +kernel
  cases h : createConfig Sample.configContext Sample.clientsSource with
  | error e =>
    rw [h] at hcreated
    cases hcreated
  | ok settings =>
    rw [h] at hcreated
    refine ⟨settings, rfl, Option.some.inj hcreated, ?_⟩
    rw [(configured_clients (by decide) hwellFormed rfl h).2 "canva-app"]
    rfl

end Broker
