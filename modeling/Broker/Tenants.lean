import Broker.Lib.Slug
import Broker.World

/-!
# Tenants

The resolution of a ResourceSpace URL to a tenant (`getConfiguredTenant`): a
record of the registry, matched by its scheme, host and port (`TenantIdentity`),
or a tenant made up for the URL, once it is approved and known not to lead into
a private network.

The id of a made-up tenant is the slug of its host, followed by its port when it
is not the default one. Two of them have the same id exactly when their hosts
have the same words and their ports agree (`tenant_id_eq_iff`): the slug tells
words apart, but not what is between them (`tenant_id_shared`).

The IDNA form of a host that is not ASCII, and the addresses a host resolves to,
are parameters.
-/

namespace Broker

open Py

/-- The refusal of a request, with the given code, message and status. -/
def refusal (code message : String) (statusCode : ℤ) : PyError :=
  .resourceSpaceError ⟨code, message, statusCode⟩

/-! ## Hosts -/

section Hosts

/- The Unicode tables; `httpx.URL(scheme="https", host=host).raw_host`, none when it raises; and
   `socket.getaddrinfo`, none when it raises. -/
variable (unicode : Unicode) (rawHost : List Char → Option (List Char))
  (getaddrinfo : List Char → Option (List (List Char)))

/-- `canonical_ascii_host`. -/
def canonicalAsciiHost (host : List Char) : Except PyError (List Char) :=
  if host.isEmpty then .ok []
  else if isAscii host then .ok (unicode.lower host)
  else
    match rawHost host with
    | some ascii => .ok ascii
    | none => .error (refusal "FORBIDDEN" "Invalid host name." 400)

/-- `_canonical_pattern`. -/
def canonicalPattern (pattern : String) : List Char :=
  match unicode.lower (strip pattern.toList) with
  | [] => []
  | '.' :: p =>
    match canonicalAsciiHost unicode rawHost p with
    | .ok ascii => '.' :: ascii
    | .error _ => '.' :: p
  | p =>
    match canonicalAsciiHost unicode rawHost p with
    | .ok ascii => ascii
    | .error _ => p

/-- `_host_matches_pattern`. -/
def hostMatchesPattern (host : List Char) (pattern : String) : Bool :=
  match canonicalAsciiHost unicode rawHost host with
  | .error _ => false
  | .ok chost =>
    match canonicalPattern unicode rawHost pattern with
    | [] => false
    | '.' :: p => endsWith chost ('.' :: p)
    | p => chost = p || endsWith chost ('.' :: p)

/-- `_ip_is_blocked`. -/
def ipIsBlocked (ip : Ip.Address) : Bool :=
  ip.isPrivate || ip.isLoopback || ip.isLinkLocal || ip.isReserved || ip.isMulticast ||
    ip.isUnspecified || ip.isSiteLocal || !ip.isGlobal

/-- `_is_private_ip`: what does not resolve counts as private. -/
def isPrivateIp (host : List Char) : Bool :=
  match canonicalAsciiHost unicode rawHost host with
  | .error _ => true
  | .ok ascii =>
    ascii.isEmpty ||
      match getaddrinfo ascii with
      | none => true
      | some infos => infos.any fun info => (Ip.address info).any ipIsBlocked

/-! ## Request sinks -/

/-- The refusal of a URL that does not resolve. -/
def unresolved : PyError := refusal "FORBIDDEN" "This ResourceSpace URL could not be resolved." 403

/-- `_reject_private_tenant_sink`, for one URL. -/
def rejectPrivateUrl (url : String) : Except PyError Unit :=
  if url = "" then .ok ()
  else
    match Url.urlparse unicode url with
    | none => .error .valueError
    | some parsed =>
      let host := unicode.lower (parsed.hostname unicode)
      if host.isEmpty then .ok ()
      else
        match canonicalAsciiHost unicode rawHost host with
        | .error _ => .error unresolved
        | .ok ascii =>
          match getaddrinfo ascii with
          | none => .error unresolved
          | some _ =>
            if isPrivateIp unicode rawHost getaddrinfo host then
              .error (refusal "FORBIDDEN"
                "This ResourceSpace URL resolves to a private network address." 403)
            else .ok ()

/-- `_reject_private_tenant_sink`. -/
def rejectPrivateTenantSink (config : AppConfig) (urls : List String) (skipFixture : Bool) :
    Except PyError Unit :=
  if skipFixture && config.resourceSpace.mode = "fixture" then .ok ()
  else urls.forM (rejectPrivateUrl unicode rawHost getaddrinfo)

/-! ## Identities -/

/-- The scheme, the canonical host and the effective port of a tenant. -/
structure TenantIdentity where
  scheme : List Char
  host : List Char
  port : ℕ
  deriving DecidableEq, Repr

/-- An address literal in its compressed form, any other host as it is. -/
def compressHost (host : List Char) : List Char := (Ip.address host).elim host (·.compressed)

/-- `_tenant_identity`. -/
def tenantIdentity (url : String) : Except PyError (Option TenantIdentity) := do
  match ← normalizeBaseUrl unicode url with
  | none => return none
  | some normalized =>
    match Url.urlparse unicode normalized with
    | none => throw .valueError
    | some parsed =>
      let scheme := unicode.lower parsed.scheme
      match canonicalAsciiHost unicode rawHost (parsed.hostname unicode) with
      | .error _ => return none
      | .ok [] => return none
      | .ok host =>
        match parsed.port with
        | none => return none
        | some explicitPort =>
          return some
            { scheme
              host := compressHost host
              port := explicitPort.getD (if scheme = "https".toList then 443 else 80) }

/-! ## Tenants -/

/-- `_normalize_api_url`. -/
def normalizeApiUrl (baseUrl : String) (override : Option String) : String :=
  match override with
  | none | some "" => baseUrl ++ "/api/"
  | some url => if endsWith url.toList ['/'] then url else url ++ "/"

/-- `_https_origin`. -/
def httpsOrigin (host : List Char) (port : ℕ) : String :=
  let authority :=
    match Ip.address host with
    | some (.v6 _ _) => '[' :: host ++ [']']
    | _ => host
  let origin := "https://".toList ++ authority
  String.ofList (if port = 443 then origin else origin ++ ':' :: Nat.toDigits 10 port)

/-- The characters a slug keeps. -/
def isSlugChar (c : Char) : Bool := ('a' ≤ c && c ≤ 'z') || isDigit c

/-- `_slugify`. -/
def slugify (value : List Char) : List Char := Slug.slug isSlugChar '-' (unicode.lower value)

/-- The slug of a tenant. -/
def tenantSlug (identity : TenantIdentity) : List Char :=
  let slug := slugify unicode identity.host
  if identity.port ≠ 443 then slug ++ '-' :: Nat.toDigits 10 identity.port else slug

/-- The record of the registry that is of the requested identity. -/
def registeredTenant (requested : Option TenantIdentity) :
    List Tenant → Except PyError (Option Tenant)
  | [] => return none
  | tenant :: tenants =>
    if requested.isSome then do
      if (← tenantIdentity unicode rawHost tenant.baseUrl) = requested then return some tenant
      else registeredTenant requested tenants
    else registeredTenant requested tenants

/-- The tenant of a record of the registry: its URLs are normalized. -/
def resolveRegistered (config : AppConfig) (tenant : Tenant) : Except PyError Tenant := do
  let baseUrl := (← normalizeBaseUrl unicode tenant.baseUrl).getD ""
  let apiUrl := normalizeApiUrl baseUrl tenant.apiUrl
  rejectPrivateTenantSink unicode rawHost getaddrinfo config [baseUrl, apiUrl] true
  return { tenant with baseUrl, apiUrl := some apiUrl }

/-- The tenant made up for a URL that no record of the registry matches. -/
def dynamicTenant (config : AppConfig) (normalized : String) (requested : Option TenantIdentity) :
    Except PyError Tenant :=
  match Url.urlparse unicode normalized with
  | none => .error .valueError
  | some parsed => do
    let host := requested.elim [] (·.host)
    let allowed := config.resourceSpace.allowedHosts
    if !allowed.isEmpty &&
        !(!host.isEmpty && allowed.any (hostMatchesPattern unicode rawHost host)) then
      throw (refusal "UNKNOWN_TENANT"
        "This ResourceSpace URL is not in the broker tenant registry or approved hostname suffixes."
        403)
    rejectPrivateTenantSink unicode rawHost getaddrinfo config [normalized]
      (devLikeEnvironments.contains config.environment)
    match requested with
    | none =>
      throw (refusal "INVALID_TENANT_URL" "ResourceSpace URLs must use HTTPS without credentials." 400)
    | some identity =>
      if identity.scheme ≠ "https".toList ∨ identity.port = 0 ∨ parsed.username.isSome ∨
          parsed.password.isSome then
        throw (refusal "INVALID_TENANT_URL" "ResourceSpace URLs must use HTTPS without credentials."
          400)
      let baseUrl := httpsOrigin host identity.port
      let slug := String.ofList (tenantSlug unicode identity)
      return {
        id := "tenant_" ++ slug
        slug := some slug
        name := some (String.ofList (baseUrl.toList.drop "https://".length))
        baseUrl
        apiUrl := some (normalizeApiUrl baseUrl none)
        rootCollections := []
        collectionChildren := [] }

/-- `get_configured_tenant`. -/
def getConfiguredTenant (config : AppConfig) (baseUrl : Option String) : Except PyError Tenant := do
  match ← normalizeBaseUrl unicode (baseUrl.getD "") with
  | none => throw (refusal "INVALID_TENANT_URL" "A ResourceSpace URL is required." 400)
  | some normalized =>
    let requested ← tenantIdentity unicode rawHost normalized
    match ← registeredTenant unicode rawHost requested config.resourceSpace.tenants with
    | some tenant => resolveRegistered unicode rawHost getaddrinfo config tenant
    | none => dynamicTenant unicode rawHost getaddrinfo config normalized requested

end Hosts

/-! ## The ids of made-up tenants -/

variable {unicode : Unicode} {rawHost : List Char → Option (List Char)}

/-- The words of the id of a tenant: those of its host, and its port when it is
    not the default one. -/
def idWords (unicode : Unicode) (identity : TenantIdentity) : List (List Char) :=
  Slug.wordsOrEmpty isSlugChar (unicode.lower identity.host) ++
    if identity.port = 443 then [] else [Nat.toDigits 10 identity.port]

theorem not_mem_toDigits (n : ℕ) : '-' ∉ Nat.toDigits 10 n := by
  intro h
  have hdigit := Nat.isDigit_of_mem_toDigits (by decide) (by decide) h
  cases hdigit

theorem not_mem_idWords {identity : TenantIdentity} {w : List Char}
    (h : w ∈ idWords unicode identity) : '-' ∉ w := by
  rw [idWords, List.mem_append] at h
  rcases h with h | h
  · exact Slug.not_mem_wordsOrEmpty (by decide) h
  · split_ifs at h
    · cases h
    · rw [List.mem_singleton.1 h]
      exact not_mem_toDigits identity.port

/-- The slug of a tenant is its words, joined. -/
theorem tenantSlug_eq (identity : TenantIdentity) :
    tenantSlug unicode identity = Slug.join '-' (idWords unicode identity) := by
  have hhost : slugify unicode identity.host =
      Slug.join '-' (Slug.wordsOrEmpty isSlugChar (unicode.lower identity.host)) := by
    rw [slugify, Slug.slug_eq (by decide), Slug.join_wordsOrEmpty]
  unfold tenantSlug idWords
  by_cases hport : identity.port = 443
  · simp [hport, hhost]
  · simp only [ne_eq, hport, not_false_eq_true, if_true, if_false]
    rw [Slug.join_append_singleton (Slug.wordsOrEmpty_ne_nil _), hhost]

/-- Tenants have the same slug exactly when they have the same words. -/
theorem tenantSlug_inj {identity identity' : TenantIdentity} :
    tenantSlug unicode identity = tenantSlug unicode identity' ↔
      idWords unicode identity = idWords unicode identity' := by
  rw [tenantSlug_eq, tenantSlug_eq]
  constructor
  · intro h
    have hne : ∀ identity, idWords unicode identity ≠ [] := by
      intro identity
      exact List.append_ne_nil_of_left_ne_nil (Slug.wordsOrEmpty_ne_nil _) _
    exact Slug.join_injective (hne _) (hne _) (fun _ => not_mem_idWords)
      (fun _ => not_mem_idWords) h
  · intro h
    rw [h]

/-- The identity requested by a URL. -/
def requestedIdentity (unicode : Unicode) (rawHost : List Char → Option (List Char))
    (baseUrl : Option String) : Except PyError (Option TenantIdentity) := do
  match ← normalizeBaseUrl unicode (baseUrl.getD "") with
  | none => return none
  | some normalized => tenantIdentity unicode rawHost normalized

/-- The URL is dynamically entered: no record of the registry is of its identity. -/
def IsDynamic (unicode : Unicode) (rawHost : List Char → Option (List Char)) (config : AppConfig)
    (baseUrl : Option String) : Prop :=
  ∃ requested, requestedIdentity unicode rawHost baseUrl = .ok requested ∧
    registeredTenant unicode rawHost requested config.resourceSpace.tenants = .ok none

/-- A made-up tenant has the id of its identity. -/
theorem dynamicTenant_id {getaddrinfo : List Char → Option (List (List Char))} {config : AppConfig}
    {normalized : String} {requested : Option TenantIdentity} {tenant : Tenant}
    (h : dynamicTenant unicode rawHost getaddrinfo config normalized requested = .ok tenant) :
    ∃ identity, requested = some identity ∧ identity.scheme = "https".toList ∧
      tenant.id = "tenant_" ++ String.ofList (tenantSlug unicode identity) := by
  rw [dynamicTenant] at h
  split at h
  · cases h
  · dsimp only at h
    split_ifs at h
    · cases h
    · obtain ⟨_, -, h⟩ := exists_ok_of_bind h
      cases requested with
      | none => cases h
      | some identity =>
        dsimp only at h
        split_ifs at h with hrefused
        · cases h
        · rw [not_or] at hrefused
          cases h
          exact ⟨identity, rfl, not_ne_iff.1 hrefused.1, rfl⟩

/-- A URL accepted for a made-up tenant has an identity, and the tenant the id of it. -/
theorem getConfiguredTenant_id {getaddrinfo : List Char → Option (List (List Char))}
    {config : AppConfig} {baseUrl : Option String} {tenant : Tenant}
    (accepted : getConfiguredTenant unicode rawHost getaddrinfo config baseUrl = .ok tenant)
    (dynamic : IsDynamic unicode rawHost config baseUrl) :
    ∃ identity, requestedIdentity unicode rawHost baseUrl = .ok (some identity) ∧
      identity.scheme = "https".toList ∧
      tenant.id = "tenant_" ++ String.ofList (tenantSlug unicode identity) := by
  obtain ⟨requested, hrequested, hunregistered⟩ := dynamic
  rw [getConfiguredTenant] at accepted
  unfold requestedIdentity at hrequested ⊢
  obtain ⟨normalized, hnormalized, accepted⟩ := exists_ok_of_bind accepted
  rw [hnormalized] at hrequested ⊢
  cases normalized with
  | none => cases accepted
  | some normalized =>
    obtain ⟨requested', hrequested', accepted⟩ := exists_ok_of_bind accepted
    change tenantIdentity unicode rawHost normalized = .ok requested at hrequested
    change ∃ identity, tenantIdentity unicode rawHost normalized = .ok (some identity) ∧ _
    obtain rfl := Except.ok.inj (hrequested'.symm.trans hrequested)
    obtain ⟨registered, hregistered, accepted⟩ := exists_ok_of_bind accepted
    obtain rfl := Except.ok.inj (hregistered.symm.trans hunregistered)
    obtain ⟨identity, rfl, hscheme, hid⟩ := dynamicTenant_id accepted
    exact ⟨identity, hrequested, hscheme, hid⟩

/-- Two dynamically entered URLs that are accepted, when they resolve to whatever
    addresses, get the same id exactly when they have the same words. So the ids
    tell their identities apart, unless the identities differ and the words do
    not. -/
theorem tenant_id_eq_iff (config : AppConfig)
    (getaddrinfo getaddrinfo' : List Char → Option (List (List Char)))
    (baseUrl baseUrl' : Option String) (tenant tenant' : Tenant)
    (accepted : getConfiguredTenant unicode rawHost getaddrinfo config baseUrl = .ok tenant)
    (accepted' : getConfiguredTenant unicode rawHost getaddrinfo' config baseUrl' = .ok tenant')
    (dynamic : IsDynamic unicode rawHost config baseUrl)
    (dynamic' : IsDynamic unicode rawHost config baseUrl') :
    ∃ identity identity', requestedIdentity unicode rawHost baseUrl = .ok (some identity) ∧
      requestedIdentity unicode rawHost baseUrl' = .ok (some identity') ∧
      (tenant.id = tenant'.id ↔ idWords unicode identity = idWords unicode identity') ∧
      ((tenant.id = tenant'.id → identity = identity') ↔
        identity = identity' ∨ idWords unicode identity ≠ idWords unicode identity') := by
  obtain ⟨identity, hidentity, -, hid⟩ := getConfiguredTenant_id accepted dynamic
  obtain ⟨identity', hidentity', -, hid'⟩ := getConfiguredTenant_id accepted' dynamic'
  have hwords : tenant.id = tenant'.id ↔ idWords unicode identity = idWords unicode identity' := by
    rw [hid, hid', String.append_right_inj, String.ofList_inj, tenantSlug_inj]
  refine ⟨identity, identity', hidentity, hidentity', hwords, ?_⟩
  rw [hwords, imp_iff_not_or, or_comm]

/-! ## Sample tenants -/

namespace Sample

/-- A resolver of every host to one public address. -/
def resolver (_ : List Char) : Option (List (List Char)) := some ["93.184.216.34".toList]

/-- The tenant of a URL that resolves to a public address. -/
def tenantOf (baseUrl : String) : Except PyError Tenant :=
  getConfiguredTenant .ascii (fun _ => none) resolver config (some baseUrl)

/-- The identity of a URL. -/
def identityOf (baseUrl : String) : Except PyError (Option TenantIdentity) :=
  requestedIdentity .ascii (fun _ => none) (some baseUrl)

/-- The tenant made up for a host, of the given id. -/
def madeUp (slug name : String) : Tenant where
  id := "tenant_" ++ slug
  slug := some slug
  name := some name
  baseUrl := "https://" ++ name
  apiUrl := some ("https://" ++ name ++ "/api/")
  rootCollections := []
  collectionChildren := []

theorem dynamic_of_identityOf {baseUrl : String} {identity : TenantIdentity}
    (h : identityOf baseUrl = .ok (some identity)) :
    IsDynamic .ascii (fun _ => none) config (some baseUrl) :=
  ⟨some identity, h, rfl⟩

end Sample

/-- Two ports of one host are two tenants, of two ids. -/
theorem tenant_id_eq_iff_ports :
    ∃ tenant tenant' identity identity',
      Sample.tenantOf "https://h.example" = .ok tenant ∧
      Sample.tenantOf "https://h.example:8443" = .ok tenant' ∧
      (tenant.id = tenant'.id ↔ idWords .ascii identity = idWords .ascii identity') := by
  have hdefault : Sample.tenantOf "https://h.example" =
      .ok (Sample.madeUp "h-example" "h.example") := by
    decide +kernel
  have hother : Sample.tenantOf "https://h.example:8443" =
      .ok (Sample.madeUp "h-example-8443" "h.example:8443") := by
    decide +kernel
  have hdynamic : Sample.identityOf "https://h.example" =
      .ok (some ⟨"https".toList, "h.example".toList, 443⟩) := by
    decide +kernel
  have hdynamic' : Sample.identityOf "https://h.example:8443" =
      .ok (some ⟨"https".toList, "h.example".toList, 8443⟩) := by
    decide +kernel
  obtain ⟨identity, identity', -, -, hids, -⟩ :=
    tenant_id_eq_iff Sample.config Sample.resolver Sample.resolver _ _ _ _ hdefault hother
      (Sample.dynamic_of_identityOf hdynamic) (Sample.dynamic_of_identityOf hdynamic')
  exact ⟨_, _, identity, identity', hdefault, hother, hids⟩

/-- The hosts `a-b.example` and `a.b.example` are two tenants of one id. -/
theorem tenant_id_shared :
    ∃ tenant tenant' identity identity',
      Sample.tenantOf "https://a-b.example" = .ok tenant ∧
      Sample.tenantOf "https://a.b.example" = .ok tenant' ∧
      IsDynamic .ascii (fun _ => none) Sample.config (some "https://a-b.example") ∧
      IsDynamic .ascii (fun _ => none) Sample.config (some "https://a.b.example") ∧
      Sample.identityOf "https://a-b.example" = .ok (some identity) ∧
      Sample.identityOf "https://a.b.example" = .ok (some identity') ∧
      tenant.id = tenant'.id ∧ identity ≠ identity' := by
  have hdashed : Sample.identityOf "https://a-b.example" =
      .ok (some ⟨"https".toList, "a-b.example".toList, 443⟩) := by
    decide +kernel
  have hdotted : Sample.identityOf "https://a.b.example" =
      .ok (some ⟨"https".toList, "a.b.example".toList, 443⟩) := by
    decide +kernel
  refine ⟨Sample.madeUp "a-b-example" "a-b.example", Sample.madeUp "a-b-example" "a.b.example",
    _, _, ?_, ?_, Sample.dynamic_of_identityOf hdashed, Sample.dynamic_of_identityOf hdotted,
    hdashed, hdotted, rfl, ?_⟩
  · decide +kernel
  · decide +kernel
  · decide +kernel

end Broker
