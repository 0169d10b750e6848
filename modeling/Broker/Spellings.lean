import Broker.Refusals

/-!
# Respelled tenant URLs

A tenant URL may be spelled in other ways: with letters in another case, with the port of its
scheme, with blanks around it, with another path (`Respells`). Every configuration is meant to
give a respelled URL the tenant of the URL (`SameTenant`). It does, but for the case of the
scheme: `normalize_base_url` looks for a scheme in lower case only, so `HTTPS://h.example` is
read as a URL of the host `HTTPS` (`sameTenant_iff`).
-/

namespace Broker

open Py Url

variable {unicode : Unicode} {rawHost : List Char → Option (List Char)}
  {getaddrinfo : List Char → Option (List (List Char))}

/-! ## Spellings -/

/-- The URL, without the blanks around it, is spelled with the scheme, and has these parts when
    its scheme is put in lower case. -/
def Spelled (unicode : Unicode) (value : String) (scheme : List Char) (parsed : ParseResult) : Prop :=
  IsWeb (Ip.lowered scheme) ∧ ∃ rest, strip value.toList = scheme ++ "://".toList ++ rest ∧
    urlparse unicode (String.ofList (Ip.lowered scheme ++ "://".toList ++ rest)) = some parsed

/-- The port of a scheme. -/
def defaultPort (scheme : List Char) : ℕ := if scheme = "https".toList then 443 else 80

/-- The URL has no port, or that of its scheme. -/
def HasDefaultPort (r : ParseResult) : Prop :=
  ∃ explicitPort, r.port = some explicitPort ∧
    explicitPort.getD (defaultPort r.scheme) = defaultPort r.scheme

/-- The hosts of the URLs differ at most in the case of their letters. -/
def SameHost (unicode : Unicode) (r r' : ParseResult) : Prop :=
  r.hostname unicode = r'.hostname unicode ∨
    isAscii r.hostinfo.1 = true ∧ isAscii r'.hostinfo.1 = true ∧
      Ip.lowered r.hostinfo.1 = Ip.lowered r'.hostinfo.1

/-- The URLs differ at most in the case of letters of the scheme and of the host, in a port of the
    scheme, and in what comes after the authority. -/
structure Respells (unicode : Unicode) (r r' : ParseResult) : Prop where
  scheme : r.scheme = r'.scheme
  userinfo : r.userinfo = r'.userinfo
  host : SameHost unicode r r'
  port : r.hostinfo.2 = r'.hostinfo.2 ∨ HasDefaultPort r ∧ HasDefaultPort r'

/-- Under every configuration, and wherever hosts lead to, the URL is accepted only if the other
    one is, with a tenant of the same id and the same URLs. -/
def SameTenant (unicode : Unicode) (rawHost : List Char → Option (List Char))
    (value value' : String) : Prop :=
  ∀ config getaddrinfo tenant,
    getConfiguredTenant unicode rawHost getaddrinfo config (some value) = .ok tenant →
    ∃ tenant', getConfiguredTenant unicode rawHost getaddrinfo config (some value') = .ok tenant' ∧
      tenant'.id = tenant.id ∧ tenant'.baseUrl = tenant.baseUrl ∧ tenant'.apiUrl = tenant.apiUrl

/-! ## Identities -/

/-- The port of an authority, that of its scheme if it has none; none for a `ValueError`. -/
def effectivePort (scheme netloc : List Char) : Option ℕ :=
  (authority scheme netloc []).port.map (·.getD (defaultPort scheme))

/-- The identity of an authority. -/
def identityOf (unicode : Unicode) (rawHost : List Char → Option (List Char))
    (scheme netloc : List Char) : Option TenantIdentity :=
  match canonicalAsciiHost unicode rawHost ((authority scheme netloc []).hostname unicode) with
  | .error _ | .ok [] => none
  | .ok host => (effectivePort scheme netloc).map fun port =>
      { scheme, host := compressHost host, port }

theorem identityOf_eq_some_iff {scheme netloc : List Char} {identity : TenantIdentity} :
    identityOf unicode rawHost scheme netloc = some identity ↔
      ∃ host port,
        canonicalAsciiHost unicode rawHost ((authority scheme netloc []).hostname unicode) = .ok host ∧
        host ≠ [] ∧ effectivePort scheme netloc = some port ∧
        identity = ⟨scheme, compressHost host, port⟩ := by
  rw [identityOf]
  split
  · rename_i e hraised
    exact iff_of_false (fun h => (by cases h)) fun ⟨_, _, h, _⟩ => (by cases hraised.symm.trans h)
  · rename_i hempty
    refine iff_of_false (fun h => (by cases h)) fun ⟨host, _, h, hne, _⟩ => ?_
    exact hne (Except.ok.inj (h.symm.trans hempty))
  · rename_i host hne hcanonical
    rw [Option.map_eq_some_iff]
    constructor
    · rintro ⟨port, hport, rfl⟩
      exact ⟨host, port, hcanonical, hne, hport, rfl⟩
    · rintro ⟨host', port, hcanonical', -, hport, rfl⟩
      obtain rfl := Except.ok.inj (hcanonical.symm.trans hcanonical')
      exact ⟨port, hport, rfl⟩

theorem ne_nil_of_canonical {host ascii : List Char}
    (h : canonicalAsciiHost unicode rawHost host = .ok ascii) (hne : ascii ≠ []) : host ≠ [] := by
  rintro rfl
  exact hne (Except.ok.inj h).symm

theorem hostname_nil (scheme : List Char) : (authority scheme [] []).hostname unicode = [] := by
  change unicode.lower [] ++ [] = []
  rw [List.append_nil, unicode.lower_ascii [] rfl]
  rfl

theorem identityOf_nil (scheme : List Char) : identityOf unicode rawHost scheme [] = none := by
  rw [identityOf, hostname_nil]
  rfl

/-- The identity of a normalized URL is that of its authority without the blanks it ends in. -/
theorem tenantIdentity_of_parses {scheme netloc : List Char} (hscheme : IsWeb scheme)
    (hchars : ∀ c ∈ netloc, isNetlocChar c = true)
    (h : Parses unicode (web scheme (netloc.rdropWhile isSpace) [])) :
    tenantIdentity unicode rawHost (web scheme netloc []) =
      .ok (identityOf unicode rawHost scheme (netloc.rdropWhile isSpace)) := by
  obtain ⟨parsed, hparsed⟩ := Option.isSome_iff_exists.1 h
  rw [web, List.append_nil] at hparsed
  have hchars' : ∀ c ∈ netloc.rdropWhile isSpace, isNetlocChar c = true :=
    fun c hc => hchars c ((List.rdropWhile_prefix _ _).subset hc)
  have hnetloc := netloc_eq_of_urlparse hscheme hchars' hparsed
  have hsame := (parts_of_urlparse hscheme hparsed).1
  have hcandidate := hparsed
  rw [← candidateUrl_web hscheme] at hcandidate
  obtain ⟨-, ⟨hempty, hnone⟩ | ⟨hvalid, hsome⟩⟩ := normalizeBaseUrl_of_parsed hcandidate
  · rw [← hnetloc, hempty, identityOf_nil, tenantIdentity, hnone]
    rfl
  · rw [hsame, hnetloc] at hsome
    rw [hnetloc] at hvalid
    have hlower : unicode.lower scheme = scheme := by
      rcases hscheme with rfl | rfl <;> exact unicode.lower_ascii _ rfl
    rw [tenantIdentity, hsome]
    dsimp only [bind, Except.bind]
    rw [urlparse_web hscheme hvalid ⟨.inl rfl, by simp⟩, identityOf]
    dsimp only
    rw [hlower, authority]
    cases canonicalAsciiHost unicode rawHost
        (ParseResult.hostname ⟨scheme, netloc.rdropWhile isSpace, [], [], [], []⟩ unicode) with
    | error e => rfl
    | ok host =>
      cases host with
      | nil => rfl
      | cons c host =>
        rw [effectivePort, authority]
        cases ParseResult.port ⟨scheme, netloc.rdropWhile isSpace, [], [], [], []⟩ with
        | none => rfl
        | some explicitPort => rfl

theorem tenantIdentity_eq_some_iff {scheme netloc : List Char} {identity : TenantIdentity}
    (hscheme : IsWeb scheme) (hchars : ∀ c ∈ netloc, isNetlocChar c = true) :
    tenantIdentity unicode rawHost (web scheme netloc []) = .ok (some identity) ↔
      Parses unicode (web scheme (netloc.rdropWhile isSpace) []) ∧
        identityOf unicode rawHost scheme (netloc.rdropWhile isSpace) = some identity := by
  have hcandidate : String.ofList (candidateUrl (web scheme netloc [])) =
      web scheme (netloc.rdropWhile isSpace) [] := by
    rw [candidateUrl_web hscheme, web, List.append_nil]
  constructor
  · intro h
    have hparses : Parses unicode (web scheme (netloc.rdropWhile isSpace) []) := by
      by_contra hnot
      rw [← hcandidate] at hnot
      cases h.symm.trans ((@tenantIdentity_eq_error_iff unicode rawHost _ _).2 ⟨rfl, hnot⟩)
    exact ⟨hparses, Except.ok.inj ((tenantIdentity_of_parses hscheme hchars hparses).symm.trans h)⟩
  · rintro ⟨hparses, hidentity⟩
    rw [tenantIdentity_of_parses hscheme hchars hparses, hidentity]

/-! ## Readings -/

/-- The scheme and the authority that `normalize_base_url` reads in a URL. -/
structure ReadAs (unicode : Unicode) (value : String) (scheme netloc : List Char) : Prop where
  known : IsWeb scheme
  valid : IsNetloc unicode netloc
  normalized : normalizeBaseUrl unicode value = .ok (some (web scheme netloc []))

section Resolution

variable (unicode rawHost getaddrinfo)

/-- A tenant is made up for the identity of the URL. -/
structure MakesUp (config : AppConfig) (scheme netloc : List Char) (identity : TenantIdentity) :
    Prop where
  approved : (!config.resourceSpace.allowedHosts.isEmpty &&
    !(!identity.host.isEmpty && config.resourceSpace.allowedHosts.any
      (hostMatchesPattern unicode rawHost identity.host))) = false
  sink : rejectPrivateTenantSink unicode rawHost getaddrinfo config [web scheme netloc []]
    (devLikeEnvironments.contains config.environment) = .ok ()
  https : identity.scheme = "https".toList
  port : identity.port ≠ 0
  anonymous : '@' ∉ netloc

/-- The tenant of an identity: that of its record in the registry, or one that is made up. -/
inductive Resolves (config : AppConfig) (scheme netloc : List Char) (identity : TenantIdentity) :
    Tenant → Prop
  | registered {record tenant : Tenant}
      (found : registeredTenant unicode rawHost (some identity) config.resourceSpace.tenants =
        .ok (some record))
      (resolved : resolveRegistered unicode rawHost getaddrinfo config record = .ok tenant) :
      Resolves config scheme netloc identity tenant
  | madeUp
      (unregistered : registeredTenant unicode rawHost (some identity)
        config.resourceSpace.tenants = .ok none)
      (makes : MakesUp unicode rawHost getaddrinfo config scheme netloc identity) :
      Resolves config scheme netloc identity (madeUpTenant unicode identity)

end Resolution

theorem username_or_password (scheme netloc : List Char) :
    ((authority scheme netloc []).username.isSome = true ∨
      (authority scheme netloc []).password.isSome = true) ↔ '@' ∈ netloc := by
  have hnone := username_eq_none_iff (authority scheme netloc [])
  cases huser : (authority scheme netloc []).username with
  | none =>
    rw [password_eq_none huser]
    exact iff_of_false (by simp) (hnone.1 huser)
  | some user =>
    refine iff_of_true (.inl rfl) ?_
    by_contra hat
    cases huser.symm.trans (hnone.2 hat)

/-- When a tenant is made up for a URL, and which. -/
theorem dynamicTenant_ok_iff {config : AppConfig} {scheme netloc : List Char} (hscheme : IsWeb scheme)
    (hvalid : IsNetloc unicode netloc) {requested : Option TenantIdentity} {tenant : Tenant} :
    dynamicTenant unicode rawHost getaddrinfo config (web scheme netloc []) requested = .ok tenant ↔
      ∃ identity, requested = some identity ∧
        MakesUp unicode rawHost getaddrinfo config scheme netloc identity ∧
        tenant = madeUpTenant unicode identity := by
  have hcredentials := username_or_password scheme netloc
  rw [authority] at hcredentials
  constructor
  · intro h
    rw [dynamicTenant, urlparse_web hscheme hvalid ⟨.inl rfl, by simp⟩] at h
    dsimp only at h
    split_ifs at h with happroved
    · cases h
    · obtain ⟨_, hsink, h⟩ := exists_ok_of_bind h
      cases requested with
      | none => cases h
      | some identity =>
        dsimp only at h
        split_ifs at h with hrefused
        · cases h
        · rw [hcredentials, not_or, not_or, not_not] at hrefused
          obtain ⟨hhttps, hport, hat⟩ := hrefused
          exact ⟨identity, rfl, ⟨Bool.not_eq_true _ ▸ happroved, hsink, hhttps, hport, hat⟩,
            (Except.ok.inj h).symm⟩
  · rintro ⟨identity, rfl, makes, rfl⟩
    rw [dynamicTenant, urlparse_web hscheme hvalid ⟨.inl rfl, by simp⟩]
    have hform : ¬(identity.scheme ≠ "https".toList ∨ identity.port = 0 ∨
        (authority scheme netloc []).username.isSome = true ∨
        (authority scheme netloc []).password.isSome = true) := by
      rw [authority, hcredentials, not_or, not_or, not_not]
      exact ⟨makes.https, makes.port, makes.anonymous⟩
    dsimp only [Option.elim_some]
    rw [makes.approved, if_neg Bool.false_ne_true, makes.sink]
    exact if_neg hform

/-- When a URL is accepted, and with which tenant. -/
theorem ReadAs.ok_iff {value : String} {scheme netloc : List Char} (reads : ReadAs unicode value scheme netloc)
    {config : AppConfig} {tenant : Tenant} :
    getConfiguredTenant unicode rawHost getaddrinfo config (some value) = .ok tenant ↔
      ∃ identity, tenantIdentity unicode rawHost (web scheme netloc []) = .ok (some identity) ∧
        Resolves unicode rawHost getaddrinfo config scheme netloc identity tenant := by
  rw [getConfiguredTenant_of_normalized reads.normalized]
  constructor
  · intro h
    obtain ⟨requested, hrequested, h⟩ := exists_ok_of_bind h
    obtain ⟨found, hfound, h⟩ := exists_ok_of_bind h
    cases requested with
    -- A URL without an identity has no record and is no dynamic tenant.
    | none =>
      rw [registeredTenant_none] at hfound
      obtain rfl := Except.ok.inj hfound
      rw [Option.elim_none] at h
      obtain ⟨_, hnone, -⟩ := (dynamicTenant_ok_iff reads.known reads.valid).1 h
      cases hnone
    | some identity =>
      refine ⟨identity, hrequested, ?_⟩
      cases found with
      | some record => exact .registered hfound h
      | none =>
        rw [Option.elim_none] at h
        obtain ⟨_, hsame, makes, rfl⟩ := (dynamicTenant_ok_iff reads.known reads.valid).1 h
        obtain rfl := Option.some.inj hsame
        exact .madeUp hfound makes
  · rintro ⟨identity, hidentity, resolves⟩
    rw [hidentity]
    dsimp only [bind, Except.bind]
    cases resolves with
    | registered found resolved =>
      rw [found]
      exact resolved
    | madeUp unregistered makes =>
      rw [unregistered]
      dsimp only
      rw [Option.elim_none]
      exact (dynamicTenant_ok_iff reads.known reads.valid).2 ⟨identity, rfl, makes, rfl⟩

/-- What is accepted is read, and has an identity. -/
theorem exists_readAs {config : AppConfig} {value : String} {tenant : Tenant}
    (accepted : getConfiguredTenant unicode rawHost getaddrinfo config (some value) = .ok tenant) :
    ∃ scheme netloc identity, ReadAs unicode value scheme netloc ∧
      tenantIdentity unicode rawHost (web scheme netloc []) = .ok (some identity) ∧
      Resolves unicode rawHost getaddrinfo config scheme netloc identity tenant := by
  obtain ⟨normalized, hnormalized, -⟩ := exists_ok_of_bind accepted
  cases normalized with
  | none =>
    rw [getConfiguredTenant, hnormalized] at accepted
    cases accepted
  | some normalized =>
    obtain ⟨scheme, netloc, hscheme, hvalid, rfl⟩ := normalizeBaseUrl_cases hnormalized
    have reads : ReadAs unicode value scheme netloc := ⟨hscheme, hvalid, hnormalized⟩
    obtain ⟨identity, hidentity, resolves⟩ := reads.ok_iff.1 accepted
    exact ⟨scheme, netloc, identity, reads, hidentity, resolves⟩

theorem ReadAs.unique {value : String} {scheme netloc scheme' netloc' : List Char}
    (reads : ReadAs unicode value scheme netloc) (reads' : ReadAs unicode value scheme' netloc') :
    web scheme netloc [] = web scheme' netloc' [] :=
  Option.some.inj (Except.ok.inj (reads.normalized.symm.trans reads'.normalized))

/-! ## The same tenant -/

/-- Two URLs of one identity have the same tenant, if one is made up for both. -/
theorem sameTenant_of_makesUp {value value' : String} {scheme netloc scheme' netloc' : List Char}
    {identity : TenantIdentity} (reads : ReadAs unicode value scheme netloc)
    (reads' : ReadAs unicode value' scheme' netloc')
    (hidentity : tenantIdentity unicode rawHost (web scheme netloc []) = .ok (some identity))
    (hidentity' : tenantIdentity unicode rawHost (web scheme' netloc' []) = .ok (some identity))
    (hmakes : ∀ config getaddrinfo,
      MakesUp unicode rawHost getaddrinfo config scheme netloc identity →
      MakesUp unicode rawHost getaddrinfo config scheme' netloc' identity) :
    SameTenant unicode rawHost value value' := by
  intro config getaddrinfo tenant accepted
  obtain ⟨_, hsame, resolves⟩ := reads.ok_iff.1 accepted
  obtain rfl := Option.some.inj (Except.ok.inj (hidentity.symm.trans hsame))
  refine ⟨tenant, reads'.ok_iff.2 ⟨identity, hidentity', ?_⟩, rfl, rfl, rfl⟩
  cases resolves with
  | registered found resolved => exact .registered found resolved
  | madeUp unregistered makes => exact .madeUp unregistered (hmakes _ _ makes)

/-- A fixture whose registry has a record of the URL. -/
def registryOf (url : String) : AppConfig :=
  { Sample.config with
    resourceSpace :=
      { Sample.config.resourceSpace with
        mode := "fixture"
        tenants := [{ Sample.tenant with id := "registered", baseUrl := url, apiUrl := none }] } }

/-- URLs that have the same tenant have the same identity: a registry tells identities apart. -/
theorem identity_of_sameTenant {value value' : String} {scheme netloc : List Char}
    {identity : TenantIdentity} (reads : ReadAs unicode value scheme netloc)
    (hidentity : tenantIdentity unicode rawHost (web scheme netloc []) = .ok (some identity))
    (same : SameTenant unicode rawHost value value') :
    ∃ scheme' netloc', ReadAs unicode value' scheme' netloc' ∧
      tenantIdentity unicode rawHost (web scheme' netloc' []) = .ok (some identity) := by
  -- A registry of one record, found by the first spelling, is to be found by the second.
  have hcons := fun requested => @registeredTenant_cons unicode rawHost requested
    { Sample.tenant with id := "registered", baseUrl := web scheme netloc [], apiUrl := none } []
  obtain ⟨base, hbase⟩ := normalized_of_identity hidentity
  have hfound : registeredTenant unicode rawHost (some identity)
      (registryOf (web scheme netloc [])).resourceSpace.tenants = .ok (some
        { Sample.tenant with id := "registered", baseUrl := web scheme netloc [], apiUrl := none }) := by
    refine (hcons identity).trans ?_
    rw [hidentity]
    exact if_pos rfl
  have hresolved : ∃ tenant, resolveRegistered unicode rawHost (fun _ => none)
      (registryOf (web scheme netloc []))
      { Sample.tenant with id := "registered", baseUrl := web scheme netloc [], apiUrl := none } =
        .ok tenant ∧ tenant.id = "registered" := by
    rw [resolveRegistered, hbase]
    exact ⟨_, rfl, rfl⟩
  obtain ⟨tenant, hresolved, hid⟩ := hresolved
  obtain ⟨tenant', accepted', hid', -⟩ := same _ _ _
    (reads.ok_iff.2 ⟨identity, hidentity, .registered hfound hresolved⟩)
  obtain ⟨scheme', netloc', identity', reads', hidentity', resolves⟩ := exists_readAs accepted'
  refine ⟨scheme', netloc', reads', ?_⟩
  cases resolves with
  | registered found _ =>
    obtain ⟨_, hrecord, hif⟩ := exists_ok_of_bind ((hcons identity').symm.trans found)
    split_ifs at hif with hsame
    · rw [hidentity']
      rw [hidentity] at hrecord
      rw [← hsame, ← Except.ok.inj hrecord]
    · cases hif
  -- The id of a tenant that is made up starts with another letter.
  | madeUp _ _ =>
    have hprefix : ("tenant_" ++ String.ofList (tenantSlug unicode identity')).toList.head? =
        "registered".toList.head? := by
      rw [← hid, ← hid']
      rfl
    rw [String.toList_append] at hprefix
    cases hprefix

/-! ## Hosts -/

theorem hostname_congr {r r' : ParseResult} (h : r.hostinfo.1 = r'.hostinfo.1) :
    r.hostname unicode = r'.hostname unicode := by
  rw [ParseResult.hostname, ParseResult.hostname, h]

/-- The name of a host of ASCII is one of ASCII, and the same in lower case. -/
theorem hostname_of_isAscii {r : ParseResult} (h : isAscii r.hostinfo.1 = true) :
    isAscii (r.hostname unicode) = true ∧
      unicode.lower (r.hostname unicode) = Ip.lowered r.hostinfo.1 := by
  obtain ⟨hname, -⟩ | ⟨pre, zone, hsplit, -, hname⟩ := hostname_cases unicode r
  · rw [hname]
    have hascii := @isAscii_lower unicode _ h
    rw [lower_eq_lowered hascii, lower_eq_lowered h, lowered_lowered]
    exact ⟨(lower_eq_lowered h).symm ▸ hascii, rfl⟩
  · rw [hsplit, isAscii_append] at h
    have hascii : isAscii (r.hostname unicode) = true := by
      rw [hname, isAscii_append]
      exact ⟨isAscii_lower h.1, h.2⟩
    refine ⟨hascii, ?_⟩
    rw [lower_eq_lowered hascii, hname, lower_eq_lowered h.1, hsplit, Ip.lowered, Ip.lowered,
      Ip.lowered, List.map_append, List.map_append]
    exact congrArg (· ++ _) (lowered_lowered pre)

namespace SameHost

variable {r r' : ParseResult}

theorem symm (h : SameHost unicode r r') : SameHost unicode r' r := by
  obtain h | ⟨hascii, hascii', hsame⟩ := h
  · exact .inl h.symm
  · exact .inr ⟨hascii', hascii, hsame.symm⟩

/-- Hosts that differ in the case of letters are looked up alike. -/
theorem lower (h : SameHost unicode r r') :
    unicode.lower (r.hostname unicode) = unicode.lower (r'.hostname unicode) := by
  obtain h | ⟨hascii, hascii', hsame⟩ := h
  · rw [h]
  · rw [(hostname_of_isAscii hascii).2, (hostname_of_isAscii hascii').2, hsame]

theorem canonical (h : SameHost unicode r r') :
    canonicalAsciiHost unicode rawHost (r.hostname unicode) =
      canonicalAsciiHost unicode rawHost (r'.hostname unicode) := by
  have hlower := h.lower
  obtain h | ⟨hascii, hascii', -⟩ := h
  · rw [h]
  · have hname := (@hostname_of_isAscii unicode _ hascii).1
    have hname' := (@hostname_of_isAscii unicode _ hascii').1
    have hnil : r.hostname unicode = [] ↔ r'.hostname unicode = [] := by
      have hlowered : ∀ s, Ip.lowered s = [] ↔ s = [] := fun _ => List.map_eq_nil_iff
      rw [lower_eq_lowered hname, lower_eq_lowered hname'] at hlower
      rw [← hlowered, hlower, hlowered]
    by_cases hempty : r.hostname unicode = []
    · rw [hempty, hnil.1 hempty]
    · rw [canonicalAsciiHost_ascii hempty hname,
        canonicalAsciiHost_ascii (fun h => hempty (hnil.2 h)) hname', hlower]

end SameHost

/-! ## Blanks at the end of a host -/

/-- Without the blanks it ends in, the authority has another host. -/
def LosesBlank (netloc : List Char) : Prop :=
  (authority [] (netloc.rdropWhile isSpace) []).hostinfo.1 ≠ (authority [] netloc []).hostinfo.1

instance (netloc : List Char) : Decidable (LosesBlank netloc) := inferInstanceAs (Decidable (_ ≠ _))

theorem hostinfo_of_not_losesBlank {netloc : List Char} (h : ¬LosesBlank netloc)
    (scheme : List Char) : (authority scheme (netloc.rdropWhile isSpace) []).hostinfo =
      ((authority scheme netloc []).hostinfo.1,
        (authority scheme netloc []).hostinfo.2.rdropWhile isSpace) := by
  have hsame : (authority scheme (netloc.rdropWhile isSpace) []).hostinfo.1 =
      (authority scheme netloc []).hostinfo.1 := not_not.1 h
  obtain hkept | ⟨hport, hdropped⟩ := hostinfo_rdropWhile_cases (p := isSpace) rfl rfl rfl rfl
    scheme netloc []
  · exact hkept
  · rw [hdropped] at hsame ⊢
    rw [hport]
    exact Prod.ext hsame rfl

theorem hostname_of_not_losesBlank {netloc : List Char} (h : ¬LosesBlank netloc) (scheme : List Char) :
    (authority scheme (netloc.rdropWhile isSpace) []).hostname unicode =
      (authority scheme netloc []).hostname unicode := by
  refine hostname_congr ?_
  rw [hostinfo_of_not_losesBlank h]

theorem hostinfo_of_losesBlank {netloc : List Char} (h : LosesBlank netloc) (scheme : List Char) :
    (authority scheme netloc []).hostinfo.2 = [] ∧
      (authority scheme (netloc.rdropWhile isSpace) []).hostinfo =
        ((authority scheme netloc []).hostinfo.1.rdropWhile isSpace, []) := by
  obtain hkept | hdropped := hostinfo_rdropWhile_cases (p := isSpace) rfl rfl rfl rfl scheme netloc []
  · exact absurd (congrArg Prod.fst hkept) h
  · exact hdropped

/-- The port is the same but for the blanks it ends in. -/
theorem port_rdropWhile (scheme netloc : List Char) :
    (authority scheme (netloc.rdropWhile isSpace) []).hostinfo.2 =
      (authority scheme netloc []).hostinfo.2.rdropWhile isSpace := by
  by_cases hblank : LosesBlank netloc
  · obtain ⟨hport, hdropped⟩ := hostinfo_of_losesBlank hblank scheme
    rw [hport, hdropped, List.rdropWhile_nil]
  · rw [hostinfo_of_not_losesBlank hblank]

theorem port_congr {r r' : ParseResult} (h : r.hostinfo.2 = r'.hostinfo.2) : r.port = r'.port := by
  rw [ParseResult.port, ParseResult.port, h]

/-- A port that is a number ends in no blank. -/
theorem port_of_some {scheme netloc : List Char} {explicitPort : Option ℕ}
    (h : (authority scheme netloc []).port = some explicitPort) :
    (authority scheme (netloc.rdropWhile isSpace) []).port = some explicitPort := by
  rw [← h]
  refine port_congr ((port_rdropWhile scheme netloc).trans ?_)
  rw [ParseResult.port] at h
  split at h
  · rename_i hnil
    rw [hnil, List.rdropWhile_nil]
  · split_ifs at h with hdigits
    rw [List.rdropWhile_eq_self_iff]
    intro hne hlast
    have hdigit := List.all_eq_true.1 hdigits _ (List.getLast_mem hne)
    cases (isSpace_of_isDigit hdigit).symm.trans hlast

/-- The laws of the lower case and of the ASCII form of a host, with one more on the last
    character. -/
structure SpellingLaws (unicode : Unicode) (rawHost : List Char → Option (List Char)) : Prop
    extends LowerLaws unicode, IdnaLaws rawHost where
  /-- A text in lower case ends in a blank only if the text does. -/
  lower_last : ∀ s c, (unicode.lower s).getLast? = some c → isSpace c = true → s.getLast? = some c

/-- A host with blanks after it has a name with these blanks after it. -/
theorem hostname_append_blanks (laws : LowerLaws unicode) {r r' : ParseResult} {w : List Char}
    (h : r.hostinfo.1 = r'.hostinfo.1 ++ w) (hw : ∀ c ∈ w, isSpace c = true) :
    r.hostname unicode = r'.hostname unicode ++ w := by
  have hfree : '%' ∉ w := fun hmem => absurd (hw '%' hmem) (by decide)
  unfold ParseResult.hostname
  rw [h]
  dsimp only
  obtain ⟨hparts, hfree'⟩ | ⟨pre, zone, hparts, hsplit, hfree'⟩ := partition_cases '%' r'.hostinfo.1
  · rw [hparts, partition_of_notMem (by rw [List.mem_append, not_or]; exact ⟨hfree', hfree⟩)]
    dsimp only
    rw [if_neg Bool.false_ne_true, List.append_nil, List.append_nil, lower_append_blanks laws _ hw]
  · rw [hparts, hsplit, List.append_assoc, List.cons_append, partition_append hfree']
    dsimp only
    rw [if_pos rfl, if_pos rfl, List.append_assoc, List.cons_append]

/-- The name of a host that ends in no blank ends in none. -/
theorem rdropWhile_hostname (laws : SpellingLaws unicode rawHost) {r : ParseResult}
    (h : r.hostinfo.1.rdropWhile isSpace = r.hostinfo.1) :
    (r.hostname unicode).rdropWhile isSpace = r.hostname unicode := by
  rw [List.rdropWhile_eq_self_iff] at h ⊢
  have hlast : ∀ c, r.hostinfo.1.getLast? = some c → isSpace c = false := by
    intro c hc
    have hne : r.hostinfo.1 ≠ [] := by
      intro hnil
      rw [hnil] at hc
      cases hc
    rw [List.getLast?_eq_some_getLast hne] at hc
    exact Bool.eq_false_of_not_eq_true (Option.some.inj hc ▸ h hne)
  intro hne hblank
  have hend := List.getLast?_eq_some_getLast hne
  generalize (r.hostname unicode).getLast hne = c at hblank hend
  suffices hinfo : r.hostinfo.1.getLast? = some c by
    cases (hlast c hinfo).symm.trans hblank
  obtain ⟨hname, -⟩ | ⟨pre, zone, hsplit, -, hname⟩ := hostname_cases unicode r
  · rw [hname] at hend
    exact laws.lower_last _ _ hend hblank
  · rw [hname, List.getLast?_append_cons] at hend
    rw [hsplit, List.getLast?_append_cons, hend]

/-- Blanks after a host make it another one. -/
theorem compressHost_append_ne {host w : List Char} (hw : ∀ c ∈ w, isSpace c = true) (hne : w ≠ []) :
    compressHost (host ++ w) ≠ compressHost host := by
  intro hsame
  have hself : host ++ w ≠ host := fun h => hne (List.append_right_eq_self.1 h)
  cases hip : Ip.address host with
  | none =>
    cases hip' : Ip.address (host ++ w) with
    | none => exact hself (by rwa [compressHost_of_none hip, compressHost_of_none hip'] at hsame)
    | some ip =>
      have hread := Ip.address_compressed (Ip.valid_of_address hip')
      rw [compressHost, hip', compressHost_of_none hip] at hsame
      change ip.compressed = host at hsame
      rw [hsame, hip] at hread
      cases hread
  | some ip =>
    have hread := Ip.address_compressed (Ip.valid_of_address hip)
    cases hip' : Ip.address (host ++ w) with
    | none =>
      rw [compressHost_of_none hip', compressHost, hip] at hsame
      change host ++ w = ip.compressed at hsame
      rw [← hsame, hip'] at hread
      cases hread
    | some ip' =>
      have hread' := Ip.address_compressed (Ip.valid_of_address hip')
      rw [compressHost, compressHost, hip, hip'] at hsame
      change ip'.compressed = ip.compressed at hsame
      rw [hsame, hread] at hread'
      obtain rfl := Option.some.inj hread'
      obtain ⟨c, hc⟩ := List.exists_mem_of_ne_nil w hne
      -- Both spell the address, and its scope is spelled as it is.
      obtain ⟨-, ⟨_, rfl, hv4⟩ | ⟨-, ⟨_, rfl, hv6, -⟩ | ⟨_, text, z, rfl, hsplit, -, -, -, hfree⟩⟩⟩ :=
        Ip.address_cases hip'
      · obtain hdigit | rfl := (Ip.lt_of_parseV4 hv4).2 c (List.mem_append_right _ hc)
        · cases (isSpace_of_isDigit hdigit).symm.trans (hw c hc)
        · cases hw _ hc
      · obtain rfl | rfl | ⟨d, hd⟩ := Ip.mem_of_parseV6 hv6 c (List.mem_append_right _ hc)
        · cases hw _ hc
        · cases hw _ hc
        · have hplain : ∀ n < 128, isSpace (Char.ofNat n) = true → hexDigit? (Char.ofNat n) = none := by
            decide
          have hnone := hplain c.toNat (lt_of_hexDigit? hd) (by rw [Char.ofNat_toNat]; exact hw c hc)
          rw [Char.ofNat_toNat, hd] at hnone
          cases hnone
      · obtain ⟨-, ⟨_, h, -⟩ | ⟨-, ⟨_, h, -⟩ | ⟨_, text', z', h, hsplit', -, -, -, hfree'⟩⟩⟩ :=
          Ip.address_cases hip
        · cases h
        · cases h
        · cases h
          have hparts := congrArg (partition '%') hsplit
          rw [hsplit', List.append_assoc, List.cons_append, partition_append hfree',
            partition_append hfree] at hparts
          exact hne (List.append_right_eq_self.1 (Prod.mk.inj (Prod.mk.inj hparts).2).2)

theorem rdropWhile_append_blanks {s w : List Char} (h : s.rdropWhile isSpace = s)
    (hw : ∀ c ∈ w, isSpace c = true) : (s ++ w).rdropWhile isSpace = s := by
  induction w using List.reverseRecOn with
  | nil => rwa [List.append_nil]
  | append_singleton w c ih =>
    rw [← List.append_assoc, List.rdropWhile_concat, if_pos (hw c List.mem_concat_self)]
    exact ih fun d hd => hw d (List.mem_append_left _ hd)

/-- A host that loses blanks is followed by them. -/
theorem exists_blanks {netloc : List Char} (h : LosesBlank netloc) (scheme : List Char) :
    ∃ w, w ≠ [] ∧ (∀ c ∈ w, isSpace c = true) ∧ (authority scheme netloc []).hostinfo.1 =
      (authority scheme (netloc.rdropWhile isSpace) []).hostinfo.1 ++ w := by
  obtain ⟨-, hdropped⟩ := hostinfo_of_losesBlank h scheme
  have hsplit : (authority scheme netloc []).hostinfo.1 =
      (authority scheme (netloc.rdropWhile isSpace) []).hostinfo.1 ++
        (authority scheme netloc []).hostinfo.1.rtakeWhile isSpace := by
    rw [hdropped, List.rdropWhile_append_rtakeWhile]
  refine ⟨_, fun hnil => h ?_, fun c hc => List.mem_rtakeWhile_imp hc, hsplit⟩
  rw [hnil, List.append_nil] at hsplit
  exact hsplit.symm

/-- The name of a host without the blanks it ends in. -/
theorem hostname_of_losesBlank (laws : SpellingLaws unicode rawHost) {netloc : List Char}
    (h : LosesBlank netloc) (scheme : List Char) :
    (authority scheme (netloc.rdropWhile isSpace) []).hostname unicode =
      ((authority scheme netloc []).hostname unicode).rdropWhile isSpace := by
  obtain ⟨w, -, hw, hsplit⟩ := exists_blanks h scheme
  obtain ⟨-, hdropped⟩ := hostinfo_of_losesBlank h scheme
  have hclean : (authority scheme (netloc.rdropWhile isSpace) []).hostinfo.1.rdropWhile isSpace =
      (authority scheme (netloc.rdropWhile isSpace) []).hostinfo.1 := by
    rw [hdropped]
    exact List.rdropWhile_idempotent isSpace _
  rw [hostname_append_blanks laws.toLowerLaws hsplit hw,
    rdropWhile_append_blanks (rdropWhile_hostname laws hclean) hw]

theorem lowered_rdropWhile (s : List Char) :
    Ip.lowered (s.rdropWhile isSpace) = (Ip.lowered s).rdropWhile isSpace := by
  have hspace : ∀ c : Char, isSpace c.toLower = isSpace c := by
    intro c
    have hupper : ∀ n < 26, isSpace (Char.ofNat (0x41 + n)).toLower =
        isSpace (Char.ofNat (0x41 + n)) := by decide
    obtain hc | ⟨n, hn, rfl⟩ := Ip.toLower_cases c
    · rw [hc]
    · exact hupper n hn
  induction s using List.reverseRecOn with
  | nil => rfl
  | append_singleton s c ih =>
    have hconcat : Ip.lowered (s ++ [c]) = Ip.lowered s ++ [c.toLower] := List.map_append
    rw [hconcat, List.rdropWhile_concat, List.rdropWhile_concat, hspace]
    split_ifs
    · exact ih
    · exact hconcat

/-- Hosts that differ in the case of letters still do without the blanks that both or neither lose. -/
theorem SameHost.rdropWhile (laws : SpellingLaws unicode rawHost) {scheme netloc netloc' : List Char}
    (h : SameHost unicode (authority scheme netloc []) (authority scheme netloc' []))
    (hblank : LosesBlank netloc ↔ LosesBlank netloc') :
    SameHost unicode (authority scheme (netloc.rdropWhile isSpace) [])
      (authority scheme (netloc'.rdropWhile isSpace) []) := by
  by_cases hlost : LosesBlank netloc
  · have hlost' := hblank.1 hlost
    obtain h | ⟨hascii, hascii', hsame⟩ := h
    · left
      rw [hostname_of_losesBlank laws hlost, hostname_of_losesBlank laws hlost', h]
    · right
      have hkept : ∀ s : List Char, isAscii s = true → isAscii (s.rdropWhile isSpace) = true := by
        intro s hs
        rw [isAscii_iff] at hs ⊢
        exact fun c hc => hs c ((List.rdropWhile_prefix _ _).subset hc)
      rw [(hostinfo_of_losesBlank hlost scheme).2, (hostinfo_of_losesBlank hlost' scheme).2]
      refine ⟨hkept _ hascii, hkept _ hascii', ?_⟩
      rw [lowered_rdropWhile, lowered_rdropWhile, hsame]
  · have hlost' : ¬LosesBlank netloc' := fun h => hlost (hblank.2 h)
    have hkept := hostinfo_of_not_losesBlank hlost scheme
    have hkept' := hostinfo_of_not_losesBlank hlost' scheme
    rw [SameHost, hostname_of_not_losesBlank hlost, hostname_of_not_losesBlank hlost', hkept, hkept']
    exact h

/-! ## Identities of respelled URLs -/

/-- The ports of respelled URLs are the same, or that of the scheme, given or not. -/
theorem port_respelled {scheme netloc netloc' : List Char}
    (h : (authority scheme netloc []).hostinfo.2 = (authority scheme netloc' []).hostinfo.2 ∨
      HasDefaultPort (authority scheme netloc []) ∧ HasDefaultPort (authority scheme netloc' [])) :
    effectivePort scheme (netloc.rdropWhile isSpace) =
      effectivePort scheme (netloc'.rdropWhile isSpace) := by
  rw [effectivePort, effectivePort]
  obtain hsame | ⟨⟨port, hport, hdefault⟩, port', hport', hdefault'⟩ := h
  · have hdropped : (authority scheme (netloc.rdropWhile isSpace) []).hostinfo.2 =
        (authority scheme (netloc'.rdropWhile isSpace) []).hostinfo.2 := by
      rw [port_rdropWhile, port_rdropWhile, hsame]
    rw [port_congr hdropped]
  · rw [port_of_some hport, port_of_some hport', Option.map_some, Option.map_some]
    exact congrArg some (hdefault.trans hdefault'.symm)

/-- Respelled authorities that both or neither lose blanks have the same identity. -/
theorem identityOf_respelled (laws : SpellingLaws unicode rawHost) {scheme netloc netloc' : List Char}
    (hhost : SameHost unicode (authority scheme netloc []) (authority scheme netloc' []))
    (hport : (authority scheme netloc []).hostinfo.2 = (authority scheme netloc' []).hostinfo.2 ∨
      HasDefaultPort (authority scheme netloc []) ∧ HasDefaultPort (authority scheme netloc' []))
    (hblank : LosesBlank netloc ↔ LosesBlank netloc') :
    identityOf unicode rawHost scheme (netloc.rdropWhile isSpace) =
      identityOf unicode rawHost scheme (netloc'.rdropWhile isSpace) := by
  rw [identityOf, identityOf, (hhost.rdropWhile laws hblank).canonical, port_respelled hport]

/-- Authorities of which only one loses blanks have different identities. -/
theorem identityOf_ne_of_losesBlank (laws : SpellingLaws unicode rawHost)
    {scheme netloc netloc' : List Char}
    (hhost : SameHost unicode (authority scheme netloc []) (authority scheme netloc' []))
    (hlost : LosesBlank netloc) (hkept : ¬LosesBlank netloc') {identity : TenantIdentity}
    (hidentity : identityOf unicode rawHost scheme (netloc.rdropWhile isSpace) = some identity) :
    identityOf unicode rawHost scheme (netloc'.rdropWhile isSpace) ≠ some identity := by
  intro hidentity'
  obtain ⟨host, _, hcanonical, hne, -, rfl⟩ := identityOf_eq_some_iff.1 hidentity
  obtain ⟨host', _, hcanonical', hne', -, hsame⟩ := identityOf_eq_some_iff.1 hidentity'
  obtain ⟨w, hw, hspace, hsplit⟩ := exists_blanks hlost scheme
  have hname := @hostname_append_blanks unicode laws.toLowerLaws _ _ _ hsplit hspace
  rw [hostname_of_not_losesBlank hkept, ← hhost.canonical, hname] at hcanonical'
  have hempty := ne_nil_of_canonical hcanonical hne
  have hempty' := List.append_ne_nil_of_left_ne_nil hempty w
  -- A host with a blank has a canonical form only if it is ASCII.
  cases hascii : isAscii ((authority scheme (netloc.rdropWhile isSpace) []).hostname unicode ++ w) with
  | false =>
    obtain ⟨c, hc⟩ := List.exists_mem_of_ne_nil w hw
    have hplain := (laws.plain _ _ (canonicalAsciiHost_idna hempty' hascii hcanonical') c
      (List.mem_append_right _ hc)).2
    cases (hspace c hc).symm.trans hplain
  | true =>
    rw [canonicalAsciiHost_ascii hempty' hascii, lower_append_blanks laws.toLowerLaws _ hspace]
      at hcanonical'
    rw [canonicalAsciiHost_ascii hempty (isAscii_append.1 hascii).1] at hcanonical
    obtain rfl := Except.ok.inj hcanonical
    obtain rfl := Except.ok.inj hcanonical'
    exact compressHost_append_ne hspace hw (congrArg TenantIdentity.host hsame).symm

/-! ## What is read -/

theorem candidateUrl_of_spelled {value : String} {scheme : List Char} {parsed : ParseResult}
    (spelled : Spelled unicode value scheme parsed) (hscheme : IsWeb scheme) :
    urlparse unicode (String.ofList (candidateUrl value)) = some parsed ∧ parsed.scheme = scheme := by
  obtain ⟨-, rest, hstrip, hparsed⟩ := spelled
  have hlower : Ip.lowered scheme = scheme := by
    obtain rfl | rfl := hscheme <;> rfl
  rw [hlower] at hparsed
  rw [candidateUrl, hstrip, if_pos (startsWith_web hscheme)]
  exact ⟨hparsed, (parts_of_urlparse hscheme hparsed).1⟩

/-- A URL with its scheme in lower case is read as it is spelled. -/
theorem readAs_of_isWeb {value : String} {scheme : List Char} {parsed : ParseResult}
    (spelled : Spelled unicode value scheme parsed) (hscheme : IsWeb scheme)
    (hne : parsed.netloc ≠ []) : ReadAs unicode value scheme parsed.netloc := by
  obtain ⟨hparsed, hsame⟩ := candidateUrl_of_spelled spelled hscheme
  obtain ⟨-, ⟨hempty, -⟩ | ⟨hvalid, hsome⟩⟩ := normalizeBaseUrl_of_parsed hparsed
  · exact absurd hempty hne
  · exact ⟨hscheme, hvalid, hsame ▸ hsome⟩

/-- A URL without an authority is refused. -/
theorem netloc_ne_nil {value : String} {scheme scheme' netloc : List Char} {parsed : ParseResult}
    (spelled : Spelled unicode value scheme parsed) (hscheme : IsWeb scheme)
    (reads : ReadAs unicode value scheme' netloc) : parsed.netloc ≠ [] := by
  intro hnil
  obtain ⟨hparsed, -⟩ := candidateUrl_of_spelled spelled hscheme
  obtain ⟨-, ⟨-, hnone⟩ | ⟨hvalid, -⟩⟩ := normalizeBaseUrl_of_parsed hparsed
  · cases hnone.symm.trans reads.normalized
  · exact hvalid.ne_nil hnil

/-- The authority that is read for a scheme that is not in lower case: the scheme itself. -/
def schemeAuthority (scheme : List Char) : List Char := scheme ++ [':']

theorem rdropWhile_schemeAuthority (scheme : List Char) :
    (schemeAuthority scheme).rdropWhile isSpace = schemeAuthority scheme :=
  rdropWhile_append_cons rfl scheme []

section

variable {scheme : List Char} (hweb : IsWeb (Ip.lowered scheme))
include hweb

theorem isLetter_of_mem_scheme : ∀ c ∈ scheme, isLetter c = true := by
  intro c hc
  by_contra hletter
  have hmem := (Ip.mem_lowered_iff (Bool.eq_false_of_not_eq_true hletter)).2 hc
  have hletters : ∀ d ∈ "http".toList ++ "https".toList, isLetter d = true :=
    List.all_eq_true.1 (by decide)
  obtain h | h := hweb
  · rw [h] at hmem
    exact hletter (hletters c (List.mem_append_left _ hmem))
  · rw [h] at hmem
    exact hletter (hletters c (List.mem_append_right _ hmem))

theorem notMem_scheme {c : Char} (hc : isLetter c = false) : c ∉ scheme := fun hmem => by
  cases hc.symm.trans (isLetter_of_mem_scheme hweb c hmem)

theorem notMem_schemeAuthority {c : Char} (hc : isLetter c = false) (hne : c ≠ ':') :
    c ∉ schemeAuthority scheme := by
  rw [schemeAuthority, List.mem_append, List.mem_singleton, not_or]
  exact ⟨notMem_scheme hweb hc, hne⟩

theorem isAscii_scheme : isAscii scheme = true := by
  rw [isAscii_iff]
  intro c hc
  have hletter := isLetter_of_mem_scheme hweb c hc
  rw [isLetter, Bool.or_eq_true, Bool.and_eq_true, Bool.and_eq_true, decide_eq_true_eq,
    decide_eq_true_eq, decide_eq_true_eq, decide_eq_true_eq] at hletter
  obtain ⟨-, hle⟩ | ⟨-, hle⟩ := hletter
  · exact lt_of_le_char hle (by decide)
  · exact lt_of_le_char hle (by decide)

theorem isNetloc_schemeAuthority : IsNetloc unicode (schemeAuthority scheme) where
  ne_nil := List.append_ne_nil_of_right_ne_nil _ (List.cons_ne_nil _ _)
  chars := by
    intro c hc
    obtain hc | hc := List.mem_append.1 hc
    · have hdelimiters : ∀ d ∈ ['/', '?', '#', '\t', '\r', '\n'], (!isLetter d) = true :=
        List.all_eq_true.1 (by decide)
      rw [isNetlocChar, Bool.not_eq_true', ← Bool.not_eq_true, List.contains_iff_mem]
      exact fun hmem => notMem_scheme hweb (by simpa using hdelimiters c hmem) hc
    · obtain rfl := List.mem_singleton.1 hc
      rfl
  brackets := bracketsValid_of_notMem (notMem_schemeAuthority hweb rfl (by decide))
    (notMem_schemeAuthority hweb rfl (by decide))
  check := by
    have hascii : isAscii (schemeAuthority scheme) = true :=
      isAscii_append.2 ⟨isAscii_scheme hweb, rfl⟩
    rw [checkNetloc, hascii, Bool.or_true, Bool.true_or]

theorem hostinfo_schemeAuthority (s : List Char) :
    (authority s (schemeAuthority scheme) []).hostinfo = (scheme, []) := by
  rw [hostinfo_plain (notMem_schemeAuthority hweb rfl (by decide))
    (notMem_schemeAuthority hweb rfl (by decide))]
  change ((partition ':' (scheme ++ [':'])).1, (partition ':' (scheme ++ [':'])).2.2) = _
  rw [partition_append (notMem_scheme hweb rfl)]

/-- The host that is read is the scheme. -/
theorem hostname_schemeAuthority (s : List Char) :
    (authority s (schemeAuthority scheme) []).hostname unicode = Ip.lowered scheme := by
  rw [ParseResult.hostname, hostinfo_schemeAuthority hweb,
    partition_of_notMem (notMem_scheme hweb rfl)]
  dsimp only
  rw [if_neg Bool.false_ne_true, List.append_nil, lower_eq_lowered (isAscii_scheme hweb)]

theorem lower_lowered_scheme : unicode.lower (Ip.lowered scheme) = Ip.lowered scheme := by
  obtain h | h := hweb <;> rw [h] <;> exact unicode.lower_ascii _ rfl

theorem tenantIdentity_schemeAuthority :
    tenantIdentity unicode rawHost (web "https".toList (schemeAuthority scheme) []) =
      .ok (some ⟨"https".toList, Ip.lowered scheme, 443⟩) := by
  have hvalid : IsNetloc unicode (schemeAuthority scheme) := isNetloc_schemeAuthority hweb
  have hnil : Ip.lowered scheme ≠ [] := by
    obtain h | h := hweb <;> rw [h] <;> exact List.cons_ne_nil _ _
  have haddress : Ip.address (Ip.lowered scheme) = none := by
    obtain h | h := hweb <;> rw [h] <;> decide +kernel
  have hascii : isAscii (Ip.lowered scheme) = true := by
    obtain h | h := hweb <;> rw [h] <;> rfl
  rw [tenantIdentity_eq_some_iff (.inr rfl) hvalid.chars, rdropWhile_schemeAuthority]
  refine ⟨parses_web (.inr rfl) hvalid ⟨.inl rfl, by simp⟩, identityOf_eq_some_iff.2
    ⟨Ip.lowered scheme, 443, ?_, hnil, ?_, ?_⟩⟩
  · rw [hostname_schemeAuthority hweb, canonicalAsciiHost_ascii hnil hascii,
      lower_lowered_scheme hweb]
  · rw [effectivePort, ParseResult.port, hostinfo_schemeAuthority hweb]
    rfl
  · rw [compressHost_of_none haddress]

end

/-- A URL with its scheme in another case is read as one of the host that the scheme is. -/
theorem readAs_of_not_isWeb {value : String} {scheme : List Char} {parsed : ParseResult}
    (spelled : Spelled unicode value scheme parsed) (hscheme : ¬IsWeb scheme) :
    ReadAs unicode value "https".toList (schemeAuthority scheme) := by
  obtain ⟨hweb, rest, hstrip, -⟩ := spelled
  have hcolon : ':' ∉ scheme := notMem_scheme hweb rfl
  have hslashes : "://".toList = ':' :: '/' :: ['/'] := rfl
  have hstarts : ¬(startsWith (strip value.toList) "http://".toList ||
      startsWith (strip value.toList) "https://".toList) = true := by
    intro hstarts
    obtain ⟨scheme', rest', hscheme', hsplit⟩ := isPrefix_web hstarts
    have hcolon' : ':' ∉ scheme' := by
      obtain rfl | rfl := hscheme' <;> decide
    have hparts := congrArg (partition ':') (hstrip.symm.trans hsplit)
    rw [List.append_assoc, List.append_assoc] at hparts
    change partition ':' (scheme ++ ':' :: ('/' :: '/' :: rest)) =
      partition ':' (scheme' ++ ':' :: ('/' :: '/' :: rest')) at hparts
    rw [partition_append hcolon, partition_append hcolon'] at hparts
    exact hscheme ((Prod.mk.inj hparts).1 ▸ hscheme')
  have hne : strip value.toList ≠ [] := by
    rw [hstrip, hslashes]
    simp
  have hnormalized := @normalizeBaseUrl_eq unicode _ _ (strip value.toList) (.inr rfl) hne
    (if_neg hstarts)
  have hvalid : IsNetloc unicode (schemeAuthority scheme) := isNetloc_schemeAuthority hweb
  have hnetloc : ((strip value.toList).filter fun c => !(['\t', '\r', '\n'].contains c)).takeWhile
      (fun c => !(['/', '?', '#'].contains c)) = schemeAuthority scheme := by
    have hkept : ∀ c ∈ schemeAuthority scheme, (!(['/', '?', '#'].contains c)) = true ∧
        (!(['\t', '\r', '\n'].contains c)) = true := by
      intro c hc
      have hchar := hvalid.chars c hc
      simp only [isNetlocChar, List.contains_cons, List.contains_nil, Bool.or_false, Bool.not_or,
        Bool.and_eq_true] at hchar ⊢
      exact ⟨⟨hchar.1, hchar.2.1, hchar.2.2.1⟩, hchar.2.2.2⟩
    have hsplit : strip value.toList = schemeAuthority scheme ++ '/' :: '/' :: rest := by
      rw [hstrip, hslashes, schemeAuthority]
      simp
    rw [hsplit, List.filter_append, List.filter_eq_self.2 fun c hc => (hkept c hc).2,
      List.takeWhile_append_of_pos fun c hc => (hkept c hc).1, List.filter_cons_of_pos rfl,
      List.takeWhile_cons_of_neg (by decide), List.append_nil]
  obtain ⟨parsed', hparsed', hsame⟩ :=
    @exists_urlparse unicode _ _ _ (.inr rfl) hnetloc hvalid.brackets hvalid.check
  refine ⟨.inr rfl, hvalid, hnormalized.trans ?_⟩
  rw [normalizeWeb, hparsed']
  dsimp only
  rw [hsame, if_neg (by rw [List.isEmpty_iff]; exact hvalid.ne_nil)]

/-! ## Sinks -/

/-- The check of a URL is that of its host, as it is looked up. -/
theorem rejectPrivateUrl_congr {scheme netloc scheme' netloc' : List Char} (hscheme : IsWeb scheme)
    (hvalid : IsNetloc unicode netloc) (hscheme' : IsWeb scheme') (hvalid' : IsNetloc unicode netloc')
    (h : unicode.lower ((authority scheme netloc []).hostname unicode) =
      unicode.lower ((authority scheme' netloc' []).hostname unicode)) :
    rejectPrivateUrl unicode rawHost getaddrinfo (web scheme netloc []) =
      rejectPrivateUrl unicode rawHost getaddrinfo (web scheme' netloc' []) := by
  have hurl : ∀ s n : List Char, IsWeb s → web s n [] ≠ "" := by
    intro s n hs hempty
    have hlist := congrArg String.toList hempty
    rw [web, String.toList_ofList] at hlist
    obtain rfl | rfl := hs <;> cases hlist
  rw [authority, authority] at h
  rw [rejectPrivateUrl, if_neg (hurl _ _ hscheme), rejectPrivateUrl, if_neg (hurl _ _ hscheme'),
    urlparse_web hscheme hvalid ⟨.inl rfl, by simp⟩, urlparse_web hscheme' hvalid' ⟨.inl rfl, by simp⟩]
  dsimp only
  rw [h]

theorem rejectPrivateTenantSink_single (config : AppConfig) (url : String) (skipFixture : Bool) :
    rejectPrivateTenantSink unicode rawHost getaddrinfo config [url] skipFixture = .ok () ↔
      (skipFixture && config.resourceSpace.mode = "fixture") = true ∨
        rejectPrivateUrl unicode rawHost getaddrinfo url = .ok () := by
  rw [rejectPrivateTenantSink]
  split_ifs with hskip
  · exact iff_of_true rfl (.inl hskip)
  · change (rejectPrivateUrl unicode rawHost getaddrinfo url >>= fun _ => .ok ()) = _ ↔ _
    rw [or_iff_right hskip]
    cases rejectPrivateUrl unicode rawHost getaddrinfo url with
    | error e => rfl
    | ok _ => exact iff_of_true rfl rfl

/-- A tenant is made up for both of two URLs of an identity, where the check of the one implies
    that of the other, and the other has no credentials. -/
theorem MakesUp.congr {config : AppConfig} {scheme netloc scheme' netloc' : List Char}
    {identity : TenantIdentity}
    (makes : MakesUp unicode rawHost getaddrinfo config scheme netloc identity)
    (hsink : rejectPrivateUrl unicode rawHost getaddrinfo (web scheme netloc []) = .ok () →
      rejectPrivateUrl unicode rawHost getaddrinfo (web scheme' netloc' []) = .ok ())
    (hat : '@' ∉ netloc') : MakesUp unicode rawHost getaddrinfo config scheme' netloc' identity where
  approved := makes.approved
  sink := (rejectPrivateTenantSink_single _ _ _).2
    (((rejectPrivateTenantSink_single _ _ _).1 makes.sink).imp_right hsink)
  https := makes.https
  port := makes.port
  anonymous := hat

/-- A name that is resolved, and a URL that leads to it: a tenant is made up for it. -/
theorem makesUp_resolverOf {netloc name : List Char} {identity : TenantIdentity}
    (hvalid : IsNetloc unicode netloc)
    (hname : canonicalAsciiHost unicode rawHost
      (unicode.lower ((authority "https".toList netloc []).hostname unicode)) = .ok name)
    (hne : name ≠ []) (hhttps : identity.scheme = "https".toList) (hport : identity.port ≠ 0)
    (hat : '@' ∉ netloc) :
    MakesUp unicode rawHost (resolverOf name) Sample.config "https".toList netloc identity where
  approved := rfl
  sink := by
    refine (rejectPrivateTenantSink_single _ _ _).2 (.inr ?_)
    refine (checked_of_rejectPrivateUrl hvalid (ne_nil_of_canonical hname hne)).2 ⟨name, ["8.8.8.8".toList], hname, hne, ?_,
      publicHost_resolverOf name⟩
    rw [resolverOf, if_pos rfl]
  https := hhttps
  port := hport
  anonymous := hat

/-- A URL that leads to another name that is no literal: none is made up for it. -/
theorem not_makesUp_resolverOf {netloc name host : List Char} {identity : TenantIdentity}
    (hvalid : IsNetloc unicode netloc)
    (hhost : canonicalAsciiHost unicode rawHost
      (unicode.lower ((authority "https".toList netloc []).hostname unicode)) = .ok host)
    (hnil : host ≠ []) (hne : host ≠ name) (hnone : Ip.address host = none) :
    ¬MakesUp unicode rawHost (resolverOf name) Sample.config "https".toList netloc identity := by
  intro makes
  obtain hskip | hsink := (rejectPrivateTenantSink_single _ _ _).1 makes.sink
  · cases hskip
  · obtain ⟨ascii, infos, hascii, -, -, hpublic⟩ :=
      (checked_of_rejectPrivateUrl hvalid (ne_nil_of_canonical hhost hnil)).1 hsink
    obtain rfl := Except.ok.inj (hhost.symm.trans hascii)
    refine not_publicHost_resolverOf hne (fun ip hip => ?_) hpublic
    cases hnone.symm.trans hip

/-! ## When respelled URLs have the same tenant -/

/-- The URL is one of the host `https` at the port 443, as a URL is read whose scheme
    is not in lower case. -/
structure NamesHttps (unicode : Unicode) (rawHost : List Char → Option (List Char))
    (scheme netloc : List Char) : Prop where
  secure : scheme = "https".toList
  parses : Parses unicode (web scheme (netloc.rdropWhile isSpace) [])
  host : canonicalAsciiHost unicode rawHost
    ((authority scheme (netloc.rdropWhile isSpace) []).hostname unicode) = .ok "https".toList
  port : effectivePort scheme (netloc.rdropWhile isSpace) = some 443

/-- The spellings of the schemes and the authorities of two URLs that keep the tenant: both schemes
    are in lower case and both or neither host loses blanks, or neither scheme is, or the URL
    of which the scheme is happens to name the host that is read for the other. -/
inductive Keeps (unicode : Unicode) (rawHost : List Char → Option (List Char))
    (scheme netloc scheme' netloc' : List Char) : Prop
  | both (known : IsWeb scheme) (known' : IsWeb scheme') (blank : LosesBlank netloc ↔ LosesBlank netloc')
      (parses : Parses unicode (web scheme' (netloc'.rdropWhile isSpace) []))
  | neither (unknown : ¬IsWeb scheme) (unknown' : ¬IsWeb scheme')
  | fromHttps (known : IsWeb scheme) (unknown' : ¬IsWeb scheme')
      (names : NamesHttps unicode rawHost scheme netloc)
      (refused : LosesBlank netloc →
        '@' ∈ netloc ∨ isAscii ((authority scheme netloc []).hostname unicode) = false)
  | toHttps (unknown : ¬IsWeb scheme) (known' : IsWeb scheme')
      (names : NamesHttps unicode rawHost scheme' netloc') (blank : ¬LosesBlank netloc')
      (anonymous : '@' ∉ netloc')

/-- The host that is read for a scheme is looked up as the scheme in lower case. -/
theorem canonicalAsciiHost_schemeAuthority {scheme : List Char} (hweb : IsWeb (Ip.lowered scheme))
    (s : List Char) : canonicalAsciiHost unicode rawHost
      (unicode.lower ((authority s (schemeAuthority scheme) []).hostname unicode)) =
        .ok (Ip.lowered scheme) := by
  have hnil : Ip.lowered scheme ≠ [] := by
    obtain h | h := hweb <;> rw [h] <;> exact List.cons_ne_nil _ _
  have hascii : isAscii (Ip.lowered scheme) = true := by
    obtain h | h := hweb <;> rw [h] <;> rfl
  rw [hostname_schemeAuthority hweb, lower_lowered_scheme hweb, canonicalAsciiHost_ascii hnil hascii,
    lower_lowered_scheme hweb]

theorem address_https : Ip.address "https".toList = none := by decide +kernel

theorem eq_https_of_compressHost {host : List Char} (h : compressHost host = "https".toList) :
    host = "https".toList := by
  cases hip : Ip.address host with
  | none => rwa [compressHost_of_none hip] at h
  | some ip =>
    have hread := Ip.address_compressed (Ip.valid_of_address hip)
    rw [compressHost, hip] at h
    change ip.compressed = "https".toList at h
    rw [h, address_https] at hread
    cases hread

theorem namesHttps_iff {scheme netloc : List Char} (hscheme : IsWeb scheme)
    (hchars : ∀ c ∈ netloc, isNetlocChar c = true) :
    tenantIdentity unicode rawHost (web scheme netloc []) =
        .ok (some ⟨"https".toList, scheme, 443⟩) ↔ NamesHttps unicode rawHost scheme netloc := by
  rw [tenantIdentity_eq_some_iff hscheme hchars, identityOf_eq_some_iff]
  constructor
  · rintro ⟨hparses, host, port, hcanonical, -, hport, hidentity⟩
    obtain rfl : "https".toList = scheme := congrArg TenantIdentity.scheme hidentity
    obtain rfl := eq_https_of_compressHost (congrArg TenantIdentity.host hidentity).symm
    obtain rfl : 443 = port := congrArg TenantIdentity.port hidentity
    exact ⟨rfl, hparses, hcanonical, hport⟩
  · rintro ⟨rfl, hparses, hcanonical, hport⟩
    refine ⟨hparses, _, _, hcanonical, List.cons_ne_nil _ _, hport, ?_⟩
    rw [compressHost_of_none address_https]

/-- A host with a canonical form is looked up under it. -/
theorem canonicalAsciiHost_lower (laws : LowerLaws unicode) (idna : IdnaLaws rawHost)
    {r : ParseResult} {host : List Char} (hne : host ≠ [])
    (h : canonicalAsciiHost unicode rawHost (r.hostname unicode) = .ok host) :
    canonicalAsciiHost unicode rawHost (unicode.lower (r.hostname unicode)) = .ok host := by
  have hnil := ne_nil_of_canonical h hne
  cases hascii : isAscii (r.hostname unicode) with
  | true =>
    have hlower : isAscii (unicode.lower (r.hostname unicode)) = true := isAscii_lower hascii
    rw [canonicalAsciiHost_ascii hnil hascii] at h
    rw [canonicalAsciiHost_ascii (lower_ne_nil hnil hascii) hlower, laws.lower_lower]
    exact h
  | false =>
    rw [lower_hostname_of_idna laws idna (canonicalAsciiHost_idna hnil hascii h)]
    exact h

/-- The checks of URLs with hosts that are looked up under one name are the same. -/
theorem rejectPrivateUrl_of_canonical {netloc netloc' host : List Char} (hvalid : IsNetloc unicode netloc)
    (hvalid' : IsNetloc unicode netloc') (hne : host ≠ [])
    (hhost : canonicalAsciiHost unicode rawHost
      (unicode.lower ((authority "https".toList netloc []).hostname unicode)) = .ok host)
    (hhost' : canonicalAsciiHost unicode rawHost
      (unicode.lower ((authority "https".toList netloc' []).hostname unicode)) = .ok host) :
    rejectPrivateUrl unicode rawHost getaddrinfo (web "https".toList netloc []) = .ok () ↔
      rejectPrivateUrl unicode rawHost getaddrinfo (web "https".toList netloc' []) = .ok () := by
  rw [checked_of_rejectPrivateUrl hvalid (ne_nil_of_canonical hhost hne),
    checked_of_rejectPrivateUrl hvalid' (ne_nil_of_canonical hhost' hne), hhost, hhost']

/-- What has the same tenant is made up where the registry is empty. -/
theorem SameTenant.makesUp {value value' : String} {scheme netloc scheme' netloc' : List Char}
    {identity : TenantIdentity} (same : SameTenant unicode rawHost value value')
    (reads : ReadAs unicode value scheme netloc) (reads' : ReadAs unicode value' scheme' netloc')
    (hidentity : tenantIdentity unicode rawHost (web scheme netloc []) = .ok (some identity))
    (hidentity' : tenantIdentity unicode rawHost (web scheme' netloc' []) = .ok (some identity))
    (makes : MakesUp unicode rawHost getaddrinfo Sample.config scheme netloc identity) :
    MakesUp unicode rawHost getaddrinfo Sample.config scheme' netloc' identity := by
  obtain ⟨tenant', accepted', -⟩ := same _ _ _
    (reads.ok_iff.2 ⟨identity, hidentity, .madeUp rfl makes⟩)
  obtain ⟨identity', hsame, resolves⟩ := reads'.ok_iff.1 accepted'
  obtain rfl := Option.some.inj (Except.ok.inj (hidentity'.symm.trans hsame))
  cases resolves with
  | registered found _ => cases found
  | madeUp _ makes' => exact makes'

namespace NamesHttps

variable {scheme netloc : List Char} (names : NamesHttps unicode rawHost scheme netloc)
include names

/-- A host that loses no blank is looked up as `https`. -/
theorem looked (laws : SpellingLaws unicode rawHost) (hkept : ¬LosesBlank netloc) :
    canonicalAsciiHost unicode rawHost
      (unicode.lower ((authority "https".toList netloc []).hostname unicode)) = .ok "https".toList := by
  have hhost := names.host
  rw [names.secure, hostname_of_not_losesBlank hkept] at hhost
  exact canonicalAsciiHost_lower laws.toLowerLaws laws.toIdnaLaws (List.cons_ne_nil _ _) hhost

/-- A host that loses blanks is looked up with them, if it is ASCII. -/
theorem looked_of_losesBlank (laws : SpellingLaws unicode rawHost) (hlost : LosesBlank netloc)
    (hascii : isAscii ((authority "https".toList netloc []).hostname unicode) = true) :
    ∃ w, w ≠ [] ∧ (∀ c ∈ w, isSpace c = true) ∧ canonicalAsciiHost unicode rawHost
      (unicode.lower ((authority "https".toList netloc []).hostname unicode)) =
        .ok ("https".toList ++ w) := by
  have hhost := names.host
  obtain ⟨w, hne, hspace, hsplit⟩ := exists_blanks hlost "https".toList
  have hname := @hostname_append_blanks unicode laws.toLowerLaws _ _ _ hsplit hspace
  rw [hname, isAscii_append] at hascii
  have hnil := ne_nil_of_canonical hhost (List.cons_ne_nil _ _)
  rw [names.secure] at hhost hnil
  rw [canonicalAsciiHost_ascii hnil hascii.1] at hhost
  have hlower := lower_append_blanks laws.toLowerLaws
    ((authority "https".toList (netloc.rdropWhile isSpace) []).hostname unicode) hspace
  rw [Except.ok.inj hhost] at hlower
  have hplain : isAscii ("https".toList ++ w) = true := isAscii_append.2 ⟨rfl, hascii.2⟩
  refine ⟨w, hne, hspace, ?_⟩
  rw [hname, hlower, canonicalAsciiHost_ascii (List.append_ne_nil_of_right_ne_nil _ hne) hplain,
    ← hlower, laws.lower_lower]

/-- A host that loses blanks and is not ASCII is refused. -/
theorem not_checked (laws : SpellingLaws unicode rawHost) (hvalid : IsNetloc unicode netloc)
    (hlost : LosesBlank netloc)
    (hascii : isAscii ((authority "https".toList netloc []).hostname unicode) = false) :
    rejectPrivateUrl unicode rawHost getaddrinfo (web "https".toList netloc []) ≠ .ok () := by
  intro hsink
  have hhost := names.host
  rw [names.secure] at hhost
  obtain ⟨w, hne, hspace, hsplit⟩ := exists_blanks hlost "https".toList
  have hname := @hostname_append_blanks unicode laws.toLowerLaws _ _ _ hsplit hspace
  have hlower : unicode.lower ((authority "https".toList netloc []).hostname unicode) ≠ [] := by
    rw [hname, lower_append_blanks laws.toLowerLaws _ hspace]
    exact List.append_ne_nil_of_right_ne_nil _ hne
  obtain ⟨ascii, -, hchecked, -⟩ := (checked_of_rejectPrivateUrl hvalid hlower).1 hsink
  cases hascii.symm.trans (isAscii_of_endsInBlank laws.toLowerLaws laws.toIdnaLaws hname hne hspace
    hchecked hhost (List.cons_ne_nil _ _))

end NamesHttps

/-! ## The four cases -/

section

variable {value value' : String} {scheme scheme' : List Char} {parsed parsed' : ParseResult}

/-- What is read of a URL with its scheme in lower case, from what is read and has an identity. -/
theorem Spelled.readAs (spelled : Spelled unicode value scheme parsed) (known : IsWeb scheme)
    {s n : List Char} (reads : ReadAs unicode value s n) {identity : TenantIdentity}
    (hidentity : tenantIdentity unicode rawHost (web s n []) = .ok (some identity)) :
    ReadAs unicode value scheme parsed.netloc ∧
      tenantIdentity unicode rawHost (web scheme parsed.netloc []) = .ok (some identity) := by
  have reads' := readAs_of_isWeb spelled known (netloc_ne_nil spelled known reads)
  exact ⟨reads', reads.unique reads' ▸ hidentity⟩

/-- The identity of a URL with its scheme not in lower case. -/
theorem Spelled.identity (spelled : Spelled unicode value scheme parsed) (unknown : ¬IsWeb scheme)
    {s n : List Char} (reads : ReadAs unicode value s n) {identity : TenantIdentity}
    (hidentity : tenantIdentity unicode rawHost (web s n []) = .ok (some identity)) :
    identity = ⟨"https".toList, Ip.lowered scheme, 443⟩ := by
  rw [reads.unique (readAs_of_not_isWeb spelled unknown), tenantIdentity_schemeAuthority spelled.1]
    at hidentity
  exact (Option.some.inj (Except.ok.inj hidentity)).symm

theorem Spelled.lowered (spelled : Spelled unicode value scheme parsed) :
    parsed.scheme = Ip.lowered scheme := by
  obtain ⟨hweb, rest, -, hparsed⟩ := spelled
  exact (parts_of_urlparse hweb hparsed).1

theorem lowered_of_isWeb (known : IsWeb scheme) : Ip.lowered scheme = scheme := by
  obtain rfl | rfl := known <;> rfl

theorem Respells.lowered (respells : Respells unicode parsed parsed')
    (spelled : Spelled unicode value scheme parsed)
    (spelled' : Spelled unicode value' scheme' parsed') : Ip.lowered scheme = Ip.lowered scheme' := by
  rw [← spelled.lowered, ← spelled'.lowered, respells.scheme]

theorem Respells.anonymous (respells : Respells unicode parsed parsed') (h : '@' ∉ parsed.netloc) :
    '@' ∉ parsed'.netloc := by
  rw [← username_eq_none_iff, ParseResult.username] at h ⊢
  rwa [← respells.userinfo]

variable (laws : SpellingLaws unicode rawHost) (spelled : Spelled unicode value scheme parsed)
  (spelled' : Spelled unicode value' scheme' parsed') (respells : Respells unicode parsed parsed')
  {config : AppConfig} {tenant : Tenant}
  (accepted : getConfiguredTenant unicode rawHost getaddrinfo config (some value) = .ok tenant)
include laws spelled spelled' respells accepted

theorem sameTenant_iff_of_isWeb (known : IsWeb scheme) (known' : IsWeb scheme') :
    SameTenant unicode rawHost value value' ↔
      (LosesBlank parsed.netloc ↔ LosesBlank parsed'.netloc) ∧
        Parses unicode (web scheme' (parsed'.netloc.rdropWhile isSpace) []) := by
  have hscheme : scheme = scheme' := by
    rw [← lowered_of_isWeb known, ← lowered_of_isWeb known', respells.lowered spelled spelled']
  subst hscheme
  obtain rfl : parsed.scheme = scheme := (candidateUrl_of_spelled spelled known).2
  obtain ⟨_, _, identity, reads, hidentity, -⟩ := exists_readAs accepted
  obtain ⟨reads, hidentity⟩ := spelled.readAs known reads hidentity
  have hsome := ((tenantIdentity_eq_some_iff known reads.valid.chars).1 hidentity).2
  have hport : (authority parsed.scheme parsed.netloc []).hostinfo.2 =
      (authority parsed.scheme parsed'.netloc []).hostinfo.2 ∨
      HasDefaultPort (authority parsed.scheme parsed.netloc []) ∧
        HasDefaultPort (authority parsed.scheme parsed'.netloc []) := by
    refine respells.port.imp_right fun hdefault => ⟨hdefault.1, ?_⟩
    rw [respells.scheme]
    exact hdefault.2
  constructor
  -- The blanks that one spelling loses would tell the identities apart.
  · intro same
    obtain ⟨_, _, reads', hidentity'⟩ := identity_of_sameTenant reads hidentity same
    obtain ⟨reads', hidentity'⟩ := spelled'.readAs known' reads' hidentity'
    obtain ⟨hparses', hsome'⟩ := (tenantIdentity_eq_some_iff known' reads'.valid.chars).1 hidentity'
    refine ⟨⟨fun hlost => ?_, fun hlost => ?_⟩, hparses'⟩
    · by_contra hkept
      exact identityOf_ne_of_losesBlank laws respells.host hlost hkept hsome hsome'
    · by_contra hkept
      exact identityOf_ne_of_losesBlank laws respells.host.symm hlost hkept hsome' hsome
  -- Identity and checked host agree, so any configuration resolves both alike.
  · rintro ⟨hblank, hparses'⟩
    have hsome' : identityOf unicode rawHost parsed.scheme (parsed'.netloc.rdropWhile isSpace) =
        some identity := (identityOf_respelled laws respells.host hport hblank).symm.trans hsome
    have hne : parsed'.netloc ≠ [] := by
      intro hnil
      rw [hnil, List.rdropWhile_nil, identityOf_nil] at hsome'
      cases hsome'
    have reads' := readAs_of_isWeb spelled' known' hne
    refine sameTenant_of_makesUp reads reads' hidentity
      ((tenantIdentity_eq_some_iff known' reads'.valid.chars).2 ⟨hparses', hsome'⟩)
      fun config getaddrinfo makes => makes.congr (fun hsink => ?_) (respells.anonymous makes.anonymous)
    rw [← hsink]
    exact (rejectPrivateUrl_congr known reads.valid known' reads'.valid respells.host.lower).symm

omit laws accepted in
/-- URLs with schemes in another case are read as URLs of one host. -/
theorem sameTenant_of_not_isWeb (unknown : ¬IsWeb scheme) (unknown' : ¬IsWeb scheme') :
    SameTenant unicode rawHost value value' := by
  have hlowered := respells.lowered spelled spelled'
  have reads := readAs_of_not_isWeb spelled unknown
  have reads' := readAs_of_not_isWeb spelled' unknown'
  have hidentity' := @tenantIdentity_schemeAuthority unicode rawHost _ spelled'.1
  rw [← hlowered] at hidentity'
  refine sameTenant_of_makesUp reads reads' (tenantIdentity_schemeAuthority spelled.1) hidentity'
    fun config getaddrinfo makes => makes.congr (fun hsink => ?_)
      (notMem_schemeAuthority spelled'.1 rfl (by decide))
  rw [← hsink]
  refine rejectPrivateUrl_congr (.inr rfl) reads'.valid (.inr rfl) reads.valid ?_
  rw [hostname_schemeAuthority spelled.1, hostname_schemeAuthority spelled'.1, hlowered]

/-- The one URL names the host that is read for the other, which has its scheme in another case. -/
theorem sameTenant_iff_fromHttps (known : IsWeb scheme) (unknown' : ¬IsWeb scheme') :
    SameTenant unicode rawHost value value' ↔
      NamesHttps unicode rawHost scheme parsed.netloc ∧ (LosesBlank parsed.netloc →
        '@' ∈ parsed.netloc ∨ isAscii (parsed.hostname unicode) = false) := by
  obtain ⟨_, _, identity, reads, hidentity, -⟩ := exists_readAs accepted
  obtain ⟨reads, hidentity⟩ := spelled.readAs known reads hidentity
  have reads' := readAs_of_not_isWeb spelled' unknown'
  have hlowered : Ip.lowered scheme' = scheme := by
    rw [← respells.lowered spelled spelled', lowered_of_isWeb known]
  have hidentity' := @tenantIdentity_schemeAuthority unicode rawHost _ spelled'.1
  have hlooked' := @canonicalAsciiHost_schemeAuthority unicode rawHost _ spelled'.1 "https".toList
  rw [hlowered] at hidentity' hlooked'
  constructor
  · intro same
    obtain ⟨_, _, readsₛ, hidentityₛ⟩ := identity_of_sameTenant reads hidentity same
    have hsame := spelled'.identity unknown' readsₛ hidentityₛ
    rw [hlowered] at hsame
    subst hsame
    have names := (namesHttps_iff known reads.valid.chars).1 hidentity
    obtain rfl := names.secure
    refine ⟨names, fun hlost => ?_⟩
    by_contra hrefused
    rw [not_or, Bool.not_eq_false] at hrefused
    obtain ⟨w, hne, hspace, hlooked⟩ := names.looked_of_losesBlank laws hlost hrefused.2
    -- A resolver that knows only the name with its blanks makes up the first tenant.
    have makes : MakesUp unicode rawHost (resolverOf ("https".toList ++ w)) Sample.config
        "https".toList parsed.netloc ⟨"https".toList, "https".toList, 443⟩ :=
      makesUp_resolverOf reads.valid hlooked (List.append_ne_nil_of_right_ne_nil _ hne) rfl
        (by decide) hrefused.1
    exact not_makesUp_resolverOf reads'.valid hlooked' (List.cons_ne_nil _ _)
      (fun h => hne (List.append_right_eq_self.1 h.symm)) address_https
      (same.makesUp reads reads' hidentity hidentity' makes)
  · rintro ⟨names, hrefused⟩
    obtain rfl := names.secure
    have hsame := hidentity.symm.trans ((namesHttps_iff known reads.valid.chars).2 names)
    obtain rfl := Option.some.inj (Except.ok.inj hsame)
    refine sameTenant_of_makesUp reads reads' hidentity hidentity' fun config getaddrinfo makes =>
      makes.congr (fun hsink => ?_) (notMem_schemeAuthority spelled'.1 rfl (by decide))
    by_cases hlost : LosesBlank parsed.netloc
    · obtain hat | hascii := hrefused hlost
      · exact absurd hat makes.anonymous
      · exact absurd hsink (names.not_checked laws reads.valid hlost hascii)
    · exact (rejectPrivateUrl_of_canonical reads.valid reads'.valid (List.cons_ne_nil _ _)
        (names.looked laws hlost) hlooked').1 hsink

omit accepted in
/-- The URL with its scheme in another case is read as one of the host that the other one names. -/
theorem sameTenant_iff_toHttps (unknown : ¬IsWeb scheme) (known' : IsWeb scheme') :
    SameTenant unicode rawHost value value' ↔
      NamesHttps unicode rawHost scheme' parsed'.netloc ∧ ¬LosesBlank parsed'.netloc ∧
        '@' ∉ parsed'.netloc := by
  have reads := readAs_of_not_isWeb spelled unknown
  have hlowered : Ip.lowered scheme = scheme' := by
    rw [respells.lowered spelled spelled', lowered_of_isWeb known']
  have hidentity := @tenantIdentity_schemeAuthority unicode rawHost _ spelled.1
  have hlooked := @canonicalAsciiHost_schemeAuthority unicode rawHost _ spelled.1 "https".toList
  rw [hlowered] at hidentity hlooked
  constructor
  · intro same
    obtain ⟨_, _, reads', hidentity'⟩ := identity_of_sameTenant reads hidentity same
    obtain ⟨reads', hidentity'⟩ := spelled'.readAs known' reads' hidentity'
    have names := (namesHttps_iff known' reads'.valid.chars).1 hidentity'
    obtain rfl := names.secure
    -- A resolver that knows the host named by the scheme alone makes up the first tenant,
    -- so the second spelling has to be resolved by it too.
    have makes : MakesUp unicode rawHost (resolverOf "https".toList) Sample.config
        "https".toList (schemeAuthority scheme) ⟨"https".toList, "https".toList, 443⟩ :=
      makesUp_resolverOf reads.valid hlooked (List.cons_ne_nil _ _) rfl (by decide)
        (notMem_schemeAuthority spelled.1 rfl (by decide))
    have makes' := same.makesUp reads reads' hidentity hidentity' makes
    refine ⟨names, fun hlost => ?_, makes'.anonymous⟩
    cases hascii : isAscii ((authority "https".toList parsed'.netloc []).hostname unicode) with
    | false =>
      obtain hskip | hsink := (rejectPrivateTenantSink_single _ _ _).1 makes'.sink
      · cases hskip
      · exact names.not_checked laws reads'.valid hlost hascii hsink
    | true =>
      obtain ⟨w, hne, hspace, hlooked'⟩ := names.looked_of_losesBlank laws hlost hascii
      obtain ⟨c, hc⟩ := List.exists_mem_of_ne_nil w hne
      have hcolon : ':' ∉ "https".toList ++ w := by
        rw [List.mem_append, not_or]
        exact ⟨by decide, fun hmem => absurd (hspace _ hmem) (by decide)⟩
      exact not_makesUp_resolverOf reads'.valid hlooked'
        (List.append_ne_nil_of_right_ne_nil _ hne) (fun h => hne (List.append_right_eq_self.1 h))
        (address_eq_none_of_blank hcolon (List.mem_append_right _ hc) (hspace c hc)) makes'
  · rintro ⟨names, hkept, hat⟩
    obtain rfl := names.secure
    have hne : parsed'.netloc ≠ [] := by
      intro hnil
      have hhost := names.host
      rw [hnil, List.rdropWhile_nil, hostname_nil] at hhost
      cases hhost
    have reads' := readAs_of_isWeb spelled' known' hne
    refine sameTenant_of_makesUp reads reads' hidentity
      ((namesHttps_iff known' reads'.valid.chars).2 names) fun config getaddrinfo makes =>
      makes.congr (fun hsink => ?_) hat
    exact (rejectPrivateUrl_of_canonical reads.valid reads'.valid (List.cons_ne_nil _ _) hlooked
      (names.looked laws hkept)).1 hsink

end

/-- A respelled URL has the same tenant if and only if the spellings of the schemes and the blanks
    after the hosts keep it. -/
theorem sameTenant_iff {value value' : String} {scheme scheme' : List Char}
    {parsed parsed' : ParseResult} (laws : SpellingLaws unicode rawHost)
    (spelled : Spelled unicode value scheme parsed) (spelled' : Spelled unicode value' scheme' parsed')
    (respells : Respells unicode parsed parsed')
    (acceptable : ∃ config getaddrinfo tenant,
      getConfiguredTenant unicode rawHost getaddrinfo config (some value) = .ok tenant) :
    SameTenant unicode rawHost value value' ↔
      Keeps unicode rawHost scheme parsed.netloc scheme' parsed'.netloc := by
  obtain ⟨config, getaddrinfo, tenant, accepted⟩ := acceptable
  -- Whether either scheme is a web scheme decides what each spelling is read as.
  by_cases known : IsWeb scheme <;> by_cases known' : IsWeb scheme'
  · rw [sameTenant_iff_of_isWeb laws spelled spelled' respells accepted known known']
    constructor
    · rintro ⟨hblank, hparses⟩
      exact .both known known' hblank hparses
    · rintro (⟨-, -, hblank, hparses⟩ | ⟨unknown, -⟩ | ⟨-, unknown', -, -⟩ | ⟨unknown, -, -, -, -⟩)
      · exact ⟨hblank, hparses⟩
      · exact absurd known unknown
      · exact absurd known' unknown'
      · exact absurd known unknown
  · rw [sameTenant_iff_fromHttps laws spelled spelled' respells accepted known known']
    constructor
    · rintro ⟨names, hrefused⟩
      exact .fromHttps known known' names hrefused
    · rintro (⟨-, known'', -, -⟩ | ⟨unknown, -⟩ | ⟨-, -, names, hrefused⟩ | ⟨unknown, -, -, -, -⟩)
      · exact absurd known'' known'
      · exact absurd known unknown
      · exact ⟨names, hrefused⟩
      · exact absurd known unknown
  · rw [sameTenant_iff_toHttps laws spelled spelled' respells known known']
    constructor
    · rintro ⟨names, hkept, hat⟩
      exact .toHttps known known' names hkept hat
    · rintro (⟨known'', -, -, -⟩ | ⟨-, unknown'⟩ | ⟨known'', -, -, -⟩ | ⟨-, -, names, hkept, hat⟩)
      · exact absurd known'' known
      · exact absurd known' unknown'
      · exact absurd known'' known
      · exact ⟨names, hkept, hat⟩
  · exact iff_of_true (sameTenant_of_not_isWeb spelled spelled' respells known known')
      (.neither known known')

namespace Sample

theorem spellingLaws_ascii : SpellingLaws .ascii fun _ => none where
  toLowerLaws := lowerLaws_ascii
  toIdnaLaws := idnaLaws_none
  lower_last := by
    intro s c hlast hspace
    have hlower : Unicode.ascii.lower s = s.map Char.toLower := rfl
    rw [hlower, List.getLast?_map, Option.map_eq_some_iff] at hlast
    obtain ⟨d, hd, rfl⟩ := hlast
    have hupper : ∀ n < 26, isSpace (Char.ofNat (0x41 + n)).toLower = false := by decide
    obtain h | ⟨n, hn, rfl⟩ := Ip.toLower_cases d
    · rw [hd, h]
    · rw [hupper n hn] at hspace
      cases hspace

/-- The parts of `https://h.example`. -/
def parsed : ParseResult := authority "https".toList "h.example".toList []

/-- A tenant is accepted for `https://h.example`, whatever address it leads to. -/
theorem accepted_https : getConfiguredTenant .ascii (fun _ => none) (fun _ => some ["8.8.8.8".toList])
    config (some "https://h.example") = .ok (madeUp "h-example" "h.example") := by
  decide +kernel

theorem spelled_https : Spelled .ascii "https://h.example" "https".toList parsed :=
  ⟨.inr rfl, "h.example".toList, by decide +kernel, by decide +kernel⟩

end Sample

/-- With blanks around it, a host in upper case, a port and a path, the URL keeps its tenant. -/
theorem sameTenant_respelled :
    SameTenant .ascii (fun _ => none) "https://h.example" " https://H.EXAMPLE:443/a " := by
  have hparses : Parses .ascii (web "https".toList ("H.EXAMPLE:443".toList.rdropWhile isSpace) []) := by
    rw [Parses]
    decide +kernel
  refine (@sameTenant_iff .ascii (fun _ => none) _ _ _ _ _
    (authority "https".toList "H.EXAMPLE:443".toList "/a".toList) Sample.spellingLaws_ascii
    Sample.spelled_https ⟨.inr rfl, "H.EXAMPLE:443/a".toList, by decide +kernel, by decide +kernel⟩
    ⟨rfl, by decide +kernel, .inl (by decide +kernel), .inr ⟨⟨none, rfl, rfl⟩, ?_⟩⟩
    ⟨_, _, _, Sample.accepted_https⟩).2 (.both (.inr rfl) (.inr rfl) ?_ hparses)
  · exact ⟨some 443, by decide +kernel, rfl⟩
  · exact iff_of_false (by decide +kernel) (by decide +kernel)

/-- With its scheme in upper case, it is read as a URL of the host `https`. -/
theorem not_sameTenant_upper :
    Spelled .ascii "https://h.example" "https".toList Sample.parsed ∧
      Spelled .ascii "HTTPS://h.example" "HTTPS".toList Sample.parsed ∧
      Respells .ascii Sample.parsed Sample.parsed ∧
      getConfiguredTenant .ascii (fun _ => none) (fun _ => some ["8.8.8.8".toList]) Sample.config
        (some "https://h.example") = .ok (Sample.madeUp "h-example" "h.example") ∧
      getConfiguredTenant .ascii (fun _ => none) (fun _ => some ["8.8.8.8".toList]) Sample.config
        (some "HTTPS://h.example") = .ok (Sample.madeUp "https" "https") ∧
      ¬SameTenant .ascii (fun _ => none) "https://h.example" "HTTPS://h.example" := by
  have hupper : getConfiguredTenant .ascii (fun _ => none) (fun _ => some ["8.8.8.8".toList])
      Sample.config (some "HTTPS://h.example") = .ok (Sample.madeUp "https" "https") := by
    decide +kernel
  refine ⟨Sample.spelled_https, ⟨.inr rfl, "h.example".toList, by decide +kernel, by decide +kernel⟩,
    ⟨rfl, rfl, .inl rfl, .inl rfl⟩, Sample.accepted_https, hupper, fun same => ?_⟩
  obtain ⟨tenant', accepted', hid, -⟩ := same _ _ _ Sample.accepted_https
  rw [hupper] at accepted'
  obtain rfl := Except.ok.inj accepted'
  exact absurd hid (by decide)

end Broker
