import Broker.Lib.UrlText
import Broker.Tenants

/-!
# Request sinks

Where the URLs of a tenant lead to: the addresses that its host resolves to
must not be blocked, and a made-up tenant must have an approved origin over
HTTPS (`SoundTenant`).

The check of a made-up tenant looks at the normalized URL it was requested by,
and the tenant gets a URL rebuilt from its identity. These two have the same
host, up to the spelling of an address, unless the host is lost on the way
(`LosesHost`): a blank at the end of it is stripped when the URL is normalized
again, and a future address is put back without its brackets. So the tenants of
a URL are sound whatever hosts resolve to, exactly when the URL is not accepted
with such a host (`sinks_sound_iff`).
-/

namespace Broker

open Py Url

variable {unicode : Unicode} {rawHost : List Char → Option (List Char)}
  {getaddrinfo : List Char → Option (List (List Char))}

/-! ## Normalized URLs -/

/-- The normalized URL of a scheme and of what follows its slashes. -/
def normalizeWeb (unicode : Unicode) (scheme rest : List Char) : Except PyError (Option String) :=
  match urlparse unicode (String.ofList (scheme ++ "://".toList ++ rest)) with
  | none => .error .valueError
  | some parsed => .ok (if parsed.netloc.isEmpty then none else some (web scheme parsed.netloc []))

theorem isPrefix_web {candidate : List Char}
    (h : (startsWith candidate "http://".toList || startsWith candidate "https://".toList) = true) :
    ∃ scheme rest, IsWeb scheme ∧ candidate = scheme ++ "://".toList ++ rest := by
  rw [Bool.or_eq_true, startsWith, startsWith, List.isPrefixOf_iff_prefix,
    List.isPrefixOf_iff_prefix] at h
  rcases h with ⟨rest, rfl⟩ | ⟨rest, rfl⟩
  · exact ⟨"http".toList, rest, .inl rfl, rfl⟩
  · exact ⟨"https".toList, rest, .inr rfl, rfl⟩

theorem startsWith_web {scheme rest : List Char} (hscheme : IsWeb scheme) :
    (startsWith (scheme ++ "://".toList ++ rest) "http://".toList ||
      startsWith (scheme ++ "://".toList ++ rest) "https://".toList) = true := by
  rcases hscheme with rfl | rfl <;> rfl

/-- A text is normalized as the URL of the web that it spells. -/
theorem normalizeBaseUrl_eq {value : String} {scheme rest : List Char} (hscheme : IsWeb scheme)
    (hne : strip value.toList ≠ [])
    (hweb : (if startsWith (strip value.toList) "http://".toList ||
          startsWith (strip value.toList) "https://".toList then strip value.toList
        else "https://".toList ++ strip value.toList) = scheme ++ "://".toList ++ rest) :
    normalizeBaseUrl unicode value = normalizeWeb unicode scheme rest := by
  have hne' : ¬(strip value.toList).isEmpty = true := by rwa [List.isEmpty_iff]
  unfold normalizeBaseUrl normalizeWeb
  dsimp only
  rw [if_neg hne', hweb]
  cases hparsed : urlparse unicode (String.ofList (scheme ++ "://".toList ++ rest)) with
  | none => rfl
  | some parsed =>
    dsimp only
    by_cases hempty : parsed.netloc.isEmpty = true
    · rw [if_pos hempty, if_pos hempty]
    · rw [if_neg hempty, if_neg hempty]
      rw [List.isEmpty_iff] at hempty
      obtain ⟨hs, hnetloc⟩ := netloc_of_urlparse hscheme hparsed hempty
      have hkeep : (parsed.scheme ++ "://".toList ++ parsed.netloc).rdropWhile (· = '/') =
          parsed.scheme ++ "://".toList ++ parsed.netloc := by
        rw [List.rdropWhile_eq_self_iff]
        intro hl hslash
        rw [List.getLast_append_of_ne_nil _ hempty] at hslash
        have hchar := hnetloc.chars _ (List.getLast_mem hempty)
        rw [of_decide_eq_true hslash] at hchar
        cases hchar
      rw [web, List.append_nil, ← hs]
      exact congrArg (fun base => Except.ok (some (String.ofList base))) hkeep

/-- A text that is normalized spells a URL of the web. -/
theorem normalizeBaseUrl_cases {value normalized : String}
    (h : normalizeBaseUrl unicode value = .ok (some normalized)) :
    ∃ scheme netloc, IsWeb scheme ∧ IsNetloc unicode netloc ∧ normalized = web scheme netloc [] := by
  have hne : strip value.toList ≠ [] := by
    intro hempty
    rw [normalizeBaseUrl, hempty] at h
    cases h
  obtain ⟨scheme, rest, hscheme, hweb⟩ : ∃ scheme rest, IsWeb scheme ∧
      (if startsWith (strip value.toList) "http://".toList ||
          startsWith (strip value.toList) "https://".toList then strip value.toList
        else "https://".toList ++ strip value.toList) = scheme ++ "://".toList ++ rest := by
    split_ifs with hstarts
    · exact isPrefix_web hstarts
    · exact ⟨"https".toList, strip value.toList, .inr rfl, rfl⟩
  rw [normalizeBaseUrl_eq hscheme hne hweb, normalizeWeb] at h
  cases hparsed : urlparse unicode (String.ofList (scheme ++ "://".toList ++ rest)) with
  | none =>
    rw [hparsed] at h
    cases h
  | some parsed =>
    rw [hparsed] at h
    dsimp only at h
    split_ifs at h with hempty
    · cases h
    · rw [List.isEmpty_iff] at hempty
      cases h
      exact ⟨scheme, parsed.netloc, hscheme, (netloc_of_urlparse hscheme hparsed hempty).2, rfl⟩

/-- A URL of the web is stripped of the blanks that its authority ends in. -/
theorem strip_web {scheme netloc : List Char} (hscheme : IsWeb scheme) :
    strip (web scheme netloc []).toList = scheme ++ "://".toList ++ netloc.rdropWhile isSpace := by
  have hsplit : (web scheme netloc []).toList =
      [] ++ (scheme ++ "://".toList ++ netloc.rdropWhile isSpace) ++ netloc.rtakeWhile isSpace := by
    rw [web, String.toList_ofList, List.append_nil, List.nil_append,
      List.append_assoc _ _ (netloc.rtakeWhile isSpace), List.rdropWhile_append_rtakeWhile]
  rw [hsplit]
  refine stripWhere_append (by simp) (fun c hc => List.mem_rtakeWhile_imp hc) ?_ ?_
  · intro c hc
    rcases hscheme with rfl | rfl
    · cases hc
      rfl
    · cases hc
      rfl
  · intro c hc
    rw [List.getLast?_append] at hc
    by_cases hne : netloc.rdropWhile isSpace = []
    · rw [hne, List.getLast?_nil, Option.none_or] at hc
      rcases hscheme with rfl | rfl
      · cases hc
        rfl
      · cases hc
        rfl
    · rw [List.getLast?_eq_some_getLast hne, Option.some_or] at hc
      obtain rfl := Option.some.inj hc
      exact Bool.not_eq_true _ ▸ List.rdropWhile_last_not isSpace netloc hne

/-- A URL of the web that is normalized again loses the blanks that its authority ends in. -/
theorem normalizeBaseUrl_web {scheme netloc : List Char} {normalized : String}
    (hscheme : IsWeb scheme) (hnetloc : IsNetloc unicode netloc)
    (h : normalizeBaseUrl unicode (web scheme netloc []) = .ok (some normalized)) :
    IsNetloc unicode (netloc.rdropWhile isSpace) ∧
      normalized = web scheme (netloc.rdropWhile isSpace) [] := by
  have hstrip := @strip_web scheme netloc hscheme
  have hne : strip (web scheme netloc []).toList ≠ [] := by
    rw [hstrip]
    rcases hscheme with rfl | rfl <;> exact List.cons_ne_nil _ _
  have hweb : (if startsWith (strip (web scheme netloc []).toList) "http://".toList ||
          startsWith (strip (web scheme netloc []).toList) "https://".toList then
        strip (web scheme netloc []).toList
      else "https://".toList ++ strip (web scheme netloc []).toList) =
      scheme ++ "://".toList ++ netloc.rdropWhile isSpace := by
    rw [hstrip, if_pos (startsWith_web hscheme)]
  rw [normalizeBaseUrl_eq hscheme hne hweb, normalizeWeb] at h
  have hchars : ∀ c ∈ netloc.rdropWhile isSpace, isNetlocChar c = true :=
    fun c hc => hnetloc.chars c ((List.rdropWhile_prefix _ _).subset hc)
  cases hparsed : urlparse unicode
      (String.ofList (scheme ++ "://".toList ++ netloc.rdropWhile isSpace)) with
  | none =>
    rw [hparsed] at h
    cases h
  | some parsed =>
    rw [hparsed] at h
    dsimp only at h
    -- Only the blanks at the end are stripped.
    have hsame : parsed.netloc = netloc.rdropWhile isSpace :=
      netloc_eq_of_urlparse hscheme hchars hparsed
    split_ifs at h with hempty
    · cases h
    · rw [List.isEmpty_iff] at hempty
      cases h
      obtain ⟨-, hvalid⟩ := netloc_of_urlparse hscheme hparsed hempty
      rw [hsame] at hvalid ⊢
      exact ⟨hvalid, rfl⟩

/-- The identity of a normalized URL is that of its authority without the blanks it ends in. -/
theorem tenantIdentity_web {scheme netloc : List Char} {identity : TenantIdentity}
    (hscheme : IsWeb scheme) (hnetloc : IsNetloc unicode netloc)
    (h : tenantIdentity unicode rawHost (web scheme netloc []) = .ok (some identity)) :
    IsNetloc unicode (netloc.rdropWhile isSpace) ∧
      ∃ host explicitPort,
        canonicalAsciiHost unicode rawHost
            ((authority scheme (netloc.rdropWhile isSpace) []).hostname unicode) = .ok host ∧
          host ≠ [] ∧ (authority scheme (netloc.rdropWhile isSpace) []).port = some explicitPort ∧
          identity =
            { scheme := scheme
              host := compressHost host
              port := explicitPort.getD (if scheme = "https".toList then 443 else 80) } := by
  rw [tenantIdentity] at h
  obtain ⟨normalized, hnormalized, h⟩ := exists_ok_of_bind h
  cases normalized with
  | none => cases h
  | some normalized =>
    obtain ⟨hnetloc', rfl⟩ := normalizeBaseUrl_web hscheme hnetloc hnormalized
    have hlower : unicode.lower scheme = scheme := by
      rcases hscheme with rfl | rfl <;> exact unicode.lower_ascii _ rfl
    dsimp only at h
    rw [urlparse_web hscheme hnetloc' ⟨.inl rfl, by simp⟩] at h
    dsimp only at h
    rw [hlower] at h
    refine ⟨hnetloc', ?_⟩
    split at h
    · cases h
    · cases h
    · rename_i host hne hcanonical
      split at h
      · cases h
      · rename_i explicitPort hport
        cases h
        exact ⟨host, explicitPort, hcanonical, hne, hport, rfl⟩

/-! ## Soundness -/

section Soundness

variable (unicode rawHost getaddrinfo)

/-- No address that a host resolves to is blocked. -/
def PublicHost (host : List Char) : Prop :=
  ∀ infos, getaddrinfo host = some infos → ∀ info ∈ infos, ∀ ip, Ip.address info = some ip →
    ipIsBlocked ip = false

/-- The host of a URL, as it is resolved. -/
def urlHost (url : String) : Option (List Char) :=
  match urlparse unicode url with
  | none => none
  | some parsed =>
    let host := unicode.lower (parsed.hostname unicode)
    if host.isEmpty then none else (canonicalAsciiHost unicode rawHost host).toOption

/-- No address that the host of a URL resolves to is blocked. -/
def PublicSink (url : String) : Prop :=
  ∀ host, urlHost unicode rawHost url = some host → PublicHost getaddrinfo host

/-- The URL has an origin over HTTPS, without credentials. -/
def HasOrigin (url : String) (host : List Char) (port : ℕ) : Prop :=
  ∃ parsed, urlparse unicode url = some parsed ∧ parsed.scheme = "https".toList ∧
    parsed.username = none ∧ parsed.password = none ∧ parsed.hostname unicode = host ∧
    ∃ explicitPort, parsed.port = some explicitPort ∧ explicitPort.getD 443 = port

/-- What holds of the tenant of a URL: it leads to no blocked address, and a
    made-up tenant has an approved origin. -/
structure SoundTenant (config : AppConfig) (baseUrl : Option String) (tenant : Tenant) : Prop where
  base : PublicSink unicode rawHost getaddrinfo tenant.baseUrl
  api : ∀ url, tenant.apiUrl = some url → PublicSink unicode rawHost getaddrinfo url
  origin : IsDynamic unicode rawHost config baseUrl →
    ∃ host port apiUrl, HasOrigin unicode tenant.baseUrl host port ∧ port ≠ 0 ∧
      tenant.apiUrl = some apiUrl ∧ HasOrigin unicode apiUrl host port ∧
      (config.resourceSpace.allowedHosts ≠ [] →
        ∃ pattern ∈ config.resourceSpace.allowedHosts,
          hostMatchesPattern unicode rawHost host pattern = true)

/-- An address literal, however it is spelled, resolves to that address, if to any. -/
def ResolvesLiterals : Prop :=
  ∀ host ip infos, Ip.address host = some ip → getaddrinfo host = some infos →
    ∀ ip', (∃ info ∈ infos, ∃ ip₀, Ip.address info = some ip₀ ∧ ip₀.unscoped = ip') ↔
      ip' = ip.unscoped

end Soundness

/-! ## Checks -/

/-- A URL with a host passes the check when its host resolves, to no blocked address. -/
theorem rejectPrivateUrl_eq_ok_iff {url : String} {parsed : ParseResult} (hurl : url ≠ "")
    (hparsed : urlparse unicode url = some parsed)
    (hhost : unicode.lower (parsed.hostname unicode) ≠ []) :
    rejectPrivateUrl unicode rawHost getaddrinfo url = .ok () ↔
      ∃ ascii infos,
        canonicalAsciiHost unicode rawHost (unicode.lower (parsed.hostname unicode)) = .ok ascii ∧
        ascii ≠ [] ∧ getaddrinfo ascii = some infos ∧ PublicHost getaddrinfo ascii := by
  rw [rejectPrivateUrl, if_neg hurl, hparsed]
  dsimp only
  rw [if_neg (by rwa [List.isEmpty_iff])]
  cases hcanonical : canonicalAsciiHost unicode rawHost (unicode.lower (parsed.hostname unicode)) with
  | error e => simp
  | ok ascii =>
    dsimp only
    cases hinfos : getaddrinfo ascii with
    | none => simp [hinfos]
    | some infos =>
      dsimp only
      have hprivate : isPrivateIp unicode rawHost getaddrinfo
          (unicode.lower (parsed.hostname unicode)) =
          (ascii.isEmpty || infos.any fun info => (Ip.address info).any ipIsBlocked) := by
        rw [isPrivateIp, hcanonical]
        dsimp only
        rw [hinfos]
      -- An address that `ipaddress` does not read is not blocked.
      have hpublic : (infos.any fun info => (Ip.address info).any ipIsBlocked) = false ↔
          PublicHost getaddrinfo ascii := by
        rw [List.any_eq_false]
        constructor
        · intro hall infos' hinfos' info hinfo ip hip
          obtain rfl := Option.some.inj (hinfos.symm.trans hinfos')
          have hblocked := hall info hinfo
          rw [hip] at hblocked
          simpa using hblocked
        · intro hpublic info hinfo
          cases hip : Ip.address info with
          | none => simp
          | some ip => simpa using hpublic infos hinfos info hinfo ip hip
      rw [hprivate]
      constructor
      · intro h
        split_ifs at h with hbad
        rw [Bool.or_eq_true, not_or, List.isEmpty_iff, Bool.not_eq_true, hpublic] at hbad
        exact ⟨ascii, infos, rfl, hbad.1, hinfos, hbad.2⟩
      · rintro ⟨ascii', infos', hascii, hne, -, hpublic'⟩
        obtain rfl := Except.ok.inj hascii
        rw [hpublic.2 hpublic', Bool.or_false, if_neg (by rwa [List.isEmpty_iff])]

/-- A URL that passes the check leads to no blocked address. -/
theorem publicSink_of_rejectPrivateUrl {url : String}
    (h : rejectPrivateUrl unicode rawHost getaddrinfo url = .ok ()) :
    PublicSink unicode rawHost getaddrinfo url := by
  intro host hhost
  by_cases hurl : url = ""
  · rw [hurl] at hhost
    have hlower : unicode.lower [] = [] := unicode.lower_ascii [] rfl
    have hparsed : urlparse unicode "" = some ⟨[], [], [], [], [], []⟩ := rfl
    have hname : unicode.lower ((ParseResult.mk [] [] [] [] [] []).hostname unicode) = [] := by
      change unicode.lower (unicode.lower [] ++ []) = []
      rw [hlower, List.append_nil, hlower]
    rw [urlHost, hparsed] at hhost
    dsimp only at hhost
    rw [hname] at hhost
    cases hhost
  · rw [urlHost] at hhost
    cases hparsed : urlparse unicode url with
    | none =>
      rw [hparsed] at hhost
      cases hhost
    | some parsed =>
      rw [hparsed] at hhost
      dsimp only at hhost
      split_ifs at hhost with hempty
      rw [List.isEmpty_iff] at hempty
      obtain ⟨ascii, infos, hcanonical, -, -, hpublic⟩ :=
        (rejectPrivateUrl_eq_ok_iff hurl hparsed hempty).1 h
      rw [hcanonical] at hhost
      obtain rfl := Option.some.inj hhost
      exact hpublic

theorem rejectPrivateTenantSink_live {config : AppConfig} {urls : List String} {skipFixture : Bool}
    (live : config.resourceSpace.mode ≠ "fixture") :
    rejectPrivateTenantSink unicode rawHost getaddrinfo config urls skipFixture =
      urls.forM (rejectPrivateUrl unicode rawHost getaddrinfo) := by
  rw [rejectPrivateTenantSink, decide_eq_false live, Bool.and_false, if_neg Bool.false_ne_true]

/-- The tenant of a record leads to no blocked address. -/
theorem sound_of_resolveRegistered {config : AppConfig} {tenant tenant' : Tenant}
    (live : config.resourceSpace.mode ≠ "fixture")
    (h : resolveRegistered unicode rawHost getaddrinfo config tenant = .ok tenant') :
    PublicSink unicode rawHost getaddrinfo tenant'.baseUrl ∧
      ∀ url, tenant'.apiUrl = some url → PublicSink unicode rawHost getaddrinfo url := by
  rw [resolveRegistered] at h
  obtain ⟨baseUrl, -, h⟩ := exists_ok_of_bind h
  dsimp only at h
  rw [rejectPrivateTenantSink_live live] at h
  obtain ⟨_, hchecked, h⟩ := exists_ok_of_bind h
  cases h
  obtain ⟨_, hbase, hchecked⟩ := exists_ok_of_bind hchecked
  obtain ⟨_, hapi, -⟩ := exists_ok_of_bind hchecked
  refine ⟨publicSink_of_rejectPrivateUrl hbase, fun url hurl => ?_⟩
  obtain rfl := Option.some.inj hurl
  exact publicSink_of_rejectPrivateUrl hapi

/-! ## Made-up tenants -/

/-- The tenant made up for an identity. -/
def madeUpTenant (unicode : Unicode) (identity : TenantIdentity) : Tenant :=
  let baseUrl := httpsOrigin identity.host identity.port
  let slug := String.ofList (tenantSlug unicode identity)
  { id := "tenant_" ++ slug
    slug := some slug
    name := some (String.ofList (baseUrl.toList.drop "https://".length))
    baseUrl
    apiUrl := some (normalizeApiUrl baseUrl none)
    rootCollections := []
    collectionChildren := [] }

/-- The URL is dynamically entered, and refused at most for where it leads to:
    it has an approved identity, of an origin over HTTPS without credentials. -/
structure Requested (unicode : Unicode) (rawHost : List Char → Option (List Char))
    (config : AppConfig) (baseUrl : Option String) (netloc : List Char)
    (identity : TenantIdentity) : Prop where
  normalized : normalizeBaseUrl unicode (baseUrl.getD "") = .ok (some (web "https".toList netloc []))
  valid : IsNetloc unicode netloc
  identified :
    tenantIdentity unicode rawHost (web "https".toList netloc []) = .ok (some identity)
  unregistered :
    registeredTenant unicode rawHost (some identity) config.resourceSpace.tenants = .ok none
  approved : config.resourceSpace.allowedHosts ≠ [] →
    ∃ pattern ∈ config.resourceSpace.allowedHosts,
      hostMatchesPattern unicode rawHost identity.host pattern = true
  port : identity.port ≠ 0
  anonymous : '@' ∉ netloc

theorem requested_of_accepted {config : AppConfig} {baseUrl : Option String} {tenant : Tenant}
    (live : config.resourceSpace.mode ≠ "fixture")
    (accepted : getConfiguredTenant unicode rawHost getaddrinfo config baseUrl = .ok tenant) :
    PublicSink unicode rawHost getaddrinfo tenant.baseUrl ∧
        (∀ url, tenant.apiUrl = some url → PublicSink unicode rawHost getaddrinfo url) ∧
        ¬IsDynamic unicode rawHost config baseUrl ∨
      ∃ netloc identity, Requested unicode rawHost config baseUrl netloc identity ∧
        rejectPrivateUrl unicode rawHost getaddrinfo (web "https".toList netloc []) = .ok () ∧
        tenant = madeUpTenant unicode identity := by
  rw [getConfiguredTenant] at accepted
  obtain ⟨normalized, hnormalized, accepted⟩ := exists_ok_of_bind accepted
  cases normalized with
  | none => cases accepted
  | some normalized =>
    obtain ⟨requested, hrequested, accepted⟩ := exists_ok_of_bind accepted
    obtain ⟨registered, hregistered, accepted⟩ := exists_ok_of_bind accepted
    -- A registered tenant is checked as it stands; a dynamic one is made up after its
    -- requested URL has been checked.
    cases registered with
    | some record =>
      obtain ⟨hbase, hapi⟩ := sound_of_resolveRegistered live accepted
      refine .inl ⟨hbase, hapi, ?_⟩
      rintro ⟨requested', hrequested', hunregistered⟩
      unfold requestedIdentity at hrequested'
      rw [hnormalized] at hrequested'
      obtain rfl := Except.ok.inj (hrequested.symm.trans hrequested')
      cases hregistered.symm.trans hunregistered
    | none =>
      right
      obtain ⟨scheme, netloc, hscheme, hnetloc, rfl⟩ := normalizeBaseUrl_cases hnormalized
      rw [dynamicTenant, urlparse_web hscheme hnetloc ⟨.inl rfl, by simp⟩] at accepted
      dsimp only at accepted
      split_ifs at accepted with hrefused
      · cases accepted
      · obtain ⟨_, hchecked, hmade⟩ := exists_ok_of_bind accepted
        rw [rejectPrivateTenantSink_live live] at hchecked
        obtain ⟨_, hsink, -⟩ := exists_ok_of_bind hchecked
        cases requested with
        | none => cases hmade
        | some identity =>
          dsimp only at hmade
          split_ifs at hmade with hform
          · cases hmade
          · rw [not_or, not_or, not_or, not_not] at hform
            obtain ⟨hhttps, hport, husername, -⟩ := hform
            obtain ⟨-, host, explicitPort, -, -, -, hidentity⟩ :=
              tenantIdentity_web hscheme hnetloc hrequested
            obtain rfl : scheme = "https".toList := by
              rw [← hhttps, hidentity]
            refine ⟨netloc, identity, ⟨hnormalized, hnetloc, hrequested, hregistered, ?_, hport, ?_⟩,
              hsink, (Except.ok.inj hmade).symm⟩
            · intro hallowed
              simp only [Bool.and_eq_true, Bool.not_eq_true', not_and, Bool.not_eq_false,
                List.isEmpty_eq_false_iff] at hrefused
              obtain ⟨-, happroved⟩ := hrefused hallowed
              exact List.any_eq_true.1 happroved
            · exact (username_eq_none_iff (authority "https".toList netloc [])).1
                (Option.not_isSome_iff_eq_none.1 husername)

theorem password_eq_none {r : ParseResult} (h : r.username = none) : r.password = none := by
  rw [ParseResult.username] at h
  rw [ParseResult.password, Option.map_eq_none_iff.1 h]
  rfl

theorem compressHost_ne_nil {host : List Char} (h : host ≠ []) : compressHost host ≠ [] := by
  rw [compressHost]
  cases hip : Ip.address host with
  | none => exact h
  | some ip =>
    intro hnil
    have hread := Ip.address_compressed (Ip.valid_of_address hip)
    change ip.compressed = [] at hnil
    rw [hnil] at hread
    cases hread

theorem isDynamic_of_requested {config : AppConfig} {baseUrl : Option String} {netloc : List Char}
    {identity : TenantIdentity} (requested : Requested unicode rawHost config baseUrl netloc identity) :
    IsDynamic unicode rawHost config baseUrl := by
  refine ⟨some identity, ?_, requested.unregistered⟩
  rw [requestedIdentity, requested.normalized]
  dsimp only [bind, Except.bind]
  exact requested.identified

/-- A URL that passes the check is accepted. -/
theorem accepted_of_requested {config : AppConfig} {baseUrl : Option String} {netloc : List Char}
    {identity : TenantIdentity} (live : config.resourceSpace.mode ≠ "fixture")
    (requested : Requested unicode rawHost config baseUrl netloc identity)
    (hsink :
      rejectPrivateUrl unicode rawHost getaddrinfo (web "https".toList netloc []) = .ok ()) :
    getConfiguredTenant unicode rawHost getaddrinfo config baseUrl =
      .ok (madeUpTenant unicode identity) := by
  obtain ⟨-, host, explicitPort, -, hne, -, hidentity⟩ :=
    tenantIdentity_web (.inr rfl) requested.valid requested.identified
  have hhost : identity.host.isEmpty = false := by
    rw [hidentity, List.isEmpty_eq_false_iff]
    exact compressHost_ne_nil hne
  have hscheme : identity.scheme = "https".toList := by rw [hidentity]
  have happroved : (!config.resourceSpace.allowedHosts.isEmpty &&
      !(!identity.host.isEmpty && config.resourceSpace.allowedHosts.any
        (hostMatchesPattern unicode rawHost identity.host))) = false := by
    rw [hhost]
    by_cases hallowed : config.resourceSpace.allowedHosts = []
    · rw [hallowed]
      rfl
    · rw [List.any_eq_true.2 (requested.approved hallowed)]
      simp
  have huser := (username_eq_none_iff (authority "https".toList netloc [])).2 requested.anonymous
  have hpassword := password_eq_none huser
  rw [getConfiguredTenant, requested.normalized]
  simp only [bind, Except.bind]
  rw [requested.identified]
  dsimp only
  rw [requested.unregistered]
  dsimp only
  rw [dynamicTenant, urlparse_web (.inr rfl) requested.valid ⟨.inl rfl, by simp⟩]
  have hform : ¬(identity.scheme ≠ "https".toList ∨ identity.port = 0 ∨
      (authority "https".toList netloc []).username.isSome = true ∨
      (authority "https".toList netloc []).password.isSome = true) := by
    rw [huser, hpassword]
    simp [hscheme, requested.port]
  have hforM : [web "https".toList netloc []].forM (rejectPrivateUrl unicode rawHost getaddrinfo) =
      .ok () := by
    change (rejectPrivateUrl unicode rawHost getaddrinfo (web "https".toList netloc []) >>=
      fun _ => pure ()) = .ok ()
    rw [hsink]
    rfl
  dsimp only [Option.elim_some]
  rw [happroved, if_neg Bool.false_ne_true, rejectPrivateTenantSink_live live, hforM]
  simp only [bind, Except.bind]
  rw [authority] at hform
  rw [if_neg hform]
  rfl

/-! ## Hosts in lower case -/

/-- How `str.lower` treats the characters that hosts are parsed by. -/
structure LowerLaws (unicode : Unicode) : Prop where
  /-- What is in lower case stays as it is. -/
  lower_lower : ∀ s, unicode.lower (unicode.lower s) = unicode.lower s
  /-- A blank at the end has no case, nor an influence on what is before it. -/
  lower_blank : ∀ s c, isSpace c = true → unicode.lower (s ++ [c]) = unicode.lower s ++ [c]
  /-- Only letters of ASCII come from another character. -/
  mem_lower : ∀ s, ∀ c ∈ unicode.lower s, c.toNat < 128 → isLetter c = true ∨ c ∈ s
  /-- A character of ASCII that is no letter stays. -/
  lower_mem : ∀ s, ∀ c ∈ s, c.toNat < 128 → isLetter c = false → c ∈ unicode.lower s
  /-- A character of ASCII in front is put in lower case by itself. -/
  head_lower : ∀ c s, c.toNat < 128 → (unicode.lower (c :: s)).head? = some c.toLower

/-- A character of the ASCII form of a host that is not ASCII. -/
def isLabelChar (c : Char) : Bool := ('a' ≤ c && c ≤ 'z') || isDigit c || c = '-' || c = '.'

/-- The ASCII form of a host that is not ASCII consists of the labels of IDNA,
    and exists only for hosts without blanks and percent signs. -/
structure IdnaLaws (rawHost : List Char → Option (List Char)) : Prop where
  chars : ∀ host ascii, rawHost host = some ascii → ∀ c ∈ ascii, isLabelChar c = true
  plain : ∀ host ascii, rawHost host = some ascii → ∀ c ∈ host, c ≠ '%' ∧ isSpace c = false

theorem lower_eq_lowered {s : List Char} (h : isAscii s = true) :
    unicode.lower s = Ip.lowered s := unicode.lower_ascii s h

theorem isAscii_iff {s : List Char} : isAscii s = true ↔ ∀ c ∈ s, c.toNat < 128 := by
  rw [isAscii, List.all_eq_true]
  simp only [decide_eq_true_eq]

theorem toNat_toLower_lt {c : Char} (h : c.toNat < 128) : c.toLower.toNat < 128 := by
  have hupper : ∀ n < 26, (Char.ofNat (0x41 + n)).toLower.toNat < 128 := by decide
  rcases Ip.toLower_cases c with hc | ⟨n, hn, rfl⟩
  · rwa [hc]
  · exact hupper n hn

theorem isAscii_lower {s : List Char} (h : isAscii s = true) : isAscii (unicode.lower s) = true := by
  rw [lower_eq_lowered h, isAscii_iff]
  intro c hc
  obtain ⟨d, hd, rfl⟩ := List.mem_map.1 hc
  exact toNat_toLower_lt (isAscii_iff.1 h d hd)

theorem toLower_toLower (c : Char) : c.toLower.toLower = c.toLower := by
  have hupper : ∀ n < 26, (Char.ofNat (0x41 + n)).toLower.toLower = (Char.ofNat (0x41 + n)).toLower := by
    decide
  rcases Ip.toLower_cases c with hc | ⟨n, hn, rfl⟩
  · rw [hc, hc]
  · exact hupper n hn

theorem lower_ne_nil {s : List Char} (hne : s ≠ []) (h : isAscii s = true) :
    unicode.lower s ≠ [] := by
  rwa [lower_eq_lowered h, Ip.lowered, ne_eq, List.map_eq_nil_iff]

/-- The name of a host is the host in lower case, but for the scope of an address. -/
theorem hostname_cases (unicode : Unicode) (r : ParseResult) :
    r.hostname unicode = unicode.lower r.hostinfo.1 ∧ '%' ∉ r.hostinfo.1 ∨
    ∃ pre zone, r.hostinfo.1 = pre ++ '%' :: zone ∧ '%' ∉ pre ∧
      r.hostname unicode = unicode.lower pre ++ '%' :: zone := by
  rw [ParseResult.hostname]
  dsimp only
  rcases partition_cases '%' r.hostinfo.1 with ⟨hparts, hfree⟩ | ⟨pre, zone, hparts, hsplit, hfree⟩
  · rw [hparts]
    exact .inl ⟨List.append_nil _, hfree⟩
  · rw [hparts]
    exact .inr ⟨pre, zone, hsplit, hfree, rfl⟩

theorem canonicalAsciiHost_ascii {host : List Char} (hne : host ≠ []) (h : isAscii host = true) :
    canonicalAsciiHost unicode rawHost host = .ok (unicode.lower host) := by
  rw [canonicalAsciiHost, if_neg (by rwa [List.isEmpty_iff]), if_pos h]

theorem canonicalAsciiHost_idna {host ascii : List Char} (hne : host ≠ []) (h : isAscii host = false)
    (hascii : canonicalAsciiHost unicode rawHost host = .ok ascii) : rawHost host = some ascii := by
  rw [canonicalAsciiHost, if_neg (by rwa [List.isEmpty_iff]), h, if_neg Bool.false_ne_true] at hascii
  cases hraw : rawHost host with
  | none =>
    rw [hraw] at hascii
    cases hascii
  | some ascii' =>
    rw [hraw] at hascii
    rw [Except.ok.inj hascii]

/-- The form of a host that is checked is that of its identity. -/
theorem canonical_eq (laws : LowerLaws unicode) (idna : IdnaLaws rawHost) {r : ParseResult}
    {ascii ascii' : List Char}
    (hchecked : canonicalAsciiHost unicode rawHost (unicode.lower (r.hostname unicode)) = .ok ascii)
    (hhost : canonicalAsciiHost unicode rawHost (r.hostname unicode) = .ok ascii') :
    ascii = ascii' := by
  by_cases hnil : r.hostname unicode = []
  · rw [hnil, unicode.lower_ascii [] rfl] at hchecked
    rw [hnil] at hhost
    exact Except.ok.inj (hchecked.symm.trans hhost)
  · cases hascii : isAscii (r.hostname unicode) with
    | true =>
      rw [canonicalAsciiHost_ascii (lower_ne_nil hnil hascii) (isAscii_lower hascii),
        laws.lower_lower] at hchecked
      rw [canonicalAsciiHost_ascii hnil hascii] at hhost
      exact Except.ok.inj (hchecked.symm.trans hhost)
    | false =>
      -- A host that has an IDNA form has no scope, so all of its name is in lower case.
      have hplain := idna.plain _ _ (canonicalAsciiHost_idna hnil hascii hhost)
      have hsame : unicode.lower (r.hostname unicode) = r.hostname unicode := by
        rcases hostname_cases unicode r with ⟨hname, -⟩ | ⟨pre, zone, -, -, hname⟩
        · rw [hname, laws.lower_lower]
        · rw [hname] at hplain
          exact absurd rfl (hplain '%' (List.mem_append_right _ List.mem_cons_self)).1
      rw [hsame] at hchecked
      exact Except.ok.inj (hchecked.symm.trans hhost)

/-! ## Blanks at the end -/

/-- The authority has no port and ends in a blank, which is part of the host. -/
def EndsInBlank (netloc : List Char) : Prop :=
  '[' ∉ netloc ∧ ':' ∉ netloc ∧ ∃ c, netloc.getLast? = some c ∧ isSpace c = true

theorem lower_append_blanks (laws : LowerLaws unicode) (s : List Char) {w : List Char}
    (hw : ∀ c ∈ w, isSpace c = true) : unicode.lower (s ++ w) = unicode.lower s ++ w := by
  induction w using List.reverseRecOn with
  | nil => rw [List.append_nil, List.append_nil]
  | append_singleton w c ih =>
    rw [← List.append_assoc, laws.lower_blank _ _ (hw c List.mem_concat_self),
      ih fun d hd => hw d (List.mem_append_left _ hd), List.append_assoc]

/-- Normalized again, an authority has the same host, unless it ends in a blank of it. -/
theorem hostname_rdropWhile (scheme : List Char) {netloc : List Char} (hvalid : IsNetloc unicode netloc)
    (hat : '@' ∉ netloc) (hblank : ¬EndsInBlank netloc) :
    (authority scheme (netloc.rdropWhile isSpace) []).hostname unicode =
      (authority scheme netloc []).hostname unicode := by
  rcases hostinfo_rdropWhile (p := isSpace) rfl rfl hvalid.brackets hat with hsame | ⟨hopen, hcolon⟩
  · unfold ParseResult.hostname
    rw [hsame]
  · have hkept : netloc.rdropWhile isSpace = netloc := by
      rw [List.rdropWhile_eq_self_iff]
      intro hne hlast
      exact hblank ⟨hopen, hcolon, _, List.getLast?_eq_some_getLast hne, hlast⟩
    rw [hkept]

/-- Normalized again, a host loses the blanks it ends in. -/
theorem hostname_of_endsInBlank (scheme : List Char) (laws : LowerLaws unicode) {netloc : List Char}
    (hat : '@' ∉ netloc) (hblank : EndsInBlank netloc) :
    ∃ w, w ≠ [] ∧ (∀ c ∈ w, isSpace c = true) ∧
      (authority scheme netloc []).hostname unicode =
        (authority scheme (netloc.rdropWhile isSpace) []).hostname unicode ++ w := by
  obtain ⟨hopen, hcolon, blank, hlast, hspace⟩ := hblank
  have hsplit : netloc.rdropWhile isSpace ++ netloc.rtakeWhile isSpace = netloc :=
    List.rdropWhile_append_rtakeWhile
  have hw : ∀ c ∈ netloc.rtakeWhile isSpace, isSpace c = true := fun c hc => List.mem_rtakeWhile_imp hc
  refine ⟨netloc.rtakeWhile isSpace, ?_, hw, ?_⟩
  · rw [ne_eq, List.rtakeWhile_eq_nil_iff]
    intro hnone
    have hne : netloc ≠ [] := by
      rintro rfl
      cases hlast
    rw [List.getLast?_eq_some_getLast hne] at hlast
    exact hnone hne (Option.some.inj hlast ▸ hspace)
  · have hsub : ∀ c, c ∉ netloc → c ∉ netloc.rdropWhile isSpace :=
      fun c hc hmem => hc ((List.rdropWhile_prefix _ _).subset hmem)
    have hinfo : (authority scheme netloc []).hostinfo.1 = netloc := by
      rw [hostinfo_plain hat hopen]
      exact congrArg (·.1) (partition_of_notMem hcolon)
    have hinfo' : (authority scheme (netloc.rdropWhile isSpace) []).hostinfo.1 =
        netloc.rdropWhile isSpace := by
      rw [hostinfo_plain (hsub _ hat) (hsub _ hopen)]
      exact congrArg (·.1) (partition_of_notMem (hsub _ hcolon))
    have hfree : '%' ∉ netloc.rtakeWhile isSpace := fun hmem => absurd (hw '%' hmem) (by decide)
    unfold ParseResult.hostname
    rw [hinfo, hinfo']
    dsimp only
    -- `hostname` lowers what stands before a zone only; the blanks come after either.
    rcases partition_cases '%' (netloc.rdropWhile isSpace) with
      ⟨hparts, hfree'⟩ | ⟨pre, zone, hparts, hsplit', hfree'⟩
    · have hnone : '%' ∉ netloc := by
        rw [← hsplit, List.mem_append, not_or]
        exact ⟨hfree', hfree⟩
      rw [hparts, partition_of_notMem hnone]
      dsimp only
      rw [if_neg Bool.false_ne_true, List.append_nil, List.append_nil, ← lower_append_blanks laws _ hw,
        hsplit]
    · have hwhole : netloc = pre ++ '%' :: (zone ++ netloc.rtakeWhile isSpace) := by
        rw [hsplit'] at hsplit
        rw [← List.cons_append, ← List.append_assoc, hsplit]
      have hparts' : partition '%' netloc =
          (pre, true, zone ++ netloc.rtakeWhile isSpace) := by
        have hpart := partition_append hfree' (zone ++ netloc.rtakeWhile isSpace)
        rwa [← hwhole] at hpart
      rw [hparts, hparts']
      dsimp only
      rw [if_pos rfl, if_pos rfl, List.append_assoc, List.cons_append]

/-! ## Texts of hosts -/

/-- The characters that no host has in it. -/
def delimiters : List Char := ['/', '?', '#', '\t', '\r', '\n', '@', ']']

/-- A character that a host as an identity has it may have in it. -/
def isHostChar (c : Char) : Bool := c.toNat < 128 && c.toLower == c && !(delimiters.contains c)

/-- A host as an identity has it. -/
structure IsHostText (host : List Char) : Prop where
  ne_nil : host ≠ []
  chars : ∀ c ∈ host, isHostChar c = true

theorem isHostChar_iff {c : Char} :
    isHostChar c = true ↔ c.toNat < 128 ∧ c.toLower = c ∧ c ∉ delimiters := by
  rw [isHostChar, Bool.and_eq_true, Bool.and_eq_true, decide_eq_true_eq, beq_iff_eq,
    Bool.not_eq_true', and_assoc, ← Bool.not_eq_true, List.contains_iff_mem]

theorem lt_of_isDigit {c : Char} (h : isDigit c = true) : c.toNat < 128 :=
  (toNat_of_isDigit h).2.trans (by decide)

theorem lt_of_le_char {c d : Char} (h : c ≤ d) (hd : d.toNat < 128) : c.toNat < 128 :=
  lt_of_le_of_lt (UInt32.le_iff_toNat_le.1 (Char.le_def.1 h)) hd

theorem isHostChar_of_isLabelChar {c : Char} (h : isLabelChar c = true) : isHostChar c = true := by
  have hlt : c.toNat < 128 := by
    simp only [isLabelChar, Bool.or_eq_true, Bool.and_eq_true, decide_eq_true_eq] at h
    rcases h with ((⟨-, hz⟩ | hdigit) | rfl) | rfl
    · exact lt_of_le_char hz (by decide)
    · exact lt_of_isDigit hdigit
    · decide
    · decide
  have hall : ∀ n < 128, isLabelChar (Char.ofNat n) = true → isHostChar (Char.ofNat n) = true := by
    decide
  have hc := hall c.toNat hlt
  rw [Char.ofNat_toNat] at hc
  exact hc h

theorem isHostChar_of_isHexChar {c : Char} (h : Ip.isHexChar c = true) : isHostChar c = true := by
  have hlt : c.toNat < 128 := by
    simp only [Ip.isHexChar, Bool.or_eq_true, Bool.and_eq_true, decide_eq_true_eq] at h
    rcases h with hdigit | ⟨-, hf⟩
    · exact lt_of_isDigit hdigit
    · exact lt_of_le_char hf (by decide)
  have hall : ∀ n < 128, Ip.isHexChar (Char.ofNat n) = true → isHostChar (Char.ofNat n) = true := by
    decide
  have hc := hall c.toNat hlt
  rw [Char.ofNat_toNat] at hc
  exact hc h

theorem isLetter_delimiters : ∀ c ∈ delimiters, isLetter c = false := by
  rw [delimiters]
  exact List.all_iff_forall_prop.1 (by decide)

theorem toNat_delimiters : ∀ c ∈ delimiters, c.toNat < 128 := by
  rw [delimiters]
  exact List.all_iff_forall_prop.1 (by decide)

/-- The host of an authority without user information has no delimiter in it. -/
theorem notMem_hostinfo {r : ParseResult} (hvalid : IsNetloc unicode r.netloc)
    (hat : '@' ∉ r.netloc) : ∀ c ∈ delimiters, c ∉ r.hostinfo.1 := by
  have hnetloc : ∀ c ∈ delimiters, c ≠ ']' → c ∉ r.netloc := by
    intro c hc hne hmem
    have hcases : ∀ c ∈ delimiters, c ≠ ']' → isNetlocChar c = false ∨ c = '@' := by
      rw [delimiters]
      exact List.all_iff_forall_prop.1 (by decide)
    rcases hcases c hc hne with hchar | rfl
    · rw [hvalid.chars c hmem] at hchar
      cases hchar
    · exact hat hmem
  rcases brackets_cases hvalid.brackets hat with ⟨hopen, hclose⟩ | ⟨host, port, hsplit, hhost, -, -⟩
  · rw [hostinfo_plain hat hopen]
    have hsub : ∀ c ∈ (partition ':' r.netloc).1, c ∈ r.netloc :=
      fun c hc => (List.takeWhile_sublist _).subset hc
    intro c hc hmem
    rcases eq_or_ne c ']' with rfl | hne
    · exact hclose (hsub _ hmem)
    · exact hnetloc c hc hne (hsub _ hmem)
  · rw [hostinfo_bracketed hat hsplit hhost]
    intro c hc hmem
    rcases eq_or_ne c ']' with rfl | hne
    · exact hhost hmem
    · refine hnetloc c hc hne ?_
      rw [hsplit]
      exact List.mem_append_left _ (List.mem_cons_of_mem _ hmem)

/-- A character of ASCII that is no letter is in a host as it is spelled, when it is in its name. -/
theorem mem_of_mem_hostname (laws : LowerLaws unicode) {r : ParseResult} {c : Char}
    (h : c ∈ r.hostname unicode) (hascii : c.toNat < 128) (hletter : isLetter c = false) :
    c ∈ r.hostinfo.1 := by
  have hlower : ∀ s, c ∈ unicode.lower s → c ∈ s := by
    intro s hs
    rcases laws.mem_lower s c hs hascii with hl | hmem
    · rw [hletter] at hl
      cases hl
    · exact hmem
  rcases hostname_cases unicode r with ⟨hname, -⟩ | ⟨pre, zone, hsplit, -, hname⟩
  · rw [hname] at h
    exact hlower _ h
  · rw [hname, List.mem_append] at h
    rw [hsplit, List.mem_append]
    exact h.imp (hlower pre) id

theorem isHostText_canonical (laws : LowerLaws unicode) (idna : IdnaLaws rawHost) {r : ParseResult}
    (hvalid : IsNetloc unicode r.netloc) (hat : '@' ∉ r.netloc) {host : List Char} (hne : host ≠ [])
    (h : canonicalAsciiHost unicode rawHost (r.hostname unicode) = .ok host) : IsHostText host := by
  refine ⟨hne, ?_⟩
  have hnil : r.hostname unicode ≠ [] := by
    intro hnil
    rw [hnil] at h
    exact hne (Except.ok.inj h).symm
  cases hascii : isAscii (r.hostname unicode) with
  | true =>
    rw [canonicalAsciiHost_ascii hnil hascii, lower_eq_lowered hascii] at h
    obtain rfl := Except.ok.inj h
    intro c hc
    obtain ⟨d, hd, rfl⟩ := List.mem_map.1 hc
    refine isHostChar_iff.2
      ⟨toNat_toLower_lt (isAscii_iff.1 hascii d hd), toLower_toLower d, fun hdelim => ?_⟩
    have hletter := isLetter_delimiters _ hdelim
    have hsame : d = d.toLower := (Ip.toLower_eq_iff hletter).1 rfl
    rw [← hsame] at hdelim hletter
    exact notMem_hostinfo hvalid hat d hdelim
      (mem_of_mem_hostname laws hd (toNat_delimiters d hdelim) hletter)
  | false =>
    have hlabel := idna.chars _ _ (canonicalAsciiHost_idna hnil hascii h)
    exact fun c hc => isHostChar_of_isLabelChar (hlabel c hc)

theorem isHostText_compressHost {host : List Char} (h : IsHostText host) :
    IsHostText (compressHost host) := by
  refine ⟨compressHost_ne_nil h.ne_nil, ?_⟩
  rw [compressHost]
  cases hip : Ip.address host with
  | none => exact h.chars
  | some ip =>
    intro c hc
    rcases Ip.mem_compressed hc with ⟨_, -, hdigit | rfl⟩ | ⟨_, scopeId, rfl, hhex | rfl | ⟨z, rfl, rfl | hz⟩⟩
    · exact isHostChar_of_isHexChar (by rw [Ip.isHexChar, hdigit, Bool.true_or])
    · decide
    · exact isHostChar_of_isHexChar hhex
    · decide
    · decide
    · obtain ⟨-, ⟨_, hv4, -⟩ | ⟨-, ⟨_, hv6, -⟩ | ⟨_, text, z', hv6, rfl, -, -, -, -⟩⟩⟩ :=
        Ip.address_cases hip
      · cases hv4
      · cases hv6
      · cases hv6
        exact h.chars c (List.mem_append_right _ (List.mem_cons_of_mem _ hz))

/-! ## Rebuilt origins -/

/-- The authority that an origin is rebuilt with. -/
def authorityText (host : List Char) (port : ℕ) : List Char :=
  (match Ip.address host with
    | some (.v6 _ _) => '[' :: host ++ [']']
    | _ => host) ++ if port = 443 then [] else ':' :: Nat.toDigits 10 port

theorem httpsOrigin_eq (host : List Char) (port : ℕ) :
    httpsOrigin host port = web "https".toList (authorityText host port) [] := by
  unfold httpsOrigin web authorityText
  dsimp only
  rw [List.append_nil]
  by_cases hport : port = 443
  · rw [if_pos hport, if_pos hport, List.append_nil]
    rfl
  · rw [if_neg hport, if_neg hport, ← List.append_assoc]
    rfl

theorem normalizeApiUrl_eq (host : List Char) (port : ℕ) :
    normalizeApiUrl (httpsOrigin host port) none =
      web "https".toList (authorityText host port) "/api/".toList := by
  rw [httpsOrigin_eq, normalizeApiUrl, ← String.toList_inj]
  simp [web]

/-- A host that is put back as it was: an IPv6 address, or one without colons and brackets. -/
def KeepsItsPlace (host : List Char) : Prop :=
  (∃ ip scopeId, Ip.address host = some (.v6 ip scopeId)) ∨ ':' ∉ host ∧ '[' ∉ host

theorem authorityText_cases {host : List Char} (port : ℕ) (h : KeepsItsPlace host) :
    (∃ ip scopeId, Ip.address host = some (.v6 ip scopeId)) ∧
        authorityText host port =
          '[' :: host ++ ']' :: (if port = 443 then [] else ':' :: Nat.toDigits 10 port) ∨
      ':' ∉ host ∧ '[' ∉ host ∧
        authorityText host port = host ++ if port = 443 then [] else ':' :: Nat.toDigits 10 port := by
  rw [authorityText]
  by_cases hv6 : ∃ ip scopeId, Ip.address host = some (.v6 ip scopeId)
  · obtain ⟨ip, scopeId, hip⟩ := hv6
    rw [hip]
    exact .inl ⟨⟨ip, scopeId, rfl⟩, by simp⟩
  · right
    obtain ⟨hcolon, hopen⟩ := h.resolve_left hv6
    refine ⟨hcolon, hopen, ?_⟩
    cases hip : Ip.address host with
    | none => rfl
    | some ip =>
      cases ip with
      | v4 ip => rfl
      | v6 ip scopeId => exact absurd ⟨ip, scopeId, hip⟩ hv6

theorem mem_authorityText {host : List Char} {port : ℕ} {c : Char} (text : IsHostText host)
    (h : c ∈ authorityText host port) :
    isHostChar c = true ∨ c = '[' ∧ (∃ ip scopeId, Ip.address host = some (.v6 ip scopeId)) ∨
      c = ']' ∧ (∃ ip scopeId, Ip.address host = some (.v6 ip scopeId)) ∨ c = ':' := by
  rw [authorityText] at h
  rcases List.mem_append.1 h with h | h
  · split at h
    · rename_i ip scopeId hip
      rw [List.mem_append, List.mem_cons, List.mem_singleton] at h
      rcases h with (rfl | h) | rfl
      · exact .inr (.inl ⟨rfl, ip, scopeId, hip⟩)
      · exact .inl (text.chars c h)
      · exact .inr (.inr (.inl ⟨rfl, ip, scopeId, hip⟩))
    · exact .inl (text.chars c h)
  · split_ifs at h
    · cases h
    · rcases List.mem_cons.1 h with rfl | h
      · exact .inr (.inr (.inr rfl))
      · have hdigit := isDigit_of_mem_toDigits h
        exact .inl (isHostChar_of_isHexChar (by rw [Ip.isHexChar, hdigit, Bool.true_or]))

theorem at_notMem_authorityText {host : List Char} {port : ℕ} (text : IsHostText host) :
    '@' ∉ authorityText host port := by
  intro h
  rcases mem_authorityText text h with hchar | ⟨hat, -⟩ | ⟨hat, -⟩ | hat
  · exact (isHostChar_iff.1 hchar).2.2 (by decide)
  · cases hat
  · cases hat
  · cases hat

theorem isNetlocChar_authorityText {host : List Char} {port : ℕ} (text : IsHostText host) :
    ∀ c ∈ authorityText host port, isNetlocChar c = true := by
  intro c h
  rcases mem_authorityText text h with hchar | ⟨rfl, -⟩ | ⟨rfl, -⟩ | rfl
  · have hdelim := (isHostChar_iff.1 hchar).2.2
    simp only [delimiters, List.mem_cons, List.not_mem_nil, or_false, not_or] at hdelim
    simp [isNetlocChar, hdelim]
  all_goals rfl

theorem isAscii_authorityText {host : List Char} {port : ℕ} (text : IsHostText host) :
    isAscii (authorityText host port) = true := by
  rw [isAscii_iff]
  intro c h
  rcases mem_authorityText text h with hchar | ⟨rfl, -⟩ | ⟨rfl, -⟩ | rfl
  · exact (isHostChar_iff.1 hchar).1
  all_goals decide

theorem mem_portText {port : ℕ} {c : Char}
    (h : c ∈ if port = 443 then [] else ':' :: Nat.toDigits 10 port) : c = ':' ∨ isDigit c = true := by
  split_ifs at h
  · cases h
  · exact (List.mem_cons.1 h).imp id isDigit_of_mem_toDigits

theorem bracketsValid_of_notMem {netloc : List Char} (hopen : '[' ∉ netloc) (hclose : ']' ∉ netloc) :
    bracketsValid netloc = true := by
  have hopen' : netloc.contains '[' = false := by rwa [← Bool.not_eq_true, List.contains_iff_mem]
  have hclose' : netloc.contains ']' = false := by rwa [← Bool.not_eq_true, List.contains_iff_mem]
  rw [bracketsValid, hopen', hclose']

theorem checkBracketedHost_of_v6 {host : List Char} {ip : ℕ} {scopeId : Option (List Char)}
    (h : Ip.address host = some (.v6 ip scopeId)) : checkBracketedHost host = true := by
  unfold checkBracketedHost
  split
  · rcases Ip.head_of_address h rfl with hv | hv | ⟨d, hv⟩ <;> cases hv
  · rw [h]

/-- A host that keeps its place is rebuilt into an authority. -/
theorem isNetloc_authorityText {host : List Char} (port : ℕ) (text : IsHostText host)
    (keeps : KeepsItsPlace host) : IsNetloc unicode (authorityText host port) := by
  refine ⟨?_, isNetlocChar_authorityText text, ?_, ?_⟩
  · rcases authorityText_cases port keeps with ⟨-, htext⟩ | ⟨-, -, htext⟩
    · rw [htext]
      exact List.cons_ne_nil _ _
    · rw [htext]
      exact List.append_ne_nil_of_left_ne_nil text.ne_nil _
  -- Brackets stand around an IPv6 address, and nowhere else.
  · have hclose : ']' ∉ host := fun hmem => (isHostChar_iff.1 (text.chars _ hmem)).2.2 (by decide)
    rcases authorityText_cases port keeps with ⟨⟨ip, scopeId, hip⟩, htext⟩ | ⟨hcolon, hopen, htext⟩
    · have hopen : (authorityText host port).contains '[' = true := by
        rw [List.contains_iff_mem, htext]
        exact List.mem_append_left _ List.mem_cons_self
      have hclose' : (authorityText host port).contains ']' = true := by
        rw [List.contains_iff_mem, htext]
        exact List.mem_append_right _ List.mem_cons_self
      have hparts : partition '[' (authorityText host port) =
          ([], true, host ++ ']' :: if port = 443 then [] else ':' :: Nat.toDigits 10 port) := by
        rw [htext]
        exact partition_append List.not_mem_nil _
      have hport : ((if port = 443 then [] else ':' :: Nat.toDigits 10 port).isEmpty ||
          startsWith (if port = 443 then [] else ':' :: Nat.toDigits 10 port) [':']) = true := by
        split_ifs <;> rfl
      rw [bracketsValid, hopen, hclose']
      dsimp only
      rw [checkBracketedNetloc]
      dsimp only
      rw [rpartition_of_notMem (at_notMem_authorityText text)]
      dsimp only
      rw [hparts]
      dsimp only
      rw [partition_append hclose]
      dsimp only
      rw [hport, checkBracketedHost_of_v6 hip]
      rfl
    · rw [htext]
      refine bracketsValid_of_notMem ?_ ?_
      · rw [List.mem_append, not_or]
        refine ⟨hopen, fun h => ?_⟩
        rcases mem_portText h with hc | hc <;> cases hc
      · rw [List.mem_append, not_or]
        refine ⟨hclose, fun h => ?_⟩
        rcases mem_portText h with hc | hc <;> cases hc
  · rw [checkNetloc, isAscii_authorityText text, Bool.or_true, Bool.true_or]

theorem lower_eq_self {s : List Char} (h : ∀ c ∈ s, isHostChar c = true) : unicode.lower s = s := by
  have hascii : isAscii s = true := isAscii_iff.2 fun c hc => (isHostChar_iff.1 (h c hc)).1
  calc unicode.lower s = s.map Char.toLower := unicode.lower_ascii s hascii
    _ = s.map id := List.map_congr_left fun c hc => (isHostChar_iff.1 (h c hc)).2.1
    _ = s := List.map_id s

/-- The name of a host that is spelled as an identity has it is that. -/
theorem hostname_eq {r : ParseResult} (h : ∀ c ∈ r.hostinfo.1, isHostChar c = true) :
    r.hostname unicode = r.hostinfo.1 := by
  rcases hostname_cases unicode r with ⟨hname, -⟩ | ⟨pre, zone, hsplit, -, hname⟩
  · rw [hname, lower_eq_self h]
  · rw [hname, hsplit]
    rw [hsplit] at h
    rw [lower_eq_self fun c hc => h c (List.mem_append_left _ hc)]

/-- A host that keeps its place is the host of what is rebuilt, and so is the port. -/
theorem hostinfo_authorityText (scheme path : List Char) {host : List Char} (port : ℕ) (text : IsHostText host)
    (keeps : KeepsItsPlace host) :
    (authority scheme (authorityText host port) path).hostinfo =
      (host, if port = 443 then [] else Nat.toDigits 10 port) := by
  have hclose : ']' ∉ host := fun hmem => (isHostChar_iff.1 (text.chars _ hmem)).2.2 (by decide)
  have hat : '@' ∉ (authority scheme (authorityText host port) path).netloc :=
    at_notMem_authorityText text
  rcases authorityText_cases port keeps with ⟨-, htext⟩ | ⟨hcolon, hopen, htext⟩
  · rw [hostinfo_bracketed hat htext hclose]
    split_ifs
    · rfl
    · exact congrArg (fun parts => (host, parts.2.2)) (partition_append List.not_mem_nil _)
  · have hopen' : '[' ∉ (authority scheme (authorityText host port) path).netloc := by
      change '[' ∉ authorityText host port
      rw [htext, List.mem_append, not_or]
      refine ⟨hopen, fun h => ?_⟩
      rcases mem_portText h with hc | hc <;> cases hc
    rw [hostinfo_plain hat hopen']
    change ((partition ':' (authorityText host port)).1, _) = _
    change (_, (partition ':' (authorityText host port)).2.2) = _
    rw [htext]
    split_ifs
    · rw [List.append_nil, partition_of_notMem hcolon]
    · rw [partition_append hcolon]

/-- What is rebuilt from a host that keeps its place has that origin. -/
theorem hasOrigin_web {path host : List Char} {port : ℕ} (text : IsHostText host)
    (keeps : KeepsItsPlace host) (hpath : IsPlainPath path) (hport : port ≤ 65535) :
    HasOrigin unicode (web "https".toList (authorityText host port) path) host port := by
  have hinfo := hostinfo_authorityText "https".toList path port text keeps
  have huser := (username_eq_none_iff (authority "https".toList (authorityText host port) path)).2
    (at_notMem_authorityText text)
  have hname : (authority "https".toList (authorityText host port) path).hostname unicode = host := by
    rw [hostname_eq (by rw [hinfo]; exact text.chars), hinfo]
  refine ⟨authority "https".toList (authorityText host port) path,
    urlparse_web (.inr rfl) (isNetloc_authorityText port text keeps) hpath, rfl, huser,
    password_eq_none huser, hname, ?_⟩
  by_cases hdefault : port = 443
  · refine ⟨none, ?_, hdefault.symm⟩
    rw [ParseResult.port, hinfo, if_pos hdefault]
  · refine ⟨some port, ?_, rfl⟩
    have hdigits : (Nat.toDigits 10 port).all isDigit = true :=
      List.all_eq_true.2 fun c hc => isDigit_of_mem_toDigits hc
    have hread : natOfDigits (Nat.toDigits 10 port) = some port :=
      natOfDigits_toDigits (lt_of_le_of_lt hport (by decide +kernel))
    rw [ParseResult.port, hinfo, if_neg hdefault]
    dsimp only
    split
    · rename_i hnil
      exact absurd hnil Nat.toDigits_ne_nil
    · rw [hdigits, if_pos rfl, hread, Option.bind_some, if_pos hport]

/-- The host of what is rebuilt is the one it is rebuilt from. -/
theorem urlHost_web {path host : List Char} {port : ℕ} (text : IsHostText host)
    (keeps : KeepsItsPlace host) (hpath : IsPlainPath path) :
    urlHost unicode rawHost (web "https".toList (authorityText host port) path) = some host := by
  have hinfo := hostinfo_authorityText "https".toList path port text keeps
  have hname : (authority "https".toList (authorityText host port) path).hostname unicode = host := by
    rw [hostname_eq (by rw [hinfo]; exact text.chars), hinfo]
  have hascii : isAscii host = true := isAscii_iff.2 fun c hc => (isHostChar_iff.1 (text.chars c hc)).1
  have hparsed : urlparse unicode (web "https".toList (authorityText host port) path) =
      some (authority "https".toList (authorityText host port) path) :=
    urlparse_web (.inr rfl) (isNetloc_authorityText port text keeps) hpath
  rw [urlHost, hparsed]
  dsimp only
  rw [hname, lower_eq_self text.chars, if_neg (by rw [List.isEmpty_iff]; exact text.ne_nil),
    canonicalAsciiHost_ascii text.ne_nil hascii, lower_eq_self text.chars]
  rfl

/-! ## Lost hosts -/

/-- The authority has a future address in brackets that is not itself without them. -/
def IsFuture (netloc : List Char) : Prop :=
  ∃ host port, netloc = '[' :: 'v' :: host ++ ']' :: port ∧ ']' ∉ host ∧ (':' ∈ host ∨ '[' ∈ host)

/-- The URL is accepted when its host resolves to a public address, but its
    tenant leads to another host: a blank at the end is stripped, unless what is
    left is a public address, or the brackets of a future address are. -/
def LosesHost (unicode : Unicode) (rawHost : List Char → Option (List Char)) (config : AppConfig)
    (baseUrl : Option String) : Prop :=
  ∃ netloc identity, Requested unicode rawHost config baseUrl netloc identity ∧
    isAscii ((authority "https".toList netloc []).hostname unicode) = true ∧
    (EndsInBlank netloc ∧ (∀ ip, Ip.address identity.host = some ip → ipIsBlocked ip = true) ∨
      IsFuture netloc)

theorem ipIsBlocked_unscoped (ip : Ip.Address) : ipIsBlocked ip.unscoped = ipIsBlocked ip := by
  cases ip with
  | v4 ip => rfl
  | v6 ip scopeId => rfl

/-- An address literal that is not blocked resolves to none that is. -/
theorem publicHost_of_literal (literals : ResolvesLiterals getaddrinfo) {host : List Char}
    {ip : Ip.Address} (hip : Ip.address host = some ip) (hpublic : ipIsBlocked ip = false) :
    PublicHost getaddrinfo host := by
  intro infos hinfos info hinfo ip' hip'
  have hsame := (literals host ip infos hip hinfos ip'.unscoped).1 ⟨info, hinfo, ip', hip', rfl⟩
  rw [← ipIsBlocked_unscoped, hsame, ipIsBlocked_unscoped, hpublic]

/-- A literal that resolves, to no blocked address, is not blocked. -/
theorem not_blocked_of_publicHost (literals : ResolvesLiterals getaddrinfo) {host : List Char}
    {ip : Ip.Address} {infos : List (List Char)} (hip : Ip.address host = some ip)
    (hinfos : getaddrinfo host = some infos) (hpublic : PublicHost getaddrinfo host) :
    ipIsBlocked ip = false := by
  obtain ⟨info, hinfo, ip', hip', hsame⟩ := (literals host ip infos hip hinfos ip.unscoped).2 rfl
  have hopen := hpublic infos hinfos info hinfo ip' hip'
  rwa [← ipIsBlocked_unscoped, hsame, ipIsBlocked_unscoped] at hopen

/-- A host and its compressed spelling lead to the same addresses. -/
theorem publicHost_compressHost (literals : ResolvesLiterals getaddrinfo) {host : List Char}
    {infos : List (List Char)} (hinfos : getaddrinfo host = some infos)
    (hpublic : PublicHost getaddrinfo host) : PublicHost getaddrinfo (compressHost host) := by
  rw [compressHost]
  cases hip : Ip.address host with
  | none => exact hpublic
  | some ip =>
    exact publicHost_of_literal literals (Ip.address_compressed (Ip.valid_of_address hip))
      (not_blocked_of_publicHost literals hip hinfos hpublic)

theorem lowered_lowered (s : List Char) : Ip.lowered (Ip.lowered s) = Ip.lowered s := by
  unfold Ip.lowered
  rw [List.map_map]
  exact List.map_congr_left fun c _ => toLower_toLower c

theorem lt_of_hexDigit? {c : Char} {d : ℕ} (h : hexDigit? c = some d) : c.toNat < 128 := by
  unfold hexDigit? at h
  split_ifs at h with hdigit hlower hupper
  · exact lt_of_isDigit hdigit
  · simp only [Bool.and_eq_true, decide_eq_true_eq] at hlower
    exact lt_of_le_char hlower.2 (by decide)
  · simp only [Bool.and_eq_true, decide_eq_true_eq] at hupper
    exact lt_of_le_char hupper.2 (by decide)

theorem isAscii_of_parseV6 {s : List Char} {ip : ℕ} (h : Ip.parseV6 s = some ip) :
    isAscii s = true := by
  rw [isAscii_iff]
  intro c hc
  rcases Ip.mem_of_parseV6 h c hc with rfl | rfl | ⟨d, hd⟩
  · decide
  · decide
  · exact lt_of_hexDigit? hd

/-- The name of a host that is an IPv6 address has that address in lower case. -/
theorem lowered_hostname {r : ParseResult} {ip : ℕ} {scopeId : Option (List Char)}
    (h : Ip.address r.hostinfo.1 = some (.v6 ip scopeId)) :
    Ip.lowered (r.hostname unicode) = Ip.lowered r.hostinfo.1 := by
  obtain ⟨-, ⟨_, hv4, -⟩ | ⟨-, ⟨_, -, hip, hfree⟩ | ⟨_, text, z, -, hsplit, hip, -, -, hfree⟩⟩⟩ :=
    Ip.address_cases h
  · cases hv4
  · rcases hostname_cases unicode r with ⟨hname, -⟩ | ⟨pre, zone, hsplit, -, -⟩
    · rw [hname, lower_eq_lowered (isAscii_of_parseV6 hip), lowered_lowered]
    · rw [hsplit] at hfree
      exact absurd (List.mem_append_right _ List.mem_cons_self) hfree
  · have hname : r.hostname unicode = unicode.lower text ++ '%' :: z := by
      rw [ParseResult.hostname, hsplit, partition_append hfree]
      rfl
    rw [hname, hsplit, lower_eq_lowered (isAscii_of_parseV6 hip)]
    unfold Ip.lowered
    rw [List.map_append, List.map_append, ← Ip.lowered, ← Ip.lowered, lowered_lowered]

/-- The host of an identity keeps its place, unless it is a future address that
    would not. -/
theorem keepsItsPlace_identity (laws : LowerLaws unicode) (idna : IdnaLaws rawHost)
    {r : ParseResult} (hvalid : IsNetloc unicode r.netloc) (hat : '@' ∉ r.netloc) {host : List Char}
    (hne : host ≠ []) (h : canonicalAsciiHost unicode rawHost (r.hostname unicode) = .ok host)
    (hfuture : isAscii (r.hostname unicode) = true → ¬IsFuture r.netloc) :
    KeepsItsPlace (compressHost host) := by
  rw [compressHost]
  cases hip : Ip.address host with
  | some ip =>
    change KeepsItsPlace ip.compressed
    have hread := Ip.address_compressed (Ip.valid_of_address hip)
    cases ip with
    | v6 ip scopeId => exact .inl ⟨ip, scopeId, hread⟩
    | v4 ip =>
      have hdigits : ∀ c ∈ (Ip.Address.v4 ip).compressed, isDigit c = true ∨ c = '.' := by
        intro c hc
        rcases Ip.mem_compressed hc with ⟨_, -, hc⟩ | ⟨_, _, hv6, -⟩
        · exact hc
        · cases hv6
      refine .inr ⟨fun hmem => ?_, fun hmem => ?_⟩
      · rcases hdigits _ hmem with hc | hc <;> cases hc
      · rcases hdigits _ hmem with hc | hc <;> cases hc
  | none =>
    change KeepsItsPlace host
    -- A name has neither a colon nor a bracket.
    have hnone : ∀ x, x = ':' ∨ x = '[' → x ∉ host := by
      intro x hx hmem
      have hletter : isLetter x = false ∧ x.toNat < 128 ∧ isLabelChar x = false ∧ x ≠ 'v' := by
        rcases hx with rfl | rfl <;> decide
      have hnil : r.hostname unicode ≠ [] := by
        intro hnil
        rw [hnil] at h
        exact hne (Except.ok.inj h).symm
      cases hascii : isAscii (r.hostname unicode) with
      | false =>
        have hlabel := idna.chars _ _ (canonicalAsciiHost_idna hnil hascii h) x hmem
        rw [hletter.2.2.1] at hlabel
        cases hlabel
      | true =>
        rw [canonicalAsciiHost_ascii hnil hascii, lower_eq_lowered hascii] at h
        obtain rfl := Except.ok.inj h
        have hinfo : x ∈ r.hostinfo.1 :=
          mem_of_mem_hostname laws ((Ip.mem_lowered_iff hletter.1).1 hmem) hletter.2.1 hletter.1
        rcases brackets_cases hvalid.brackets hat with
          ⟨hopen, -⟩ | ⟨host, port, hsplit, hhost, hcheck, -⟩
        · -- Without brackets, the host ends before the first colon.
          rw [hostinfo_plain hat hopen] at hinfo
          rcases hx with rfl | rfl
          · have hkept := List.mem_takeWhile_imp (p := fun c => decide (c ≠ ':')) hinfo
            cases hkept
          · exact hopen ((List.takeWhile_sublist _).subset hinfo)
        · have hinfo' := hostinfo_bracketed hat hsplit hhost
          rw [hinfo'] at hinfo
          unfold checkBracketedHost at hcheck
          split at hcheck
          · rename_i rest
            -- Between brackets, only an IPvFuture literal holds one and is no IPv6 address.
            have hrest : x ∈ rest := (List.mem_cons.1 hinfo).resolve_left hletter.2.2.2
            refine hfuture hascii ⟨rest, port, hsplit, fun hmem => hhost (List.mem_cons_of_mem _ hmem), ?_⟩
            rcases hx with rfl | rfl
            · exact .inl hrest
            · exact .inr hrest
          · split at hcheck
            · rename_i ip scopeId hv6
              have hlit : Ip.address r.hostinfo.1 = some (.v6 ip scopeId) := by rwa [hinfo']
              rw [lowered_hostname hlit, Ip.address_lowered hlit] at hip
              cases hip
            · cases hcheck
    exact .inr ⟨hnone ':' (.inl rfl), hnone '[' (.inr rfl)⟩

/-! ## The exact condition -/

/-- The port of an identity is in range. -/
theorem port_le_of_some {r : ParseResult} {explicitPort : Option ℕ} (h : r.port = some explicitPort) :
    explicitPort.getD 443 ≤ 65535 := by
  rw [ParseResult.port] at h
  split at h
  · cases h
    decide
  · split_ifs at h
    · obtain ⟨port, -, h⟩ := Option.bind_eq_some_iff.1 h
      split_ifs at h with hle
      cases h
      exact hle

/-- What a requested URL is checked by, and what its tenant is rebuilt from. -/
theorem hosts_of_requested (laws : LowerLaws unicode) (idna : IdnaLaws rawHost) {config : AppConfig}
    {baseUrl : Option String} {netloc : List Char} {identity : TenantIdentity}
    (requested : Requested unicode rawHost config baseUrl netloc identity) :
    ∃ host, canonicalAsciiHost unicode rawHost
          ((authority "https".toList (netloc.rdropWhile isSpace) []).hostname unicode) = .ok host ∧
      host ≠ [] ∧ identity.host = compressHost host ∧ IsHostText identity.host ∧
      IsNetloc unicode (netloc.rdropWhile isSpace) ∧ '@' ∉ netloc.rdropWhile isSpace ∧
      identity.port ≤ 65535 := by
  obtain ⟨hvalid, host, explicitPort, hcanonical, hne, hport, rfl⟩ :=
    tenantIdentity_web (.inr rfl) requested.valid requested.identified
  have hat : '@' ∉ netloc.rdropWhile isSpace :=
    fun hmem => requested.anonymous ((List.rdropWhile_prefix _ _).subset hmem)
  have htext := isHostText_canonical (r := authority "https".toList (netloc.rdropWhile isSpace) [])
    laws idna hvalid hat hne hcanonical
  exact ⟨host, hcanonical, hne, rfl, isHostText_compressHost htext, hvalid, hat, port_le_of_some hport⟩

/-- A tenant rebuilt from a host that keeps its place is sound, when that host
    leads to no blocked address. -/
theorem sound_of_publicHost {config : AppConfig} {baseUrl : Option String} {netloc : List Char}
    {identity : TenantIdentity}
    (requested : Requested unicode rawHost config baseUrl netloc identity)
    (text : IsHostText identity.host) (keeps : KeepsItsPlace identity.host)
    (hport : identity.port ≤ 65535) (hpublic : PublicHost getaddrinfo identity.host) :
    SoundTenant unicode rawHost getaddrinfo config baseUrl (madeUpTenant unicode identity) := by
  have hroot : IsPlainPath [] := ⟨.inl rfl, by simp⟩
  have hapi : IsPlainPath "/api/".toList :=
    ⟨.inr rfl, List.all_iff_forall_prop.1 (by decide)⟩
  -- Both URLs of the tenant have the identity's authority, so a client reads back its host.
  have hsink : ∀ path, IsPlainPath path → PublicSink unicode rawHost getaddrinfo
      (web "https".toList (authorityText identity.host identity.port) path) := by
    intro path hpath host hhost
    rw [urlHost_web text keeps hpath] at hhost
    rw [← Option.some.inj hhost]
    exact hpublic
  constructor
  · change PublicSink unicode rawHost getaddrinfo (httpsOrigin identity.host identity.port)
    rw [httpsOrigin_eq]
    exact hsink [] hroot
  · intro url hurl
    obtain rfl := Option.some.inj hurl
    rw [normalizeApiUrl_eq]
    exact hsink _ hapi
  · intro _
    refine ⟨identity.host, identity.port,
      normalizeApiUrl (httpsOrigin identity.host identity.port) none, ?_, requested.port, rfl, ?_,
      requested.approved⟩
    · change HasOrigin unicode (httpsOrigin identity.host identity.port) _ _
      rw [httpsOrigin_eq]
      exact hasOrigin_web text keeps hroot hport
    · rw [normalizeApiUrl_eq]
      exact hasOrigin_web text keeps hapi hport

/-- What a URL of the web is checked by. -/
theorem checked_of_rejectPrivateUrl {netloc : List Char} (hvalid : IsNetloc unicode netloc)
    (hhost : unicode.lower ((authority "https".toList netloc []).hostname unicode) ≠ []) :
    rejectPrivateUrl unicode rawHost getaddrinfo (web "https".toList netloc []) = .ok () ↔
      ∃ ascii infos, canonicalAsciiHost unicode rawHost
          (unicode.lower ((authority "https".toList netloc []).hostname unicode)) = .ok ascii ∧
        ascii ≠ [] ∧ getaddrinfo ascii = some infos ∧ PublicHost getaddrinfo ascii := by
  have hurl : web "https".toList netloc [] ≠ "" := by
    intro hempty
    have hlist := congrArg String.toList hempty
    rw [web, String.toList_ofList] at hlist
    cases hlist
  exact rejectPrivateUrl_eq_ok_iff hurl (urlparse_web (.inr rfl) hvalid ⟨.inl rfl, by simp⟩) hhost

theorem isAscii_append {s t : List Char} :
    isAscii (s ++ t) = true ↔ isAscii s = true ∧ isAscii t = true := by
  rw [isAscii_iff, isAscii_iff, isAscii_iff]
  simp only [List.mem_append]
  exact ⟨fun h => ⟨fun c hc => h c (.inl hc), fun c hc => h c (.inr hc)⟩,
    fun h c hc => hc.elim (h.1 c) (h.2 c)⟩

/-- A name of a host that has an IDNA form is all in lower case. -/
theorem lower_hostname_of_idna (laws : LowerLaws unicode) (idna : IdnaLaws rawHost) {r : ParseResult}
    {ascii : List Char} (h : rawHost (r.hostname unicode) = some ascii) :
    unicode.lower (r.hostname unicode) = r.hostname unicode := by
  have hplain := idna.plain _ _ h
  rcases hostname_cases unicode r with ⟨hname, -⟩ | ⟨pre, zone, -, -, hname⟩
  · rw [hname, laws.lower_lower]
  · rw [hname] at hplain
    exact absurd rfl (hplain '%' (List.mem_append_right _ List.mem_cons_self)).1

/-- A host that is not ASCII and ends in a blank does not resolve, or has no
    identity. -/
theorem isAscii_of_endsInBlank (laws : LowerLaws unicode) (idna : IdnaLaws rawHost)
    {netloc w ascii host : List Char}
    (hname : (authority "https".toList netloc []).hostname unicode =
      (authority "https".toList (netloc.rdropWhile isSpace) []).hostname unicode ++ w)
    (hw : w ≠ []) (hspace : ∀ c ∈ w, isSpace c = true)
    (hchecked : canonicalAsciiHost unicode rawHost
      (unicode.lower ((authority "https".toList netloc []).hostname unicode)) = .ok ascii)
    (hhost : canonicalAsciiHost unicode rawHost
      ((authority "https".toList (netloc.rdropWhile isSpace) []).hostname unicode) = .ok host)
    (hne : host ≠ []) : isAscii ((authority "https".toList netloc []).hostname unicode) = true := by
  have hlower := lower_append_blanks laws
    ((authority "https".toList (netloc.rdropWhile isSpace) []).hostname unicode) hspace
  rw [← hname] at hlower
  have hnil : unicode.lower ((authority "https".toList netloc []).hostname unicode) ≠ [] := by
    rw [hlower]
    exact List.append_ne_nil_of_right_ne_nil _ hw
  have hnil' : (authority "https".toList (netloc.rdropWhile isSpace) []).hostname unicode ≠ [] := by
    intro hnil'
    rw [hnil'] at hhost
    exact hne (Except.ok.inj hhost).symm
  cases hascii : isAscii (unicode.lower ((authority "https".toList netloc []).hostname unicode)) with
  | false =>
    -- The IDNA form of the checked host does not exist: there is a blank in the host.
    have hplain := idna.plain _ _ (canonicalAsciiHost_idna hnil hascii hchecked)
    obtain ⟨c, hc⟩ := List.exists_mem_of_ne_nil w hw
    have hblank := (hplain c (by rw [hlower]; exact List.mem_append_right _ hc)).2
    rw [hspace c hc] at hblank
    cases hblank
  | true =>
    rw [hlower, isAscii_append] at hascii
    rw [hname, isAscii_append]
    refine ⟨?_, hascii.2⟩
    cases hascii' : isAscii
        ((authority "https".toList (netloc.rdropWhile isSpace) []).hostname unicode) with
    | true => rfl
    | false =>
      have hsame := lower_hostname_of_idna laws idna (canonicalAsciiHost_idna hnil' hascii' hhost)
      rw [hsame, hascii'] at hascii
      exact hascii.1

theorem isFuture_of_rdropWhile {netloc : List Char} (h : IsFuture (netloc.rdropWhile isSpace)) :
    IsFuture netloc := by
  obtain ⟨host, port, hsplit, hclose, hmem⟩ := h
  obtain ⟨w, hw⟩ := List.rdropWhile_prefix isSpace netloc
  refine ⟨host, port ++ w, ?_, hclose, hmem⟩
  rw [← hw, hsplit]
  simp

/-- A URL whose host is not lost gets sound tenants only. -/
theorem sound_of_not_losesHost (laws : LowerLaws unicode) (idna : IdnaLaws rawHost)
    {config : AppConfig} {baseUrl : Option String} {tenant : Tenant}
    (live : config.resourceSpace.mode ≠ "fixture") (keeps : ¬LosesHost unicode rawHost config baseUrl)
    (literals : ResolvesLiterals getaddrinfo)
    (accepted : getConfiguredTenant unicode rawHost getaddrinfo config baseUrl = .ok tenant) :
    SoundTenant unicode rawHost getaddrinfo config baseUrl tenant := by
  rcases requested_of_accepted live accepted with
    ⟨hbase, hapi, hregistered⟩ | ⟨netloc, identity, requested, hsink, rfl⟩
  · exact ⟨hbase, hapi, fun dynamic => absurd dynamic hregistered⟩
  obtain ⟨host, hcanonical, hne, hidentity, text, hvalid', hat', hport⟩ :=
    hosts_of_requested laws idna requested
  have hnil : (authority "https".toList (netloc.rdropWhile isSpace) []).hostname unicode ≠ [] := by
    intro hnil
    rw [hnil] at hcanonical
    exact hne (Except.ok.inj hcanonical).symm
  -- The check and the tenant read the same host, unless the check's ends in blanks.
  by_cases hblank : EndsInBlank netloc
  · obtain ⟨w, hw, hspace, hname⟩ :=
      hostname_of_endsInBlank "https".toList laws requested.anonymous hblank
    have hlower := lower_append_blanks laws
      ((authority "https".toList (netloc.rdropWhile isSpace) []).hostname unicode) hspace
    rw [← hname] at hlower
    obtain ⟨ascii, infos, hchecked, -, -, -⟩ :=
      (checked_of_rejectPrivateUrl requested.valid
        (by rw [hlower]; exact List.append_ne_nil_of_right_ne_nil _ hw)).1 hsink
    have hascii := isAscii_of_endsInBlank laws idna hname hw hspace hchecked hcanonical hne
    -- Otherwise the host would be lost.
    have hliteral : ∃ ip, Ip.address identity.host = some ip ∧ ipIsBlocked ip = false := by
      by_contra hnone
      refine keeps ⟨netloc, identity, requested, hascii, .inl ⟨hblank, fun ip hip => ?_⟩⟩
      by_contra hopen
      exact hnone ⟨ip, hip, Bool.not_eq_true _ ▸ hopen⟩
    obtain ⟨ip, hip, hopen⟩ := hliteral
    have hplace : KeepsItsPlace identity.host := by
      rw [hidentity]
      refine keepsItsPlace_identity (r := authority "https".toList (netloc.rdropWhile isSpace) [])
        laws idna hvalid' hat' hne hcanonical fun _ hfuture => ?_
      obtain ⟨_, _, hsplit, -, -⟩ := isFuture_of_rdropWhile hfuture
      exact hblank.1 (by rw [hsplit]; exact List.mem_append_left _ List.mem_cons_self)
    exact sound_of_publicHost requested text hplace hport (publicHost_of_literal literals hip hopen)
  · have hname := hostname_rdropWhile "https".toList requested.valid
      requested.anonymous hblank
    have hlowernil : unicode.lower ((authority "https".toList netloc []).hostname unicode) ≠ [] := by
      rw [← hname]
      cases hascii : isAscii
          ((authority "https".toList (netloc.rdropWhile isSpace) []).hostname unicode) with
      | true => exact lower_ne_nil hnil hascii
      | false =>
        rwa [lower_hostname_of_idna laws idna (canonicalAsciiHost_idna hnil hascii hcanonical)]
    obtain ⟨ascii, infos, hchecked, -, hinfos, hpublic⟩ :=
      (checked_of_rejectPrivateUrl requested.valid hlowernil).1 hsink
    rw [← hname] at hchecked
    obtain rfl := canonical_eq laws idna hchecked hcanonical
    have hplace : KeepsItsPlace identity.host := by
      rw [hidentity]
      refine keepsItsPlace_identity (r := authority "https".toList (netloc.rdropWhile isSpace) [])
        laws idna hvalid' hat' hne hcanonical fun hascii hfuture => ?_
      rw [hname] at hascii
      exact keeps ⟨netloc, identity, requested, hascii, .inr (isFuture_of_rdropWhile hfuture)⟩
    refine sound_of_publicHost requested text hplace hport ?_
    rw [hidentity]
    exact publicHost_compressHost literals hinfos hpublic

/-! ## Lost hosts lead elsewhere -/

/-- A resolver of one name to a public address, and of all others to a private one. -/
def resolverOf (name host : List Char) : Option (List (List Char)) :=
  if host = name then some ["8.8.8.8".toList]
  else if (Ip.address host).isSome then some [host]
  else some ["10.0.0.1".toList]

theorem resolvesLiterals_resolverOf {name : List Char} (h : Ip.address name = none) :
    ResolvesLiterals (resolverOf name) := by
  intro host ip infos hip hinfos ip'
  have hne : host ≠ name := by
    rintro rfl
    rw [h] at hip
    cases hip
  rw [resolverOf, if_neg hne, hip, Option.isSome_some, if_pos rfl] at hinfos
  obtain rfl := Option.some.inj hinfos
  constructor
  · rintro ⟨info, hinfo, ip₀, hip₀, rfl⟩
    rw [List.mem_singleton.1 hinfo, hip] at hip₀
    rw [Option.some.inj hip₀]
  · rintro rfl
    exact ⟨host, List.mem_singleton_self host, ip, hip, rfl⟩

theorem publicHost_resolverOf (name : List Char) : PublicHost (resolverOf name) name := by
  intro infos hinfos info hinfo ip hip
  rw [resolverOf, if_pos rfl] at hinfos
  obtain rfl := Option.some.inj hinfos
  rw [List.mem_singleton.1 hinfo] at hip
  have hread : Ip.address "8.8.8.8".toList = some (.v4 0x08080808) := by decide +kernel
  rw [hread] at hip
  obtain rfl := Option.some.inj hip
  decide +kernel

/-- Any other host leads to a blocked address, unless it is a public literal. -/
theorem not_publicHost_resolverOf {name host : List Char} (hne : host ≠ name)
    (hblocked : ∀ ip, Ip.address host = some ip → ipIsBlocked ip = true) :
    ¬PublicHost (resolverOf name) host := by
  intro hpublic
  cases hip : Ip.address host with
  | some ip =>
    have hinfos : resolverOf name host = some [host] := by
      rw [resolverOf, if_neg hne, hip, Option.isSome_some, if_pos rfl]
    have hopen := hpublic _ hinfos host (List.mem_singleton_self host) ip hip
    rw [hblocked ip hip] at hopen
    cases hopen
  | none =>
    have hinfos : resolverOf name host = some ["10.0.0.1".toList] := by
      rw [resolverOf, if_neg hne, hip, Option.isSome_none, if_neg Bool.false_ne_true]
    have hread : Ip.address "10.0.0.1".toList = some (.v4 0x0a000001) := by decide +kernel
    have hopen := hpublic _ hinfos _ (List.mem_singleton_self _) _ hread
    have hprivate : ipIsBlocked (.v4 0x0a000001) = true := by decide +kernel
    rw [hprivate] at hopen
    cases hopen

/-- A host without a colon that has a blank in it is no literal. -/
theorem address_eq_none_of_blank {host : List Char} {c : Char} (hcolon : ':' ∉ host) (hc : c ∈ host)
    (hspace : isSpace c = true) : Ip.address host = none := by
  cases hip : Ip.address host with
  | none => rfl
  | some ip =>
    obtain ⟨-, ⟨_, -, hv4⟩ | ⟨-, ⟨_, -, hv6, -⟩ | ⟨_, text, z, -, rfl, hv6, -, -, -⟩⟩⟩ :=
      Ip.address_cases hip
    · rcases (Ip.lt_of_parseV4 hv4).2 c hc with hdigit | rfl
      · cases (isSpace_of_isDigit hdigit).symm.trans hspace
      · cases hspace
    · exact absurd (Ip.colon_of_parseV6 hv6) hcolon
    · exact absurd (List.mem_append_left _ (Ip.colon_of_parseV6 hv6)) hcolon

/-- A host that starts with a `v` is no literal. -/
theorem address_eq_none_of_v {host : List Char} (h : host.head? = some 'v') :
    Ip.address host = none := by
  cases hip : Ip.address host with
  | none => rfl
  | some ip => rcases Ip.head_of_address hip h with hv | hv | ⟨d, hv⟩ <;> cases hv

theorem compressHost_of_none {host : List Char} (h : Ip.address host = none) :
    compressHost host = host := by
  rw [compressHost, h]
  rfl

/-- The tenant of a host that is no literal is not sound, where it leads elsewhere. -/
theorem unsound_of_host (laws : LowerLaws unicode) {config : AppConfig} {baseUrl : Option String}
    {netloc : List Char} {identity : TenantIdentity} (live : config.resourceSpace.mode ≠ "fixture")
    (requested : Requested unicode rawHost config baseUrl netloc identity) {name : List Char}
    (hname : (authority "https".toList netloc []).hostname unicode = name) (hnil : name ≠ [])
    (hascii : isAscii name = true) (hnone : Ip.address (unicode.lower name) = none)
    (hlost : ¬SoundTenant unicode rawHost (resolverOf (unicode.lower name)) config baseUrl
      (madeUpTenant unicode identity)) :
    ∃ getaddrinfo tenant, ResolvesLiterals getaddrinfo ∧
      getConfiguredTenant unicode rawHost getaddrinfo config baseUrl = .ok tenant ∧
      ¬SoundTenant unicode rawHost getaddrinfo config baseUrl tenant := by
  have hlower : unicode.lower name ≠ [] := lower_ne_nil hnil hascii
  have hinfos : resolverOf (unicode.lower name) (unicode.lower name) = some ["8.8.8.8".toList] := by
    rw [resolverOf, if_pos rfl]
  have hcanonical : canonicalAsciiHost unicode rawHost (unicode.lower name) =
      .ok (unicode.lower name) := by
    rw [canonicalAsciiHost_ascii hlower (isAscii_lower hascii), laws.lower_lower]
  have hsink : rejectPrivateUrl unicode rawHost (resolverOf (unicode.lower name))
      (web "https".toList netloc []) = .ok () := by
    rw [checked_of_rejectPrivateUrl requested.valid (by rwa [hname]), hname]
    exact ⟨_, _, hcanonical, hlower, hinfos, publicHost_resolverOf _⟩
  exact ⟨resolverOf (unicode.lower name), madeUpTenant unicode identity,
    resolvesLiterals_resolverOf hnone, accepted_of_requested live requested hsink, hlost⟩

/-- A host without the blanks it ends in is another one. -/
theorem unsound_of_endsInBlank (laws : LowerLaws unicode) (idna : IdnaLaws rawHost)
    {config : AppConfig} {baseUrl : Option String} {netloc : List Char} {identity : TenantIdentity}
    (live : config.resourceSpace.mode ≠ "fixture")
    (requested : Requested unicode rawHost config baseUrl netloc identity)
    (hascii : isAscii ((authority "https".toList netloc []).hostname unicode) = true)
    (hblank : EndsInBlank netloc)
    (hblocked : ∀ ip, Ip.address identity.host = some ip → ipIsBlocked ip = true) :
    ∃ getaddrinfo tenant, ResolvesLiterals getaddrinfo ∧
      getConfiguredTenant unicode rawHost getaddrinfo config baseUrl = .ok tenant ∧
      ¬SoundTenant unicode rawHost getaddrinfo config baseUrl tenant := by
  obtain ⟨host, hcanonical, hne, hidentity, text, hvalid', hat', hport⟩ :=
    hosts_of_requested laws idna requested
  obtain ⟨w, hw, hspace, hname⟩ :=
    hostname_of_endsInBlank "https".toList laws requested.anonymous hblank
  have hnil : (authority "https".toList (netloc.rdropWhile isSpace) []).hostname unicode ≠ [] := by
    intro hnil
    rw [hnil] at hcanonical
    exact hne (Except.ok.inj hcanonical).symm
  have hlower := lower_append_blanks laws
    ((authority "https".toList (netloc.rdropWhile isSpace) []).hostname unicode) hspace
  have hcolon : ':' ∉ unicode.lower ((authority "https".toList netloc []).hostname unicode) := by
    rw [lower_eq_lowered hascii, Ip.mem_lowered_iff (by decide)]
    intro hmem
    have hinfo := mem_of_mem_hostname laws hmem (by decide) (by decide)
    rw [hostinfo_plain requested.anonymous hblank.1] at hinfo
    exact hblank.2.1 ((List.takeWhile_sublist _).subset hinfo)
  obtain ⟨c, hc⟩ := List.exists_mem_of_ne_nil w hw
  -- The blanks belong to the name that the check resolves, which is no address then.
  have hmem : c ∈ unicode.lower ((authority "https".toList netloc []).hostname unicode) := by
    rw [hname, hlower]
    exact List.mem_append_right _ hc
  have hnone := address_eq_none_of_blank hcolon hmem (hspace c hc)
  have hascii' : isAscii
      ((authority "https".toList (netloc.rdropWhile isSpace) []).hostname unicode) = true := by
    rw [hname, isAscii_append] at hascii
    exact hascii.1
  rw [canonicalAsciiHost_ascii hnil hascii'] at hcanonical
  obtain rfl := Except.ok.inj hcanonical
  have hplace : KeepsItsPlace identity.host := by
    rw [hidentity]
    refine keepsItsPlace_identity (r := authority "https".toList (netloc.rdropWhile isSpace) [])
      laws idna hvalid' hat' hne (canonicalAsciiHost_ascii hnil hascii') fun _ hfuture => ?_
    obtain ⟨_, _, hsplit, -, -⟩ := isFuture_of_rdropWhile hfuture
    exact hblank.1 (by rw [hsplit]; exact List.mem_append_left _ List.mem_cons_self)
  -- The tenant gets the name without them, which the check never resolved.
  have hother : identity.host ≠
      unicode.lower ((authority "https".toList netloc []).hostname unicode) := by
    intro hsame
    rw [← hsame, hidentity] at hnone
    cases hip : Ip.address (unicode.lower
        ((authority "https".toList (netloc.rdropWhile isSpace) []).hostname unicode)) with
    | some ip =>
      rw [compressHost, hip] at hnone
      have hread := Ip.address_compressed (Ip.valid_of_address hip)
      exact Option.some_ne_none _ (hread.symm.trans hnone)
    | none =>
      rw [hidentity, compressHost_of_none hip, hname, hlower] at hsame
      exact hw (List.self_eq_append_right.1 hsame)
  -- A resolver that gives private addresses for that name alone.
  refine unsound_of_host laws live requested rfl ?_ hascii hnone fun sound => ?_
  · rw [hname]
    exact List.append_ne_nil_of_left_ne_nil hnil w
  · refine not_publicHost_resolverOf hother hblocked (sound.base _ ?_)
    change urlHost unicode rawHost (httpsOrigin identity.host identity.port) = some identity.host
    rw [httpsOrigin_eq]
    exact urlHost_web text hplace ⟨.inl rfl, by simp⟩

/-- The name of a host that starts with a `v` does so too. -/
theorem head_hostname_of_v (laws : LowerLaws unicode) {r : ParseResult} {rest : List Char}
    (h : r.hostinfo.1 = 'v' :: rest) : (r.hostname unicode).head? = some 'v' := by
  rcases hostname_cases unicode r with ⟨hname, -⟩ | ⟨pre, zone, hpre, -, hname⟩
  · rw [hname, h]
    exact laws.head_lower _ _ (by decide)
  · rw [h] at hpre
    cases pre with
    | nil => cases hpre
    | cons c pre =>
      rw [hname, ← (List.cons.inj hpre).1, List.head?_append, laws.head_lower _ _ (by decide)]
      rfl

/-- What is no letter is kept in the name of a host. -/
theorem mem_hostname (laws : LowerLaws unicode) {r : ParseResult} {c : Char} (h : c ∈ r.hostinfo.1)
    (hlt : c.toNat < 128) (hletter : isLetter c = false) : c ∈ r.hostname unicode := by
  rcases hostname_cases unicode r with ⟨hname, -⟩ | ⟨pre, zone, hpre, -, hname⟩
  · rw [hname]
    exact laws.lower_mem _ c h hlt hletter
  · rw [hpre, List.mem_append] at h
    rw [hname, List.mem_append]
    exact h.imp (fun hc => laws.lower_mem pre c hc hlt hletter) id

section NoLiteral

variable {host : List Char} {port : ℕ} (text : IsHostText host) (hnone : Ip.address host = none)

include hnone

theorem authorityText_of_none : authorityText host port =
    host ++ if port = 443 then [] else ':' :: Nat.toDigits 10 port := by
  rw [authorityText, hnone]

include text

theorem close_notMem_authorityText : ']' ∉ authorityText host port := by
  rw [authorityText_of_none hnone, List.mem_append, not_or]
  refine ⟨fun h => (isHostChar_iff.1 (text.chars _ h)).2.2 (by decide), fun h => ?_⟩
  rcases mem_portText h with hc | hc <;> cases hc

/-- A bracket that is never closed makes what is rebuilt no URL. -/
theorem urlparse_of_open (hopen : '[' ∈ host) :
    urlparse unicode (web "https".toList (authorityText host port) []) = none := by
  have hopen' : '[' ∈ authorityText host port := by
    rw [authorityText_of_none hnone]
    exact List.mem_append_left _ hopen
  rw [web, List.append_nil]
  cases hparsed : urlparse unicode
      (String.ofList ("https".toList ++ "://".toList ++ authorityText host port)) with
  | none => rfl
  | some parsed =>
    have hsame := netloc_eq_of_urlparse (.inr rfl) (isNetlocChar_authorityText text) hparsed
    obtain ⟨-, hvalid⟩ := netloc_of_urlparse (.inr rfl) hparsed (by
      rw [hsame]
      exact List.ne_nil_of_mem hopen')
    rw [hsame] at hvalid
    rcases brackets_cases hvalid.brackets (at_notMem_authorityText text) with
      ⟨hfree, -⟩ | ⟨_, _, hsplit, -⟩
    · exact absurd hopen' hfree
    · refine absurd ?_ (@close_notMem_authorityText _ port text hnone)
      rw [hsplit]
      exact List.mem_append_right _ List.mem_cons_self

/-- The host of what is rebuilt ends before its first colon. -/
theorem urlHost_of_colon {before after : List Char} (hopen : '[' ∉ host)
    (hparts : host = before ++ ':' :: after) (hfree : ':' ∉ before) (hne : before ≠ []) :
    urlHost unicode rawHost (web "https".toList (authorityText host port) []) = some before := by
  have hchars : ∀ c ∈ before, isHostChar c = true := fun c hc =>
    text.chars c (by rw [hparts]; exact List.mem_append_left _ hc)
  have hopen' : '[' ∉ authorityText host port := by
    rw [authorityText_of_none hnone, List.mem_append, not_or]
    refine ⟨hopen, fun h => ?_⟩
    rcases mem_portText h with hc | hc <;> cases hc
  have hvalid : IsNetloc unicode (authorityText host port) := by
    refine ⟨?_, isNetlocChar_authorityText text,
      bracketsValid_of_notMem hopen' (close_notMem_authorityText text hnone), ?_⟩
    · rw [authorityText_of_none hnone]
      exact List.append_ne_nil_of_left_ne_nil text.ne_nil _
    · rw [checkNetloc, isAscii_authorityText text, Bool.or_true, Bool.true_or]
  have hinfo : (authority "https".toList (authorityText host port) []).hostinfo.1 = before := by
    rw [hostinfo_plain (at_notMem_authorityText text) hopen']
    change (partition ':' (authorityText host port)).1 = before
    rw [authorityText_of_none hnone, hparts, List.append_assoc, List.cons_append,
      partition_append hfree]
  have hname : (authority "https".toList (authorityText host port) []).hostname unicode = before := by
    rw [hostname_eq (by rw [hinfo]; exact hchars), hinfo]
  have hparsed : urlparse unicode (web "https".toList (authorityText host port) []) =
      some (authority "https".toList (authorityText host port) []) :=
    urlparse_web (.inr rfl) hvalid ⟨.inl rfl, by simp⟩
  have hascii : isAscii before = true :=
    isAscii_iff.2 fun c hc => (isHostChar_iff.1 (hchars c hc)).1
  rw [urlHost, hparsed]
  dsimp only
  rw [hname, lower_eq_self hchars, if_neg (by rwa [List.isEmpty_iff]),
    canonicalAsciiHost_ascii hne hascii, lower_eq_self hchars]
  rfl

end NoLiteral

/-- A future address without its brackets is no host, or another one. -/
theorem unsound_of_isFuture (laws : LowerLaws unicode) (idna : IdnaLaws rawHost)
    {config : AppConfig} {baseUrl : Option String} {netloc : List Char} {identity : TenantIdentity}
    (live : config.resourceSpace.mode ≠ "fixture")
    (requested : Requested unicode rawHost config baseUrl netloc identity)
    (hascii : isAscii ((authority "https".toList netloc []).hostname unicode) = true)
    (hfuture : IsFuture netloc) :
    ∃ getaddrinfo tenant, ResolvesLiterals getaddrinfo ∧
      getConfiguredTenant unicode rawHost getaddrinfo config baseUrl = .ok tenant ∧
      ¬SoundTenant unicode rawHost getaddrinfo config baseUrl tenant := by
  obtain ⟨host, hcanonical, hne, hidentity, text, -, -, -⟩ := hosts_of_requested laws idna requested
  obtain ⟨rest, port, hsplit, hclose, hmem⟩ := hfuture
  have hblank : ¬EndsInBlank netloc :=
    fun hblank => hblank.1 (by rw [hsplit]; exact List.mem_append_left _ List.mem_cons_self)
  rw [hostname_rdropWhile _ requested.valid requested.anonymous hblank] at hcanonical
  have hinfo : (authority "https".toList netloc []).hostinfo.1 = 'v' :: rest := by
    have hclose' : ']' ∉ 'v' :: rest := by
      rw [List.mem_cons, not_or]
      exact ⟨by decide, hclose⟩
    rw [hostinfo_bracketed requested.anonymous hsplit hclose']
  have hhead : ((authority "https".toList netloc []).hostname unicode).head? = some 'v' :=
    head_hostname_of_v laws hinfo
  have hnil : (authority "https".toList netloc []).hostname unicode ≠ [] := by
    intro hnil
    rw [hnil] at hhead
    cases hhead
  have hhead' : (unicode.lower ((authority "https".toList netloc []).hostname unicode)).head? =
      some 'v' := by
    obtain ⟨tail, htail⟩ := List.head?_eq_some_iff.1 hhead
    rw [htail]
    exact laws.head_lower _ _ (by decide)
  have hnone := address_eq_none_of_v hhead'
  rw [canonicalAsciiHost_ascii hnil hascii] at hcanonical
  obtain rfl := Except.ok.inj hcanonical
  rw [compressHost_of_none hnone] at hidentity
  -- The colon or the bracket of the address is in the host of the identity too.
  have hkept : ':' ∈ identity.host ∨ '[' ∈ identity.host := by
    have hlower : ∀ c ∈ rest, c.toNat < 128 → isLetter c = false → c ∈ identity.host := by
      intro c hc hlt hletter
      rw [hidentity]
      refine laws.lower_mem _ c (mem_hostname laws ?_ hlt hletter) hlt hletter
      rw [hinfo]
      exact List.mem_cons_of_mem _ hc
    exact hmem.imp (fun hc => hlower _ hc (by decide) (by decide))
      (fun hc => hlower _ hc (by decide) (by decide))
  have hbase : (madeUpTenant unicode identity).baseUrl =
      web "https".toList (authorityText identity.host identity.port) [] := httpsOrigin_eq _ _
  refine unsound_of_host laws live requested rfl hnil hascii hnone fun sound => ?_
  rw [← hidentity] at hnone hhead'
  by_cases hopen : '[' ∈ identity.host
  · -- What is rebuilt is no URL.
    obtain ⟨_, _, _, ⟨parsed, hparsed, -⟩, -⟩ := sound.origin (isDynamic_of_requested requested)
    rw [hbase, urlparse_of_open text hnone hopen] at hparsed
    cases hparsed
  · -- What is before the colon is another host.
    obtain ⟨before, after, hparts, hfree⟩ := List.eq_append_cons_of_mem (hkept.resolve_right hopen)
    have hbefore : before.head? = some 'v' := by
      cases before with
      | nil =>
        rw [hparts] at hhead'
        cases hhead'
      | cons c before =>
        rw [hparts] at hhead'
        exact hhead'
    have hne' : before ≠ [] := by
      rintro rfl
      cases hbefore
    have hhost : urlHost unicode rawHost (madeUpTenant unicode identity).baseUrl = some before :=
      hbase ▸ urlHost_of_colon text hnone hopen hparts hfree hne'
    refine not_publicHost_resolverOf ?_ ?_ (sound.base _ hhost)
    · rw [← hidentity]
      intro hsame
      have hlength := congrArg List.length (hsame.trans hparts)
      rw [List.length_append, List.length_cons] at hlength
      omega
    · intro ip hip
      rw [address_eq_none_of_v hbefore] at hip
      cases hip

/-- The tenants of a URL are sound, whatever hosts resolve to, exactly when the
    URL is not accepted with a host that is lost. -/
theorem sinks_sound_iff (config : AppConfig) (baseUrl : Option String)
    (live : config.resourceSpace.mode ≠ "fixture") (laws : LowerLaws unicode)
    (idna : IdnaLaws rawHost) :
    (∀ getaddrinfo, ResolvesLiterals getaddrinfo → ∀ tenant,
      getConfiguredTenant unicode rawHost getaddrinfo config baseUrl = .ok tenant →
      SoundTenant unicode rawHost getaddrinfo config baseUrl tenant) ↔
    ¬LosesHost unicode rawHost config baseUrl := by
  constructor
  · rintro sound ⟨netloc, identity, requested, hascii, hlost⟩
    obtain ⟨getaddrinfo, tenant, literals, accepted, unsound⟩ : ∃ getaddrinfo tenant,
        ResolvesLiterals getaddrinfo ∧
        getConfiguredTenant unicode rawHost getaddrinfo config baseUrl = .ok tenant ∧
        ¬SoundTenant unicode rawHost getaddrinfo config baseUrl tenant := by
      rcases hlost with ⟨hblank, hblocked⟩ | hfuture
      · exact unsound_of_endsInBlank laws idna live requested hascii hblank hblocked
      · exact unsound_of_isFuture laws idna live requested hascii hfuture
    exact unsound (sound getaddrinfo literals tenant accepted)
  · intro keeps getaddrinfo literals tenant accepted
    exact sound_of_not_losesHost laws idna live keeps literals accepted

namespace Sample

theorem lowerLaws_ascii : LowerLaws .ascii where
  lower_lower := lowered_lowered
  lower_blank := by
    intro s c hc
    have hsame : c.toLower = c := by
      have hupper : ∀ n < 26, isSpace (Char.ofNat (0x41 + n)) = false := by decide
      rcases Ip.toLower_cases c with h | ⟨n, hn, rfl⟩
      · exact h
      · rw [hupper n hn] at hc
        cases hc
    change (s ++ [c]).map Char.toLower = s.map Char.toLower ++ [c]
    rw [List.map_append, List.map_singleton, hsame]
  mem_lower := by
    intro s c hc _
    by_cases hletter : isLetter c = true
    · exact .inl hletter
    · exact .inr ((Ip.mem_lowered_iff (Bool.not_eq_true _ ▸ hletter)).1 hc)
  lower_mem := fun s c hc _ hletter => (Ip.mem_lowered_iff hletter).2 hc
  head_lower := fun _ _ _ => rfl

theorem idnaLaws_none : IdnaLaws fun _ => none where
  chars := fun _ _ h => nomatch h
  plain := fun _ _ h => nomatch h

/-- The authority that a URL is normalized to. -/
theorem netloc_unique {config : AppConfig} {baseUrl : Option String} {netloc : List Char}
    {identity : TenantIdentity}
    (requested : Requested .ascii (fun _ => none) config baseUrl netloc identity) {netloc' : List Char}
    (h : normalizeBaseUrl .ascii (baseUrl.getD "") = .ok (some (web "https".toList netloc' []))) :
    netloc = netloc' := by
  have hsame := Option.some.inj (Except.ok.inj (requested.normalized.symm.trans h))
  rw [web, web, List.append_nil, List.append_nil] at hsame
  exact List.append_cancel_left (String.ofList_injective hsame)

end Sample

/-- A host without a blank is not lost. -/
theorem sinks_sound_iff_plain :
    SoundTenant .ascii (fun _ => none) (resolverOf "h.example".toList) Sample.config
      (some "https://h.example/x") (Sample.madeUp "h-example" "h.example") := by
  refine (sinks_sound_iff Sample.config (some "https://h.example/x") (by decide)
    Sample.lowerLaws_ascii Sample.idnaLaws_none).2 ?_ _
      (resolvesLiterals_resolverOf (by decide +kernel)) _ (by decide +kernel)
  rintro ⟨netloc, identity, requested, -, hlost⟩
  have hnetloc : netloc = "h.example".toList := Sample.netloc_unique requested (by decide +kernel)
  rw [hnetloc] at hlost
  rcases hlost with ⟨⟨-, -, c, hlast, hspace⟩, -⟩ | ⟨_, _, hsplit, -⟩
  · cases hlast
    cases hspace
  · cases hsplit

/-- The URL `https://vpn.example /` is checked with the blank, and its tenant
    leads to the host without it. -/
theorem sinks_unsound :
    ∃ tenant, ResolvesLiterals (resolverOf "vpn.example ".toList) ∧
      getConfiguredTenant .ascii (fun _ => none) (resolverOf "vpn.example ".toList) Sample.config
        (some "https://vpn.example /") = .ok tenant ∧
      tenant.baseUrl = "https://vpn.example" ∧
      ¬SoundTenant .ascii (fun _ => none) (resolverOf "vpn.example ".toList) Sample.config
        (some "https://vpn.example /") tenant := by
  have haccepted : getConfiguredTenant .ascii (fun _ => none) (resolverOf "vpn.example ".toList)
      Sample.config (some "https://vpn.example /") =
      .ok (Sample.madeUp "vpn-example" "vpn.example") := by
    decide +kernel
  have hhost : urlHost .ascii (fun _ => none) "https://vpn.example" = some "vpn.example".toList := by
    decide +kernel
  have hnone : Ip.address "vpn.example".toList = none := by decide +kernel
  refine ⟨_, resolvesLiterals_resolverOf (by decide +kernel), haccepted, rfl, fun sound => ?_⟩
  refine not_publicHost_resolverOf (by decide) (fun ip hip => ?_) (sound.base _ hhost)
  rw [hnone] at hip
  cases hip

end Broker
