import Broker.Authorise
import Broker.Sinks

/-!
# Refused tenant URLs

A tenant URL that leads to no tenant is refused with an error of its own, shown on the
sign-in page with a status of 4xx (`IsRefusal`), or it does not parse, and its
`ValueError` is raised. The second happens in the resolution of the tenant when the URL,
or one of the registry that is read for it, does not parse, and in the hosted sign-in
also when the URL does not parse as it is, or the origin of a tenant made up for it does
not (`tenant_refused_iff`).
-/

namespace Broker

open Py Url

variable {unicode : Unicode} {rawHost : List Char → Option (List Char)}
  {getaddrinfo : List Char → Option (List (List Char))}

/-! ## Refusals -/

/-- A page for the client, with a status of 4xx. -/
def IsClientPage (response : HttpResponse) : Prop :=
  ∃ status code message, response = .page status code message ∧ 400 ≤ status ∧ status < 500

/-- An error of ResourceSpace, shown on the sign-in page with a status of 4xx. -/
def IsRefusal (error : PyError) : Prop :=
  (∃ e, error = .resourceSpaceError e) ∧ IsClientPage (errorPage (mapError error))

/-- What fails, fails with a refusal. -/
def Refuses {α : Type} (x : Except PyError α) : Prop := ∀ error, x = .error error → IsRefusal error

/-- What fails, fails with a refusal or a `ValueError`. -/
def RefusesOrRaises {α : Type} (x : Except PyError α) : Prop :=
  ∀ error, x = .error error → IsRefusal error ∨ error = .valueError

theorem isRefusal_refusal {code message : String} {status : ℤ} (h : 400 ≤ status) (h' : status < 500) :
    IsRefusal (refusal code message status) := by
  refine ⟨⟨_, rfl⟩, status, code, some message, ?_, h, h'⟩
  have hne : ¬status = 0 := by omega
  change HttpResponse.page (if status = 0 then 400 else status) code (some message) = _
  rw [if_neg hne]

theorem not_isRefusal_valueError : ¬IsRefusal .valueError := fun h => by
  obtain ⟨⟨_, h⟩, -⟩ := h
  cases h

namespace RefusesOrRaises

variable {α β : Type} {x : Except PyError α}

theorem ok (a : α) : RefusesOrRaises (.ok a : Except PyError α) := fun _ h => nomatch h

theorem valueError : RefusesOrRaises (.error .valueError : Except PyError α) := fun _ h =>
  .inr (Except.error.inj h).symm

theorem refused {code message : String} {status : ℤ} (h : 400 ≤ status) (h' : status < 500) :
    RefusesOrRaises (.error (refusal code message status) : Except PyError α) := fun _ herror =>
  .inl (Except.error.inj herror ▸ isRefusal_refusal h h')

theorem bind (hx : RefusesOrRaises x) {f : α → Except PyError β} (hf : ∀ a, RefusesOrRaises (f a)) :
    RefusesOrRaises (x >>= f) := fun error h => by
  cases x with
  | error e =>
    cases h
    exact hx error rfl
  | ok a => exact hf a error h

/-- Only a `ValueError` is no refusal. -/
theorem refuses_iff (h : RefusesOrRaises x) : Refuses x ↔ x ≠ .error .valueError := by
  constructor
  · exact fun hrefuses hraised => not_isRefusal_valueError (hrefuses _ hraised)
  · exact fun hne error herror => (h error herror).resolve_right fun heq => hne (heq ▸ herror)

end RefusesOrRaises

/-! ## Normalized URLs -/

/-- The URL that `normalize_base_url` parses. -/
def candidateUrl (value : String) : List Char :=
  if startsWith (strip value.toList) "http://".toList ||
    startsWith (strip value.toList) "https://".toList then strip value.toList
  else "https://".toList ++ strip value.toList

/-- The URL parses, as it is normalized. -/
def Parses (unicode : Unicode) (url : String) : Prop := (urlparse unicode url).isSome = true

theorem normalizeBaseUrl_eq_error_iff {value : String} {e : PyError} :
    normalizeBaseUrl unicode value = .error e ↔
      e = .valueError ∧ ¬Parses unicode (String.ofList (candidateUrl value)) := by
  rw [normalizeBaseUrl]
  dsimp only
  by_cases hempty : strip value.toList = []
  · rw [Parses, candidateUrl, hempty]
    constructor
    · intro h
      cases h
    · exact fun h => absurd rfl h.2
  · rw [if_neg (by rwa [List.isEmpty_iff]), Parses, candidateUrl]
    cases urlparse unicode _ with
    | none => exact ⟨fun h => ⟨(Except.error.inj h).symm, Bool.false_ne_true⟩, fun h => h.1 ▸ rfl⟩
    | some parsed =>
      refine ⟨fun h => ?_, fun h => absurd rfl h.2⟩
      dsimp only at h
      split_ifs at h

/-- A normalized URL parses, and so does what is below it. -/
theorem parses_web {scheme netloc path : List Char} (hscheme : IsWeb scheme)
    (hnetloc : IsNetloc unicode netloc) (hpath : IsPlainPath path) :
    Parses unicode (web scheme netloc path) := by
  rw [Parses, urlparse_web hscheme hnetloc hpath]
  rfl

theorem parses_normalized {value normalized : String}
    (h : normalizeBaseUrl unicode value = .ok (some normalized)) : Parses unicode normalized := by
  obtain ⟨scheme, netloc, hscheme, hnetloc, rfl⟩ := normalizeBaseUrl_cases h
  exact parses_web hscheme hnetloc ⟨.inl rfl, by simp⟩

/-! ## Identities -/

theorem tenantIdentity_eq_error_iff {url : String} {e : PyError} :
    tenantIdentity unicode rawHost url = .error e ↔
      e = .valueError ∧ ¬Parses unicode (String.ofList (candidateUrl url)) := by
  rw [← normalizeBaseUrl_eq_error_iff, tenantIdentity, bind_eq_error]
  refine ⟨fun h => h.resolve_right ?_, .inl⟩
  rintro ⟨normalized, hnormalized, hraised⟩
  cases normalized with
  | none => cases hraised
  | some normalized =>
    obtain ⟨parsed, hparsed⟩ := Option.isSome_iff_exists.1 (parses_normalized hnormalized)
    dsimp only at hraised
    rw [hparsed] at hraised
    dsimp only at hraised
    split at hraised
    · cases hraised
    · cases hraised
    · split at hraised <;> cases hraised

/-- A URL that parses has an identity, or none. -/
theorem exists_tenantIdentity {url : String} (h : Parses unicode (String.ofList (candidateUrl url))) :
    ∃ found, tenantIdentity unicode rawHost url = .ok found := by
  cases hfound : tenantIdentity unicode rawHost url with
  | error e => exact absurd h (tenantIdentity_eq_error_iff.1 hfound).2
  | ok found => exact ⟨found, rfl⟩

/-- A URL that has an identity is normalized. -/
theorem normalized_of_identity {url : String} {identity : TenantIdentity}
    (h : tenantIdentity unicode rawHost url = .ok (some identity)) :
    ∃ normalized, normalizeBaseUrl unicode url = .ok (some normalized) := by
  obtain ⟨normalized, hnormalized, h⟩ := exists_ok_of_bind h
  cases normalized with
  | none => cases h
  | some normalized => exact ⟨normalized, hnormalized⟩

/-! ## The registry -/

/-- No record is of the identity. -/
def Unmatched (unicode : Unicode) (rawHost : List Char → Option (List Char))
    (identity : TenantIdentity) (records : List Tenant) : Prop :=
  ∀ record ∈ records, tenantIdentity unicode rawHost record.baseUrl ≠ .ok (some identity)

theorem registeredTenant_none (records : List Tenant) :
    registeredTenant unicode rawHost none records = .ok none := by
  induction records with
  | nil => rfl
  | cons record records ih => exact ih

theorem registeredTenant_cons (identity : TenantIdentity) (record : Tenant) (records : List Tenant) :
    registeredTenant unicode rawHost (some identity) (record :: records) =
      (tenantIdentity unicode rawHost record.baseUrl >>= fun found =>
        if found = some identity then .ok (some record)
        else registeredTenant unicode rawHost (some identity) records) := rfl

/-- The registry raises nothing but a `ValueError`. -/
theorem registeredTenant_raises {requested : Option TenantIdentity} {records : List Tenant} {e : PyError}
    (h : registeredTenant unicode rawHost requested records = .error e) : e = .valueError := by
  cases requested with
  | none =>
    rw [registeredTenant_none] at h
    cases h
  | some identity =>
    induction records with
    | nil => cases h
    | cons record records ih =>
      rw [registeredTenant_cons, bind_eq_error] at h
      rcases h with hraised | ⟨found, -, h⟩
      · exact (tenantIdentity_eq_error_iff.1 hraised).1
      · split_ifs at h
        exact ih h

theorem refusesOrRaises_registeredTenant (requested : Option TenantIdentity) (records : List Tenant) :
    RefusesOrRaises (registeredTenant unicode rawHost requested records) := fun _ h =>
  .inr (registeredTenant_raises h)

/-- The registry is read up to the record of the identity, which raises where a record
    on the way has a URL that does not parse. -/
theorem registeredTenant_raises_iff (identity : TenantIdentity) (records : List Tenant) :
    registeredTenant unicode rawHost (some identity) records = .error .valueError ↔
      ∃ pre record post, records = pre ++ record :: post ∧ Unmatched unicode rawHost identity pre ∧
        ¬Parses unicode (String.ofList (candidateUrl record.baseUrl)) := by
  induction records with
  | nil =>
    constructor
    · exact fun h => nomatch h
    · rintro ⟨pre, record, post, h, -⟩
      exact absurd h.symm (List.append_ne_nil_of_right_ne_nil _ (List.cons_ne_nil _ _))
  | cons record records ih =>
    rw [registeredTenant_cons, bind_eq_error, tenantIdentity_eq_error_iff]
    constructor
    · rintro (⟨-, hraised⟩ | ⟨found, hfound, hraised⟩)
      · exact ⟨[], record, records, rfl, fun _ h => absurd h List.not_mem_nil, hraised⟩
      -- The search passed over the first record and raised later on.
      · split_ifs at hraised with hmatch
        obtain ⟨pre, next, post, rfl, hpre, hnext⟩ := ih.1 hraised
        refine ⟨record :: pre, next, post, rfl, fun r hr => ?_, hnext⟩
        rcases List.mem_cons.1 hr with rfl | hr
        · rw [hfound]
          exact fun h => hmatch (Except.ok.inj h)
        · exact hpre r hr
    · rintro ⟨pre, next, post, hsplit, hpre, hnext⟩
      cases pre with
      | nil =>
        obtain ⟨rfl, -⟩ := List.cons.inj hsplit
        exact .inl ⟨rfl, hnext⟩
      | cons first pre =>
        obtain ⟨rfl, rfl⟩ := List.cons.inj hsplit
        by_cases hparses : Parses unicode (String.ofList (candidateUrl record.baseUrl))
        · obtain ⟨found, hfound⟩ := exists_tenantIdentity hparses
          refine .inr ⟨found, hfound, ?_⟩
          rw [if_neg fun h => hpre record List.mem_cons_self (by rw [hfound, h])]
          exact ih.2 ⟨pre, next, post, rfl, fun r hr => hpre r (List.mem_cons_of_mem _ hr), hnext⟩
        · exact .inl ⟨rfl, hparses⟩

/-- The record that is found is the first of the identity. -/
theorem registeredTenant_eq_some_iff (identity : TenantIdentity) (records : List Tenant)
    (record : Tenant) :
    registeredTenant unicode rawHost (some identity) records = .ok (some record) ↔
      ∃ pre post, records = pre ++ record :: post ∧ Unmatched unicode rawHost identity pre ∧
        (∀ r ∈ pre, Parses unicode (String.ofList (candidateUrl r.baseUrl))) ∧
        tenantIdentity unicode rawHost record.baseUrl = .ok (some identity) := by
  induction records with
  | nil =>
    constructor
    · exact fun h => nomatch h
    · rintro ⟨pre, post, h, -⟩
      exact absurd h.symm (List.append_ne_nil_of_right_ne_nil _ (List.cons_ne_nil _ _))
  | cons first records ih =>
    rw [registeredTenant_cons]
    constructor
    · intro h
      obtain ⟨found, hfound, h⟩ := exists_ok_of_bind h
      split_ifs at h with hmatch
      · cases h
        exact ⟨[], records, rfl, fun _ h => absurd h List.not_mem_nil,
          fun _ h => absurd h List.not_mem_nil, hmatch ▸ hfound⟩
      -- The first record does not match, so it goes before the one found.
      · obtain ⟨pre, post, rfl, hpre, hparses, hrecord⟩ := ih.1 h
        refine ⟨first :: pre, post, rfl, fun r hr => ?_, fun r hr => ?_, hrecord⟩
        · rcases List.mem_cons.1 hr with rfl | hr
          · rw [hfound]
            exact fun h => hmatch (Except.ok.inj h)
          · exact hpre r hr
        · rcases List.mem_cons.1 hr with rfl | hr
          · by_contra hraised
            rw [(@tenantIdentity_eq_error_iff _ rawHost _ _).2 ⟨rfl, hraised⟩] at hfound
            cases hfound
          · exact hparses r hr
    · rintro ⟨pre, post, hsplit, hpre, hparses, hrecord⟩
      cases pre with
      | nil =>
        obtain ⟨rfl, -⟩ := List.cons.inj hsplit
        rw [hrecord]
        exact if_pos rfl
      | cons r pre =>
        obtain ⟨rfl, rfl⟩ := List.cons.inj hsplit
        obtain ⟨found, hfound⟩ :=
          exists_tenantIdentity (hparses first List.mem_cons_self)
        rw [hfound]
        refine (if_neg fun h => hpre first List.mem_cons_self (by rw [hfound, h])).trans ?_
        exact ih.2 ⟨pre, post, rfl, fun r hr => hpre r (List.mem_cons_of_mem _ hr),
          fun r hr => hparses r (List.mem_cons_of_mem _ hr), hrecord⟩

/-- Nothing is found when no record is of the identity, and all their URLs parse. -/
theorem registeredTenant_eq_none_iff (identity : TenantIdentity) (records : List Tenant) :
    registeredTenant unicode rawHost (some identity) records = .ok none ↔
      Unmatched unicode rawHost identity records ∧
        ∀ record ∈ records, Parses unicode (String.ofList (candidateUrl record.baseUrl)) := by
  induction records with
  | nil => exact iff_of_true rfl ⟨fun _ h => absurd h List.not_mem_nil, fun _ h => absurd h List.not_mem_nil⟩
  | cons record records ih =>
    rw [registeredTenant_cons, Unmatched, List.forall_mem_cons, List.forall_mem_cons]
    cases hfound : tenantIdentity unicode rawHost record.baseUrl with
    | error e =>
      refine iff_of_false (fun h => ?_) fun h => (tenantIdentity_eq_error_iff.1 hfound).2 h.2.1
      cases h
    | ok found =>
      have hparses : Parses unicode (String.ofList (candidateUrl record.baseUrl)) := by
        by_contra hfails
        rw [(@tenantIdentity_eq_error_iff _ rawHost _ _).2 ⟨rfl, hfails⟩] at hfound
        cases hfound
      change (if found = some identity then _ else _) = _ ↔ _
      split_ifs with hmatch
      · refine iff_of_false (fun h => ?_) fun h => h.1.1 (congrArg _ hmatch)
        cases h
      · rw [ih]
        constructor
        · exact fun h => ⟨⟨fun heq => hmatch (Except.ok.inj heq), h.1⟩, hparses, h.2⟩
        · exact fun h => ⟨h.1.2, h.2.2⟩

/-! ## Sinks -/

/-- A URL that parses is let through or refused. -/
theorem refuses_rejectPrivateUrl {url : String} (h : Parses unicode url) :
    Refuses (rejectPrivateUrl unicode rawHost getaddrinfo url) := by
  obtain ⟨parsed, hparsed⟩ := Option.isSome_iff_exists.1 h
  have hok : Refuses (.ok () : Except PyError Unit) := fun _ h => nomatch h
  have hunresolved : Refuses (.error unresolved : Except PyError Unit) := fun _ h =>
    Except.error.inj h ▸ isRefusal_refusal (by decide) (by decide)
  rw [rejectPrivateUrl, hparsed]
  dsimp only
  split
  · exact hok
  split
  · exact hok
  split
  · exact hunresolved
  split
  · exact hunresolved
  split
  · exact fun _ h => Except.error.inj h ▸ isRefusal_refusal (by decide) (by decide)
  · exact hok

theorem rejectPrivateUrl_raises_iff (url : String) :
    rejectPrivateUrl unicode rawHost getaddrinfo url = .error .valueError ↔ ¬Parses unicode url := by
  constructor
  · exact fun hraised hparses => not_isRefusal_valueError (refuses_rejectPrivateUrl hparses _ hraised)
  · intro hfails
    have hne : url ≠ "" := by
      rintro rfl
      exact hfails rfl
    rw [Parses, Bool.not_eq_true, Option.isSome_eq_false_iff, Option.isNone_iff_eq_none] at hfails
    rw [rejectPrivateUrl, if_neg hne, hfails]

theorem refusesOrRaises_rejectPrivateUrl (url : String) :
    RefusesOrRaises (rejectPrivateUrl unicode rawHost getaddrinfo url) := by
  intro error h
  by_cases hparses : Parses unicode url
  · exact .inl (refuses_rejectPrivateUrl hparses error h)
  · rw [(rejectPrivateUrl_raises_iff url).2 hparses] at h
    exact .inr (Except.error.inj h).symm

theorem refusesOrRaises_rejectPrivateTenantSink (config : AppConfig) (urls : List String)
    (skipFixture : Bool) :
    RefusesOrRaises (rejectPrivateTenantSink unicode rawHost getaddrinfo config urls skipFixture) := by
  rw [rejectPrivateTenantSink]
  split_ifs
  · exact .ok _
  · induction urls with
    | nil => exact .ok _
    | cons url urls ih => exact .bind (refusesOrRaises_rejectPrivateUrl url) fun _ => ih

/-- A sink raises when a URL that is checked does not parse. -/
theorem rejectPrivateTenantSink_raises_iff (config : AppConfig) (url : String) (urls : List String)
    (skipFixture : Bool) :
    rejectPrivateTenantSink unicode rawHost getaddrinfo config (url :: urls) skipFixture =
        .error .valueError ↔
      ¬(skipFixture && config.resourceSpace.mode = "fixture") = true ∧ (¬Parses unicode url ∨
        rejectPrivateUrl unicode rawHost getaddrinfo url = .ok () ∧
          rejectPrivateTenantSink unicode rawHost getaddrinfo config urls skipFixture =
            .error .valueError) := by
  rw [rejectPrivateTenantSink, rejectPrivateTenantSink]
  by_cases hskip : (skipFixture && config.resourceSpace.mode = "fixture") = true
  · rw [if_pos hskip]
    constructor
    · intro h
      cases h
    · exact fun h => absurd hskip h.1
  · rw [if_neg hskip, if_neg hskip, ← rejectPrivateUrl_raises_iff]
    change (rejectPrivateUrl unicode rawHost getaddrinfo url >>= fun _ =>
      urls.forM (rejectPrivateUrl unicode rawHost getaddrinfo)) = .error .valueError ↔ _
    rw [bind_eq_error]
    constructor
    · rintro (hraised | ⟨⟨⟩, hpassed, hraised⟩)
      · exact ⟨hskip, .inl hraised⟩
      · exact ⟨hskip, .inr ⟨hpassed, hraised⟩⟩
    · rintro ⟨-, hraised | ⟨hpassed, hraised⟩⟩
      · exact .inl hraised
      · exact .inr ⟨(), hpassed, hraised⟩

/-! ## Tenants -/

theorem candidateUrl_web {scheme netloc : List Char} (hscheme : IsWeb scheme) :
    candidateUrl (web scheme netloc []) = scheme ++ "://".toList ++ netloc.rdropWhile isSpace := by
  rw [candidateUrl, strip_web hscheme, if_pos (startsWith_web hscheme)]

/-- What is parsed is a URL of the web. -/
theorem candidateUrl_cases (value : String) :
    ∃ scheme rest, IsWeb scheme ∧ candidateUrl value = scheme ++ "://".toList ++ rest := by
  rw [candidateUrl]
  split_ifs with hstarts
  · exact isPrefix_web hstarts
  · exact ⟨"https".toList, strip value.toList, .inr rfl, rfl⟩

/-- What a URL that parses is normalized to. -/
theorem normalizeBaseUrl_of_parsed {value : String} {parsed : ParseResult}
    (h : urlparse unicode (String.ofList (candidateUrl value)) = some parsed) :
    IsWeb parsed.scheme ∧
      (parsed.netloc = [] ∧ normalizeBaseUrl unicode value = .ok none ∨
        IsNetloc unicode parsed.netloc ∧
          normalizeBaseUrl unicode value = .ok (some (web parsed.scheme parsed.netloc []))) := by
  obtain ⟨scheme, rest, hscheme, hcandidate⟩ := candidateUrl_cases value
  have hparsed := h
  rw [hcandidate] at hparsed
  have hsame : parsed.scheme = scheme := (parts_of_urlparse hscheme hparsed).1
  refine ⟨hsame ▸ hscheme, ?_⟩
  by_cases hempty : strip value.toList = []
  · have hnil : urlparse unicode (String.ofList (candidateUrl value)) =
        some ⟨"https".toList, [], [], [], [], []⟩ := by
      rw [candidateUrl, hempty]
      rfl
    obtain rfl := Option.some.inj (h.symm.trans hnil)
    refine .inl ⟨rfl, ?_⟩
    rw [normalizeBaseUrl, hempty]
    rfl
  · have hnormalize := @normalizeBaseUrl_eq unicode _ _ _ hscheme hempty hcandidate
    rw [normalizeWeb, hparsed] at hnormalize
    dsimp only at hnormalize
    by_cases hnetloc : parsed.netloc = []
    · rw [if_pos (List.isEmpty_iff.2 hnetloc)] at hnormalize
      exact .inl ⟨hnetloc, hnormalize⟩
    · rw [if_neg (by rwa [List.isEmpty_iff])] at hnormalize
      rw [hsame]
      exact .inr ⟨(netloc_of_urlparse hscheme hparsed hnetloc).2, hnormalize⟩

section Tenants

variable (unicode rawHost getaddrinfo)

/-- The URL of the API of a record parses, where it is checked. -/
def ApiParses (config : AppConfig) (record : Tenant) : Prop :=
  config.resourceSpace.mode = "fixture" ∨
    ∀ base, normalizeBaseUrl unicode record.baseUrl = .ok (some base) →
      rejectPrivateUrl unicode rawHost getaddrinfo base = .ok () →
      Parses unicode (normalizeApiUrl base record.apiUrl)

/-- The URLs of the registry parse, as far as they are read for the identity. -/
def RegistryParses (config : AppConfig) (identity : TenantIdentity) : Prop :=
  ∀ pre record post, config.resourceSpace.tenants = pre ++ record :: post →
    Unmatched unicode rawHost identity pre →
    Parses unicode (String.ofList (candidateUrl record.baseUrl)) ∧
      (tenantIdentity unicode rawHost record.baseUrl = .ok (some identity) →
        ApiParses unicode rawHost getaddrinfo config record)

/-- The URL parses as it is normalized, and again without the blanks that its authority
    ends in, and so do the URLs of the registry that are read for it. -/
structure ParsesThroughout (config : AppConfig) (value : String) : Prop where
  submitted : Parses unicode (String.ofList (candidateUrl value))
  normalized : ∀ parsed, urlparse unicode (String.ofList (candidateUrl value)) = some parsed →
    Parses unicode (web parsed.scheme (parsed.netloc.rdropWhile isSpace) [])
  registry : ∀ identity, requestedIdentity unicode rawHost (some value) = .ok (some identity) →
    RegistryParses unicode rawHost getaddrinfo config identity

/-- A URL of the identity is accepted, where no record is of it. -/
structure AcceptsIdentity (config : AppConfig) (normalized : String) (identity : TenantIdentity) :
    Prop where
  allowed : config.resourceSpace.allowedHosts ≠ [] → identity.host ≠ [] ∧
    config.resourceSpace.allowedHosts.any (hostMatchesPattern unicode rawHost identity.host) = true
  sink : rejectPrivateTenantSink unicode rawHost getaddrinfo config [normalized]
    (devLikeEnvironments.contains config.environment) = .ok ()
  scheme : identity.scheme = "https".toList
  port : identity.port ≠ 0
  credentials : ∀ parsed, urlparse unicode normalized = some parsed →
    parsed.username = none ∧ parsed.password = none

/-- The URL leads to a tenant that is made up for its identity. -/
structure LeadsTo (config : AppConfig) (value : String) (identity : TenantIdentity) : Prop where
  accepted : ∃ normalized, normalizeBaseUrl unicode value = .ok (some normalized) ∧
    tenantIdentity unicode rawHost normalized = .ok (some identity) ∧
    AcceptsIdentity unicode rawHost getaddrinfo config normalized identity
  unmatched : Unmatched unicode rawHost identity config.resourceSpace.tenants

/-- The URL parses as it is submitted to the hosted sign-in, and so does the origin of the
    tenant that is made up for it, if it is not refused as plain HTTP. -/
structure ParsesForSignIn (config : AppConfig) (value : String) : Prop where
  submitted : Parses unicode (String.ofList (strip value.toList))
  origin : ∀ parsed identity, urlparse unicode (String.ofList (strip value.toList)) = some parsed →
    unicode.lower parsed.scheme ≠ "http".toList →
    LeadsTo unicode rawHost getaddrinfo config value identity →
    startsWith (unicode.lower (httpsOrigin identity.host identity.port).toList) "https://".toList =
      true →
    Parses unicode (httpsOrigin identity.host identity.port)

end Tenants

/-- A record of the registry raises when the URL of its API does not parse. -/
theorem resolveRegistered_raises_iff {config : AppConfig} {record : Tenant} {base : String}
    (hbase : normalizeBaseUrl unicode record.baseUrl = .ok (some base)) :
    resolveRegistered unicode rawHost getaddrinfo config record = .error .valueError ↔
      ¬ApiParses unicode rawHost getaddrinfo config record := by
  have hparses : Parses unicode base := parses_normalized hbase
  rw [resolveRegistered, hbase]
  refine (bind_ok_eq_error (x := rejectPrivateTenantSink unicode rawHost getaddrinfo config
    [base, normalizeApiUrl base record.apiUrl] true)).trans ?_
  rw [rejectPrivateTenantSink_raises_iff, rejectPrivateTenantSink_raises_iff, ApiParses,
    Bool.true_and, decide_eq_true_eq, not_or]
  constructor
  · rintro ⟨hlive, hraised | ⟨hpassed, -, hapi | ⟨-, hraised⟩⟩⟩
    · exact absurd hparses hraised
    · refine ⟨hlive, fun h => hapi (h base hbase hpassed)⟩
    · rw [rejectPrivateTenantSink] at hraised
      split_ifs at hraised
      cases hraised
  · rintro ⟨hlive, hfails⟩
    simp only [not_forall] at hfails
    obtain ⟨base', hbase', hpassed, hapi⟩ := hfails
    obtain rfl := Option.some.inj (Except.ok.inj (hbase.symm.trans hbase'))
    exact ⟨hlive, .inr ⟨hpassed, hlive, .inl hapi⟩⟩

theorem refusesOrRaises_resolveRegistered (config : AppConfig) (record : Tenant) :
    RefusesOrRaises (resolveRegistered unicode rawHost getaddrinfo config record) :=
  .bind (fun _ h => .inr (normalizeBaseUrl_eq_error_iff.1 h).1) fun _ =>
    .bind (refusesOrRaises_rejectPrivateTenantSink _ _ _) fun _ => .ok _

/-- A URL that no record is of is let through or refused. -/
theorem refuses_dynamicTenant {config : AppConfig} {normalized : String}
    {requested : Option TenantIdentity} (h : Parses unicode normalized) :
    Refuses (dynamicTenant unicode rawHost getaddrinfo config normalized requested) := by
  obtain ⟨parsed, hparsed⟩ := Option.isSome_iff_exists.1 h
  have hrefused : ∀ {α : Type} {code message : String} {status : ℤ}, 400 ≤ status → status < 500 →
      Refuses (.error (refusal code message status) : Except PyError α) := fun h h' _ herror =>
    Except.error.inj herror ▸ isRefusal_refusal h h'
  rw [dynamicTenant, hparsed]
  dsimp only
  split_ifs
  · exact hrefused (by decide) (by decide)
  · intro error herror
    rcases bind_eq_error.1 herror with hsink | ⟨_, -, herror⟩
    · rcases refusesOrRaises_rejectPrivateTenantSink _ _ _ error hsink with hrefusal | rfl
      · exact hrefusal
      · obtain ⟨-, hfails | ⟨-, hnil⟩⟩ := (rejectPrivateTenantSink_raises_iff _ _ _ _).1 hsink
        · exact absurd h hfails
        · rw [rejectPrivateTenantSink] at hnil
          split_ifs at hnil
          cases hnil
    · cases requested with
      | none => exact hrefused (by decide) (by decide) error herror
      | some identity =>
        dsimp only at herror
        split_ifs at herror
        · exact hrefused (by decide) (by decide) error herror
        · cases herror

/-- A made-up tenant is that of the origin of its identity. -/
theorem baseUrl_of_dynamicTenant {config : AppConfig} {normalized : String}
    {requested : Option TenantIdentity} {tenant : Tenant}
    (h : dynamicTenant unicode rawHost getaddrinfo config normalized requested = .ok tenant) :
    ∃ identity, requested = some identity ∧
      AcceptsIdentity unicode rawHost getaddrinfo config normalized identity ∧
      tenant.baseUrl = httpsOrigin identity.host identity.port := by
  rw [dynamicTenant] at h
  cases hparsed : urlparse unicode normalized with
  | none =>
    rw [hparsed] at h
    cases h
  | some parsed =>
    rw [hparsed] at h
    dsimp only at h
    split_ifs at h with hallowed
    · cases h
    · obtain ⟨⟨⟩, hsink, h⟩ := exists_ok_of_bind h
      cases requested with
      | none => cases h
      | some identity =>
        dsimp only at h
        split_ifs at h with hrefused
        · cases h
        · cases h
          simp only [not_or, not_not, Bool.not_eq_true, Option.isSome_eq_false_iff,
            Option.isNone_iff_eq_none] at hrefused
          obtain ⟨hscheme, hport, husername, hpassword⟩ := hrefused
          refine ⟨identity, rfl, ⟨fun hne => ?_, hsink, hscheme, hport, fun parsed' hparsed' => ?_⟩, rfl⟩
          · simpa [hne] using hallowed
          · obtain rfl := Option.some.inj (hparsed.symm.trans hparsed')
            exact ⟨husername, hpassword⟩

/-- A URL that is accepted has a tenant made up for it. -/
theorem dynamicTenant_of_accepted {config : AppConfig} {normalized : String} {identity : TenantIdentity}
    (parses : Parses unicode normalized)
    (h : AcceptsIdentity unicode rawHost getaddrinfo config normalized identity) :
    ∃ tenant, dynamicTenant unicode rawHost getaddrinfo config normalized (some identity) = .ok tenant ∧
      tenant.baseUrl = httpsOrigin identity.host identity.port := by
  obtain ⟨parsed, hparsed⟩ := Option.isSome_iff_exists.1 parses
  obtain ⟨husername, hpassword⟩ := h.credentials parsed hparsed
  have hallowed : ¬(!config.resourceSpace.allowedHosts.isEmpty && !(!identity.host.isEmpty &&
      config.resourceSpace.allowedHosts.any (hostMatchesPattern unicode rawHost identity.host))) =
        true := by
    by_cases hnil : config.resourceSpace.allowedHosts = []
    · simp [hnil]
    · simp [(h.allowed hnil).1, (h.allowed hnil).2]
  rw [dynamicTenant, hparsed]
  dsimp only [Option.elim_some]
  rw [if_neg hallowed, h.sink]
  dsimp only [bind, Except.bind]
  rw [if_neg (by simp [h.scheme, h.port, husername, hpassword])]
  exact ⟨_, rfl, rfl⟩

/-- The tenant of a record has a base URL that parses. -/
theorem parses_resolveRegistered {config : AppConfig} {record tenant : Tenant}
    (h : resolveRegistered unicode rawHost getaddrinfo config record = .ok tenant) :
    Parses unicode tenant.baseUrl := by
  obtain ⟨base, hbase, h⟩ := exists_ok_of_bind h
  obtain ⟨⟨⟩, -, h⟩ := exists_ok_of_bind h
  cases h
  cases base with
  | none => rfl
  | some base => exact parses_normalized hbase

/-- What the registry answers for an identity, and what is made of it, raises when a URL
    that is read does not parse. -/
theorem resolve_raises_iff {config : AppConfig} {normalized : String} (identity : TenantIdentity)
    (h : Parses unicode normalized) :
    (registeredTenant unicode rawHost (some identity) config.resourceSpace.tenants >>= fun found =>
        found.elim (dynamicTenant unicode rawHost getaddrinfo config normalized (some identity))
          (resolveRegistered unicode rawHost getaddrinfo config)) = .error .valueError ↔
      ¬RegistryParses unicode rawHost getaddrinfo config identity := by
  rw [bind_eq_error, registeredTenant_raises_iff]
  constructor
  · rintro (⟨pre, record, post, hsplit, hpre, hfails⟩ | ⟨found, hfound, hraised⟩) hregistry
    · exact hfails (hregistry pre record post hsplit hpre).1
    · cases found with
      | none => exact not_isRefusal_valueError (refuses_dynamicTenant h _ hraised)
      | some record =>
        obtain ⟨pre, post, hsplit, hpre, -, hrecord⟩ := (registeredTenant_eq_some_iff _ _ _).1 hfound
        obtain ⟨base, hbase⟩ := normalized_of_identity hrecord
        exact (resolveRegistered_raises_iff hbase).1 hraised
          ((hregistry pre record post hsplit hpre).2 hrecord)
  · intro hfails
    simp only [RegistryParses, not_forall] at hfails
    obtain ⟨pre, record, post, hsplit, hpre, hfails⟩ := hfails
    by_cases hraised : ∃ pre record post, config.resourceSpace.tenants = pre ++ record :: post ∧
        Unmatched unicode rawHost identity pre ∧
        ¬Parses unicode (String.ofList (candidateUrl record.baseUrl))
    · exact .inl hraised
    · -- No URL up to the record raises, so the record is found.
      have hread : ∀ pre' record' post', config.resourceSpace.tenants = pre' ++ record' :: post' →
          Unmatched unicode rawHost identity pre' →
          Parses unicode (String.ofList (candidateUrl record'.baseUrl)) := fun _ _ _ hsplit' hpre' => by
        by_contra hfails'
        exact hraised ⟨_, _, _, hsplit', hpre', hfails'⟩
      have hstarts : ∀ r ∈ pre, Parses unicode (String.ofList (candidateUrl r.baseUrl)) := by
        intro r hr
        obtain ⟨front, back, rfl⟩ := List.append_of_mem hr
        refine hread front r (back ++ record :: post) ?_ fun r' hr' =>
          hpre r' (List.mem_append_left _ hr')
        rw [hsplit, List.append_assoc, List.cons_append]
      have hrecord := hread pre record post hsplit hpre
      simp only [hrecord, true_and, Classical.not_imp] at hfails
      obtain ⟨hidentity, hapi⟩ := hfails
      obtain ⟨base, hbase⟩ := normalized_of_identity hidentity
      refine .inr ⟨some record, ?_, (resolveRegistered_raises_iff hbase).2 hapi⟩
      exact (registeredTenant_eq_some_iff _ _ _).2 ⟨pre, post, hsplit, hpre, hstarts, hidentity⟩

/-- The tenant of a URL, in two steps: its identity, and what the registry has for it. -/
theorem getConfiguredTenant_of_normalized {config : AppConfig} {value normalized : String}
    (h : normalizeBaseUrl unicode value = .ok (some normalized)) :
    getConfiguredTenant unicode rawHost getaddrinfo config (some value) =
      (tenantIdentity unicode rawHost normalized >>= fun requested =>
        registeredTenant unicode rawHost requested config.resourceSpace.tenants >>= fun found =>
          found.elim (dynamicTenant unicode rawHost getaddrinfo config normalized requested)
            (resolveRegistered unicode rawHost getaddrinfo config)) := by
  rw [getConfiguredTenant, Option.getD_some, h]
  change (tenantIdentity unicode rawHost normalized >>= fun _ => _) = _
  refine bind_congr fun requested => bind_congr fun found => ?_
  cases found with
  | none => rfl
  | some record => rfl

theorem getConfiguredTenant_raises_iff (config : AppConfig) (value : String) :
    getConfiguredTenant unicode rawHost getaddrinfo config (some value) = .error .valueError ↔
      ¬ParsesThroughout unicode rawHost getaddrinfo config value := by
  by_cases hsubmitted : Parses unicode (String.ofList (candidateUrl value))
  · obtain ⟨parsed, hparsed⟩ := Option.isSome_iff_exists.1 hsubmitted
    obtain ⟨hscheme, ⟨hempty, hnone⟩ | ⟨hnetloc, hsome⟩⟩ := normalizeBaseUrl_of_parsed hparsed
    -- The URL has no host: it is refused before any other is parsed.
    · have hrefused : getConfiguredTenant unicode rawHost getaddrinfo config (some value) =
          .error (refusal "INVALID_TENANT_URL" "A ResourceSpace URL is required." 400) := by
        rw [getConfiguredTenant, Option.getD_some, hnone]
        rfl
      rw [hrefused]
      refine ⟨fun h => ?_, fun h => absurd ⟨hsubmitted, fun parsed' hparsed' => ?_, ?_⟩ h⟩
      · cases h
      · obtain rfl := Option.some.inj (hparsed.symm.trans hparsed')
        rw [hempty]
        rcases hscheme with hscheme | hscheme <;> rw [hscheme] <;> rfl
      · intro identity hidentity
        rw [requestedIdentity, Option.getD_some, hnone] at hidentity
        cases hidentity
    -- Its normal form is parsed again for the identity, and then the registry is searched.
    · have hnormalized : Parses unicode (web parsed.scheme parsed.netloc []) :=
        parses_normalized hsome
      have hagain : tenantIdentity unicode rawHost (web parsed.scheme parsed.netloc []) =
          .error .valueError ↔ ¬Parses unicode (web parsed.scheme (parsed.netloc.rdropWhile isSpace) []) := by
        rw [tenantIdentity_eq_error_iff, candidateUrl_web hscheme, web, List.append_nil]
        exact ⟨fun h => h.2, fun h => ⟨rfl, h⟩⟩
      have hrequested : requestedIdentity unicode rawHost (some value) =
          tenantIdentity unicode rawHost (web parsed.scheme parsed.netloc []) := by
        rw [requestedIdentity, Option.getD_some, hsome]
        rfl
      rw [getConfiguredTenant_of_normalized hsome, bind_eq_error, hagain]
      constructor
      · rintro (hfails | ⟨requested, hidentity, hraised⟩) hparses
        · exact hfails (hparses.normalized parsed hparsed)
        · cases requested with
          | none =>
            rw [registeredTenant_none] at hraised
            dsimp only [bind, Except.bind, Option.elim_none] at hraised
            -- Without an identity only a dynamic tenant is left, which is refused.
            exact not_isRefusal_valueError (refuses_dynamicTenant hnormalized _ hraised)
          | some identity =>
            exact (resolve_raises_iff identity hnormalized).1 hraised
              (hparses.registry identity (hrequested.trans hidentity))
      · intro hfails
        by_cases hparses : Parses unicode (web parsed.scheme (parsed.netloc.rdropWhile isSpace) [])
        · by_contra hnot
          refine hfails ⟨hsubmitted, fun parsed' hparsed' => ?_, fun identity hidentity => ?_⟩
          · obtain rfl := Option.some.inj (hparsed.symm.trans hparsed')
            exact hparses
          · by_contra hregistry
            exact hnot (.inr ⟨some identity, hrequested.symm.trans hidentity,
              (resolve_raises_iff identity hnormalized).2 hregistry⟩)
        · exact .inl hparses
  · refine ⟨fun _ h => hsubmitted h.submitted, fun _ => ?_⟩
    rw [getConfiguredTenant, bind_eq_error]
    exact .inl (normalizeBaseUrl_eq_error_iff.2 ⟨rfl, hsubmitted⟩)

theorem refusesOrRaises_getConfiguredTenant (config : AppConfig) (value : String) :
    RefusesOrRaises (getConfiguredTenant unicode rawHost getaddrinfo config (some value)) := by
  cases hnormalized : normalizeBaseUrl unicode value with
  | error error =>
    rw [getConfiguredTenant, Option.getD_some, hnormalized]
    obtain ⟨rfl, -⟩ := normalizeBaseUrl_eq_error_iff.1 hnormalized
    exact .valueError
  | ok normalized =>
    cases normalized with
    | none =>
      rw [getConfiguredTenant, Option.getD_some, hnormalized]
      exact .refused (by decide) (by decide)
    | some normalized =>
      rw [getConfiguredTenant_of_normalized hnormalized]
      refine .bind (fun _ h => .inr (tenantIdentity_eq_error_iff.1 h).1) fun requested =>
        .bind (refusesOrRaises_registeredTenant _ _) fun found => ?_
      cases found with
      | none =>
        exact fun error h => .inl (refuses_dynamicTenant (parses_normalized hnormalized) error h)
      | some record => exact refusesOrRaises_resolveRegistered config record

/-! ## Base URLs -/

/-- The tenant of a URL has a base URL that parses, or is made up for its identity. -/
theorem baseUrl_cases {config : AppConfig} {value : String} {tenant : Tenant}
    (h : getConfiguredTenant unicode rawHost getaddrinfo config (some value) = .ok tenant) :
    Parses unicode tenant.baseUrl ∨ ∃ identity, LeadsTo unicode rawHost getaddrinfo config value identity ∧
      tenant.baseUrl = httpsOrigin identity.host identity.port := by
  have h' := h
  rw [getConfiguredTenant, Option.getD_some] at h'
  obtain ⟨normalized, hnormalized, h'⟩ := exists_ok_of_bind h'
  cases normalized with
  | none => cases h'
  | some normalized =>
    rw [getConfiguredTenant_of_normalized hnormalized] at h
    obtain ⟨requested, hrequested, h⟩ := exists_ok_of_bind h
    obtain ⟨found, hfound, h⟩ := exists_ok_of_bind h
    cases found with
    | some record => exact .inl (parses_resolveRegistered h)
    | none =>
      obtain ⟨identity, rfl, haccepts, horigin⟩ := baseUrl_of_dynamicTenant h
      exact .inr ⟨identity, ⟨⟨normalized, hnormalized, hrequested, haccepts⟩,
        ((registeredTenant_eq_none_iff _ _).1 hfound).1⟩, horigin⟩

/-- A URL that leads to its identity has a tenant made up for it. -/
theorem getConfiguredTenant_of_leadsTo {config : AppConfig} {value : String} {identity : TenantIdentity}
    (refuses : Refuses (getConfiguredTenant unicode rawHost getaddrinfo config (some value)))
    (h : LeadsTo unicode rawHost getaddrinfo config value identity) :
    ∃ tenant, getConfiguredTenant unicode rawHost getaddrinfo config (some value) = .ok tenant ∧
      tenant.baseUrl = httpsOrigin identity.host identity.port := by
  obtain ⟨⟨normalized, hnormalized, hidentity, haccepts⟩, hunmatched⟩ := h
  rw [getConfiguredTenant_of_normalized hnormalized, hidentity] at refuses ⊢
  change Refuses (registeredTenant unicode rawHost (some identity) config.resourceSpace.tenants >>= _)
    at refuses
  change ∃ tenant, (registeredTenant unicode rawHost (some identity) config.resourceSpace.tenants >>= _) =
    .ok tenant ∧ _
  cases hfound : registeredTenant unicode rawHost (some identity) config.resourceSpace.tenants with
  | error e =>
    -- What the registry raises is no refusal.
    rw [hfound] at refuses
    rcases registeredTenant_raises hfound with rfl
    exact absurd (refuses _ rfl) not_isRefusal_valueError
  | ok found =>
    cases found with
    | none => exact dynamicTenant_of_accepted (parses_normalized hnormalized) haccepts
    | some record =>
      obtain ⟨pre, post, hsplit, -, -, hrecord⟩ := (registeredTenant_eq_some_iff _ _ _).1 hfound
      exact absurd hrecord (hunmatched record (hsplit ▸ List.mem_append_right _ List.mem_cons_self))

/-! ## The hosted sign-in -/

/-- The hosted sign-in goes on with a tenant, and answers with its redirect whatever the
    handoff state, or shows a page for the client. -/
def InitiatesOrRefuses (unicode : Unicode) (config : RouteConfig)
    (initiation : Except PyError (HttpResponse ⊕ SsoRequest)) : Prop :=
  (∃ request, initiation = .ok (.inr request) ∧
      ∀ handoffState, ∃ url, handoffResponse unicode config request (.ok handoffState) = .ok (.handoff url)) ∨
    ∃ response, initiation = .ok (.inl response) ∧ IsClientPage response

/-- An initiation is answered when the base URL of its tenant parses. -/
theorem handoffResponse_iff (config : RouteConfig) (request : SsoRequest) :
    (∀ handoffState, ∃ url, handoffResponse unicode config request (.ok handoffState) =
      .ok (.handoff url)) ↔ Parses unicode request.tenant.baseUrl := by
  rw [Parses, ← hostOf_isSome]
  dsimp only [handoffResponse]
  cases hostOf unicode request.tenant.baseUrl with
  | none =>
    refine iff_of_false (fun h => ?_) Bool.false_ne_true
    obtain ⟨url, h⟩ := h ""
    cases h
  | some host => exact iff_of_true (fun _ => ⟨_, rfl⟩) rfl

theorem normalizeBaseUrl_strip (value : String) :
    normalizeBaseUrl unicode (String.ofList (strip value.toList)) = normalizeBaseUrl unicode value := by
  rw [normalizeBaseUrl, normalizeBaseUrl, String.toList_ofList, strip_strip]

theorem getConfiguredTenant_strip (config : AppConfig) (value : String) :
    getConfiguredTenant unicode rawHost getaddrinfo config (some (String.ofList (strip value.toList))) =
      getConfiguredTenant unicode rawHost getaddrinfo config (some value) := by
  rw [getConfiguredTenant, getConfiguredTenant, Option.getD_some, Option.getD_some,
    normalizeBaseUrl_strip]

/-- The hosted sign-in raises when the URL does not parse as it is, or the origin of its
    tenant does not. -/
theorem initiatesOrRefuses_iff {config : RouteConfig} {request : HttpRequest} {correlationId : String}
    {call : AuthorizeCall}
    (refuses : Refuses (getConfiguredTenant unicode rawHost getaddrinfo config.toAppConfig
      (some (call.body.field "tenant_url")))) :
    InitiatesOrRefuses unicode config
        (beginSsoAuthorize unicode rawHost getaddrinfo config request correlationId call) ↔
      (config.resourceSpace.ssoEnabled = true →
        ParsesForSignIn unicode rawHost getaddrinfo config.toAppConfig
          (call.body.field "tenant_url")) := by
  have hpage : ∀ code, InitiatesOrRefuses unicode config (.ok (.inl (.page 400 code none))) :=
    fun code => .inr ⟨_, rfl, 400, code, none, rfl, by decide, by decide⟩
  rw [beginSsoAuthorize]
  cases config.resourceSpace.ssoEnabled with
  | false =>
    constructor
    · exact fun _ h => nomatch h
    · exact fun _ => hpage _
  | true =>
    rw [Bool.not_true, if_neg Bool.false_ne_true, forall_prop_of_true rfl]
    dsimp only
    cases hparsed : urlparse unicode (String.ofList (strip (call.body.field "tenant_url").toList)) with
    -- `urlparse` of the submitted URL is outside the handler's `try`.
    | none =>
      constructor
      · rintro (⟨_, h, -⟩ | ⟨_, h, -⟩) <;> cases h
      · intro h
        have hsubmitted := h.submitted
        rw [Parses, hparsed] at hsubmitted
        cases hsubmitted
    | some parsed =>
      have hsubmitted : Parses unicode (String.ofList (strip (call.body.field "tenant_url").toList)) := by
        rw [Parses, hparsed]
        rfl
      dsimp only
      rw [getConfiguredTenant_strip]
      split_ifs with hplain
      · refine iff_of_true (hpage _) ⟨hsubmitted, fun parsed' _ hparsed' hscheme => ?_⟩
        obtain rfl := Option.some.inj (hparsed.symm.trans hparsed')
        exact absurd hplain hscheme
      · cases htenant : getConfiguredTenant unicode rawHost getaddrinfo config.toAppConfig
            (some (call.body.field "tenant_url")) with
        | error error =>
          refine iff_of_true (.inr ⟨_, rfl, (refuses error htenant).2⟩)
            ⟨hsubmitted, fun _ identity _ _ hleads => ?_⟩
          obtain ⟨tenant, htenant', -⟩ := getConfiguredTenant_of_leadsTo refuses hleads
          rw [htenant] at htenant'
          cases htenant'
        | ok tenant =>
          dsimp only
          split_ifs with hsecure
          · refine iff_of_true (hpage _) ⟨hsubmitted, fun _ identity _ _ hleads hhttps => ?_⟩
            obtain ⟨tenant', htenant', horigin⟩ := getConfiguredTenant_of_leadsTo refuses hleads
            obtain rfl := Except.ok.inj (htenant.symm.trans htenant')
            rw [← horigin] at hhttps
            rw [hhttps] at hsecure
            cases hsecure
          -- The base URL of the tenant is parsed once more, for the log.
          · constructor
            · rintro (⟨request', hrequest, hanswers⟩ | ⟨_, h, -⟩)
              · cases hrequest
                have hparses := (handoffResponse_iff _ _).1 hanswers
                refine ⟨hsubmitted, fun _ identity _ _ hleads _ => ?_⟩
                obtain ⟨tenant', htenant', horigin⟩ := getConfiguredTenant_of_leadsTo refuses hleads
                obtain rfl := Except.ok.inj (htenant.symm.trans htenant')
                exact horigin ▸ hparses
              · cases h
            · intro h
              refine .inl ⟨_, rfl, (handoffResponse_iff _ _).2 ?_⟩
              rcases baseUrl_cases htenant with hparses | ⟨identity, hleads, horigin⟩
              · exact hparses
              · have hhttps : startsWith (unicode.lower tenant.baseUrl.toList) "https://".toList = true := by
                  simpa using hsecure
                exact horigin ▸ h.origin parsed identity hparsed hplain hleads (horigin ▸ hhttps)

/-- A tenant URL is a tenant's or is refused with an error of 4xx, in the resolution of the
    tenant and in the hosted sign-in, exactly when it and the URLs of the registry read
    for it parse as they are normalized, and, for a broker with the hosted sign-in, the URL
    itself as it is submitted and the origin of the tenant that is made up for it. -/
theorem tenant_refused_iff (config : RouteConfig) (request : HttpRequest) (correlationId : String)
    (call : AuthorizeCall) :
    Refuses (getConfiguredTenant unicode rawHost getaddrinfo config.toAppConfig
        (some (call.body.field "tenant_url"))) ∧
      InitiatesOrRefuses unicode config
        (beginSsoAuthorize unicode rawHost getaddrinfo config request correlationId call) ↔
    ParsesThroughout unicode rawHost getaddrinfo config.toAppConfig (call.body.field "tenant_url") ∧
      (config.resourceSpace.ssoEnabled = true →
        ParsesForSignIn unicode rawHost getaddrinfo config.toAppConfig
          (call.body.field "tenant_url")) := by
  have hresolution : Refuses (getConfiguredTenant unicode rawHost getaddrinfo config.toAppConfig
        (some (call.body.field "tenant_url"))) ↔
      ParsesThroughout unicode rawHost getaddrinfo config.toAppConfig
        (call.body.field "tenant_url") := by
    rw [(refusesOrRaises_getConfiguredTenant config.toAppConfig _).refuses_iff, Ne,
      getConfiguredTenant_raises_iff, not_not]
  rw [← hresolution]
  exact and_congr_right initiatesOrRefuses_iff

namespace Sample

/-- A deployment without proxies. -/
def bareDeployment : RouteConfig where
  toAppConfig := config
  clientIpHeader := ""
  trustedProxyHosts := []
  clientId := "canva-client"
  ssoSystemKey := "canva"

/-- A sign-in for the tenant URL. -/
def signInAt (tenantUrl : String) : AuthorizeCall where
  request := request
  state := "canva-state"
  body := (∅ : Form).set "tenant_url" tenantUrl

end Sample

/-- A URL whose tenant has an origin that does not parse: the brackets around its host are
    lost. -/
example : requestedIdentity .ascii (fun _ => none) (some "https://[v1.[]") =
    .ok (some ⟨"https".toList, "v1.[".toList, 443⟩) ∧
    urlparse .ascii (httpsOrigin "v1.[".toList 443) = none := by
  decide +kernel

/-- A bracket that is not closed raises in the resolution and in the hosted sign-in. -/
theorem bracket_raises :
    getConfiguredTenant .ascii (fun _ => none) (fun _ => none) Sample.config (some "https://[") =
        .error .valueError ∧
      beginSsoAuthorize .ascii (fun _ => none) (fun _ => none) Sample.bareDeployment ⟨none, fun _ => none⟩
        "correlation" (Sample.signInAt "https://[") = .error .valueError ∧
      ¬IsRefusal .valueError ∧ errorPage (mapError .valueError) =
        .page 500 "INTERNAL_ERROR" (some "Unexpected ResourceSpace integration failure.") := by
  refine ⟨rfl, ?_, not_isRefusal_valueError, rfl⟩
  have hsubmitted : (Sample.signInAt "https://[").body.field "tenant_url" = "https://[" := by
    decide +kernel
  have hparsed : urlparse .ascii (String.ofList (strip "https://[".toList)) = none := by decide +kernel
  rw [beginSsoAuthorize, hsubmitted]
  dsimp only
  rw [hparsed]
  rfl

end Broker
