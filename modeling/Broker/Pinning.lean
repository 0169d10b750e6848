import Broker.Lib.Distinct
import Broker.Tenants

/-!
# Pinned requests

The addresses that an outbound request is pinned to (`pinRequest`): the host of its URL
is resolved once, no address of the answer may be blocked (`answer_of_resolvePinnedAddresses`),
and the request is made to these addresses only.

What `httpx` finds in a URL is a parameter.
-/

namespace Broker

open Py

/-- What `httpx.URL` finds in a URL. -/
structure HttpxUrl where
  scheme : List Char
  host : List Char
  /-- `raw_host.decode("ascii")`. -/
  rawHost : List Char
  port : Option ℕ
  /-- `str(url.copy_with(host=host))`. -/
  withHost : List Char → String

/-- The URLs of `httpx`. -/
structure Httpx where
  /-- `httpx.URL(url)`, none when it raises. -/
  url : String → Option HttpxUrl
  /-- `str(httpx.URL(url).join(location))`. -/
  join : String → String → Except PyError String
  /-- `httpx.URL(scheme="https", host=host).raw_host`, none when it raises. -/
  rawHost : List Char → Option (List Char)

/-- A file that is sent or received. -/
structure NamedFile where
  bytes : List UInt8
  filename : String
  contentType : String
  deriving DecidableEq, Repr

/-- The arguments of a request that is pinned to addresses. -/
structure PinnedRequest where
  urls : List String
  /-- The `Host` header. -/
  hostHeader : List Char
  sniHostname : List Char
  deriving DecidableEq, Repr

section Requests

variable (unicode : Unicode) (rawHost : List Char → Option (List Char))
  (getaddrinfo : List Char → Option (List (List Char)))

/-- `_host_matches_strict`. -/
def hostMatchesStrict (host : List Char) (pattern : String) : Bool :=
  match canonicalAsciiHost unicode rawHost host with
  | .error _ => false
  | .ok chost =>
    match canonicalPattern unicode rawHost pattern with
    | [] => false
    | '.' :: p => chost = p || endsWith chost ('.' :: p)
    | p => chost = p

/-- `ip.version`. -/
def ipVersion : Ip.Address → ℕ
  | .v4 _ => 4
  | .v6 _ _ => 6

/-- Whether a text is an address of the version. -/
def isVersion (version : ℕ) (addr : List Char) : Bool :=
  match Ip.address addr with
  | some (.v4 _) => version = 4
  | some (.v6 _ _) => version = 6
  | none => false

/-- The loop of `resolve_pinned_addresses` over what is left of the answer, after it has collected
    these addresses of version 4 and of version 6. -/
def collectAddresses (v4 v6 : List (List Char)) :
    List (List Char) → Except PyError (List (List Char) × List (List Char))
  | [] => .ok (v4, v6)
  | addr :: infos =>
    match Ip.address addr with
    | none => collectAddresses v4 v6 infos
    | some ip =>
      if ipIsBlocked ip then
        .error (refusal "FORBIDDEN" "Host resolves to a non-public address." 403)
      else
        match ip with
        | .v4 _ => collectAddresses (v4 ++ [addr]) v6 infos
        | .v6 _ _ => collectAddresses v4 (v6 ++ [addr]) infos

/-- `resolve_pinned_addresses`: the addresses of version 4 first, each once. -/
def resolvePinnedAddresses (host : List Char) : Except PyError (List (List Char)) := do
  let host ← canonicalAsciiHost unicode rawHost host
  match getaddrinfo host with
  | none => throw unresolved
  | some infos =>
    let (v4, v6) ← collectAddresses [] [] infos
    let ordered := Distinct.appendNew [] (v4 ++ v6)
    if ordered.isEmpty then throw (refusal "FORBIDDEN" "Host has no usable address." 403)
    return ordered

/-- `_authority_for_header`. -/
def authorityForHeader (asciiHost : List Char) (port : Option ℕ) : List Char :=
  let authority :=
    match Ip.address asciiHost with
    | some (.v6 _ _) => '[' :: asciiHost ++ [']']
    | _ => asciiHost
  match port with
  | none => authority
  | some port => authority ++ ':' :: Nat.toDigits 10 port

/-- `pin_request`, with no allowlist when there are no allowed hosts. -/
def pinRequest (httpx : Httpx) (url : String) (allowedHosts : List String) :
    Except PyError PinnedRequest :=
  match httpx.url url with
  | none => .error (refusal "FORBIDDEN" "Invalid URL." 400)
  | some parsed => do
    if parsed.scheme ≠ "https".toList ∨ parsed.host = [] then
      throw (refusal "FORBIDDEN" "Only https URLs with a hostname may be fetched." 400)
    if !allowedHosts.isEmpty && !(allowedHosts.any (hostMatchesStrict unicode rawHost parsed.rawHost)) then
      throw (refusal "FORBIDDEN" "Host is not in the configured allowlist." 403)
    let addresses ← resolvePinnedAddresses unicode rawHost getaddrinfo parsed.rawHost
    return {
      urls := addresses.map parsed.withHost
      hostHeader := authorityForHeader parsed.rawHost parsed.port
      sniHostname := parsed.rawHost }

end Requests

variable {unicode : Unicode} {rawHost : List Char → Option (List Char)}
  {getaddrinfo : List Char → Option (List (List Char))}

theorem isVersion_some {addr : List Char} {ip : Ip.Address} (h : Ip.address addr = some ip)
    (version : ℕ) : isVersion version addr = decide (version = ipVersion ip) := by
  rw [isVersion, h]
  cases ip <;> rfl

/-- No address of the answer is blocked. -/
def Clear (infos : List (List Char)) : Prop :=
  ∀ info ∈ infos, ∀ ip, Ip.address info = some ip → ipIsBlocked ip = false

theorem clear_cons {info : List Char} {infos : List (List Char)} :
    Clear (info :: infos) ↔
      (∀ ip, Ip.address info = some ip → ipIsBlocked ip = false) ∧ Clear infos := by
  rw [Clear, List.forall_mem_cons]
  rfl

/-- The loop collects all addresses of the answer, by their versions, or stops at one that is
    blocked. -/
theorem collectAddresses_eq_ok_iff (v4 v6 infos : List (List Char))
    (collected : List (List Char) × List (List Char)) :
    collectAddresses v4 v6 infos = .ok collected ↔
      Clear infos ∧
        collected = (v4 ++ infos.filter (isVersion 4), v6 ++ infos.filter (isVersion 6)) := by
  induction infos generalizing v4 v6 with
  | nil =>
    rw [collectAddresses, List.filter_nil, List.filter_nil, List.append_nil, List.append_nil,
      Except.ok.injEq, eq_comm]
    exact ⟨fun h => ⟨fun _ h => absurd h List.not_mem_nil, h⟩, fun h => h.2⟩
  | cons addr infos ih =>
    rw [collectAddresses, clear_cons]
    -- An entry that is no address is skipped, and a blocked one ends the loop.
    cases hip : Ip.address addr with
    | none =>
      have hskip : ∀ version, isVersion version addr = false := fun version => by
        rw [isVersion, hip]
      dsimp only
      rw [ih, List.filter_cons_of_neg (by rw [hskip]; exact Bool.false_ne_true),
        List.filter_cons_of_neg (by rw [hskip]; exact Bool.false_ne_true)]
      simp
    | some ip =>
      dsimp only
      cases hblocked : ipIsBlocked ip with
      | true =>
        rw [if_pos rfl]
        constructor
        · intro h
          cases h
        · intro h
          rw [h.1.1 ip rfl] at hblocked
          cases hblocked
      | false =>
        have hclear : ∀ ip', some ip = some ip' → ipIsBlocked ip' = false := by
          intro ip' h
          rwa [← Option.some.inj h]
        rw [if_neg Bool.false_ne_true]
        cases ip with
        | v4 n =>
          dsimp only
          rw [ih, List.filter_cons_of_pos (by rw [isVersion_some hip]; rfl),
            List.filter_cons_of_neg (by rw [isVersion_some hip]; exact Bool.false_ne_true),
            List.append_assoc, List.singleton_append]
          exact and_congr_left fun _ => ⟨fun h => ⟨hclear, h⟩, fun h => h.2⟩
        | v6 n scopeId =>
          dsimp only
          rw [ih, List.filter_cons_of_neg (by rw [isVersion_some hip]; exact Bool.false_ne_true),
            List.filter_cons_of_pos (by rw [isVersion_some hip]; rfl),
            List.append_assoc, List.singleton_append]
          exact and_congr_left fun _ => ⟨fun h => ⟨hclear, h⟩, fun h => h.2⟩

/-- The addresses of an answer, those of version 4 first, each once. -/
def usableAddresses (infos : List (List Char)) : List (List Char) :=
  (infos.filter (isVersion 4) ++ infos.filter (isVersion 6)).eraseDups

/-- The addresses are those of an answer in which none is blocked, and there are some. -/
theorem resolvePinnedAddresses_eq_ok_iff {host : List Char} {addresses : List (List Char)} :
    resolvePinnedAddresses unicode rawHost getaddrinfo host = .ok addresses ↔
      ∃ canonical infos, canonicalAsciiHost unicode rawHost host = .ok canonical ∧
        getaddrinfo canonical = some infos ∧ Clear infos ∧ addresses ≠ [] ∧
        addresses = usableAddresses infos := by
  constructor
  · intro h
    obtain ⟨canonical, hcanonical, h⟩ := exists_ok_of_bind h
    cases hinfos : getaddrinfo canonical with
    | none =>
      rw [hinfos] at h
      cases h
    | some infos =>
      rw [hinfos] at h
      obtain ⟨⟨v4, v6⟩, hcollected, h⟩ := exists_ok_of_bind h
      obtain ⟨hclear, hparts⟩ := (collectAddresses_eq_ok_iff _ _ _ _).1 hcollected
      obtain ⟨rfl, rfl⟩ := Prod.mk.inj hparts
      dsimp only at h
      rw [List.nil_append, List.nil_append, Distinct.appendNew_nil, ← usableAddresses] at h
      split_ifs at h with hempty
      · cases h
      · obtain rfl := Except.ok.inj h
        exact ⟨canonical, infos, hcanonical, hinfos, hclear, by rwa [List.isEmpty_iff] at hempty, rfl⟩
  · rintro ⟨canonical, infos, hcanonical, hinfos, hclear, hne, rfl⟩
    have hcollected := (collectAddresses_eq_ok_iff [] [] infos _).2 ⟨hclear, rfl⟩
    have hempty : ¬(usableAddresses infos).isEmpty = true := by rwa [List.isEmpty_iff]
    rw [resolvePinnedAddresses, hcanonical]
    simp only [bind, Except.bind, hinfos, hcollected, List.nil_append, Distinct.appendNew_nil]
    rw [← usableAddresses, if_neg hempty]
    rfl

theorem mem_usableAddresses {infos : List (List Char)} {addr : List Char} :
    addr ∈ usableAddresses infos ↔ addr ∈ infos ∧ (Ip.address addr).isSome = true := by
  rw [usableAddresses, List.mem_eraseDups, List.mem_append, List.mem_filter, List.mem_filter,
    ← and_or_left]
  refine and_congr_right fun _ => ?_
  cases hip : Ip.address addr with
  | none =>
    rw [isVersion, isVersion, hip]
    simp
  | some ip =>
    rw [isVersion_some hip, isVersion_some hip]
    cases ip <;> simp [ipVersion]

/-- The addresses are those of an answer of the resolver, in which none is blocked. -/
theorem answer_of_resolvePinnedAddresses {host : List Char} {addresses : List (List Char)}
    (h : resolvePinnedAddresses unicode rawHost getaddrinfo host = .ok addresses) :
    ∃ canonical infos, canonicalAsciiHost unicode rawHost host = .ok canonical ∧
      getaddrinfo canonical = some infos ∧
      (∀ info ∈ infos, ∀ ip, Ip.address info = some ip → ipIsBlocked ip = false) ∧
      ∀ address ∈ addresses, address ∈ infos ∧ (Ip.address address).isSome = true := by
  obtain ⟨canonical, infos, hcanonical, hinfos, hclear, -, rfl⟩ :=
    resolvePinnedAddresses_eq_ok_iff.1 h
  exact ⟨canonical, infos, hcanonical, hinfos, hclear, fun address => mem_usableAddresses.1⟩

/-- What a request that is pinned is made to. -/
theorem pinned_of_pinRequest {httpx : Httpx} {url : String} {allowedHosts : List String}
    {pinned : PinnedRequest}
    (h : pinRequest unicode rawHost getaddrinfo httpx url allowedHosts = .ok pinned) :
    ∃ parsed addresses, httpx.url url = some parsed ∧ parsed.scheme = "https".toList ∧
      resolvePinnedAddresses unicode rawHost getaddrinfo parsed.rawHost = .ok addresses ∧
      pinned.urls = addresses.map parsed.withHost := by
  rw [pinRequest] at h
  cases hparsed : httpx.url url with
  | none =>
    rw [hparsed] at h
    cases h
  | some parsed =>
    rw [hparsed] at h
    dsimp only at h
    by_cases hscheme : parsed.scheme ≠ "https".toList ∨ parsed.host = []
    · rw [if_pos hscheme] at h
      cases h
    · rw [if_neg hscheme] at h
      split_ifs at h
      · cases h
      obtain ⟨addresses, haddresses, h⟩ := exists_ok_of_bind h
      obtain rfl := Except.ok.inj h
      rw [not_or, not_not] at hscheme
      exact ⟨parsed, addresses, rfl, hscheme.1, haddresses, rfl⟩

/-! ## The guard of tenants -/

/-- An entry of the answer is an address. -/
def HasAddress (infos : List (List Char)) : Prop := ∃ info ∈ infos, (Ip.address info).isSome = true

/-- A host that has a name and resolves, to no blocked address, passes the guard. -/
theorem isPrivateIp_eq_false_iff {host : List Char} :
    isPrivateIp unicode rawHost getaddrinfo host = false ↔
      ∃ canonical infos, canonicalAsciiHost unicode rawHost host = .ok canonical ∧
        getaddrinfo canonical = some infos ∧ canonical ≠ [] ∧ Clear infos := by
  rw [isPrivateIp]
  cases hcanonical : canonicalAsciiHost unicode rawHost host with
  | error e => simp
  | ok canonical =>
    cases hinfos : getaddrinfo canonical with
    | none => simp [hinfos]
    | some infos =>
      have hclear : (infos.any fun info => (Ip.address info).any ipIsBlocked) = false ↔ Clear infos := by
        rw [List.any_eq_false, Clear]
        refine forall₂_congr fun info _ => ?_
        cases Ip.address info <;> simp
      simp [hinfos, hclear]

theorem usableAddresses_ne_nil_iff {infos : List (List Char)} :
    usableAddresses infos ≠ [] ↔ HasAddress infos := by
  constructor
  · intro h
    obtain ⟨addr, haddr⟩ := List.exists_mem_of_ne_nil _ h
    exact ⟨addr, mem_usableAddresses.1 haddr⟩
  · rintro ⟨addr, haddr⟩
    exact List.ne_nil_of_mem (mem_usableAddresses.2 haddr)

section

variable (unicode rawHost getaddrinfo)

/-- The host is pinned: to some addresses, none of which is blocked. -/
def Pins (host : List Char) : Prop :=
  ∃ addresses, resolvePinnedAddresses unicode rawHost getaddrinfo host = .ok addresses ∧
    addresses ≠ [] ∧ ∀ address ∈ addresses, ∃ ip, Ip.address address = some ip ∧ ipIsBlocked ip = false

end

theorem pins_iff {host : List Char} :
    Pins unicode rawHost getaddrinfo host ↔
      ∃ canonical infos, canonicalAsciiHost unicode rawHost host = .ok canonical ∧
        getaddrinfo canonical = some infos ∧ Clear infos ∧ HasAddress infos := by
  constructor
  · rintro ⟨addresses, haddresses, hne, -⟩
    obtain ⟨canonical, infos, hcanonical, hinfos, hclear, -, rfl⟩ :=
      resolvePinnedAddresses_eq_ok_iff.1 haddresses
    exact ⟨canonical, infos, hcanonical, hinfos, hclear, usableAddresses_ne_nil_iff.1 hne⟩
  · rintro ⟨canonical, infos, hcanonical, hinfos, hclear, hany⟩
    have hne := usableAddresses_ne_nil_iff.2 hany
    refine ⟨_, resolvePinnedAddresses_eq_ok_iff.2
      ⟨canonical, infos, hcanonical, hinfos, hclear, hne, rfl⟩, hne, fun address haddress => ?_⟩
    obtain ⟨hmem, hsome⟩ := mem_usableAddresses.1 haddress
    obtain ⟨ip, hip⟩ := Option.isSome_iff_exists.1 hsome
    exact ⟨ip, hip, hclear address hmem ip hip⟩

/-- The answer on which the guard and the pin decide alike: some entry of it is an address. For a
    host without a name, which the guard does not look up, it is one that is not pinned to. -/
def DecidesAlike (canonical : List Char) (infos : List (List Char)) : Prop :=
  if canonical = [] then ¬(Clear infos ∧ HasAddress infos) else HasAddress infos

/-- The guard lets a host pass exactly if it is pinned, unless no entry of its answer is an address,
    or the host is empty and has a public one. -/
theorem guard_iff_pins (unicode : Unicode) (rawHost : List Char → Option (List Char))
    (getaddrinfo : List Char → Option (List (List Char))) (host : List Char) :
    (isPrivateIp unicode rawHost getaddrinfo host = false ↔ Pins unicode rawHost getaddrinfo host) ↔
      ∀ canonical infos, canonicalAsciiHost unicode rawHost host = .ok canonical →
        getaddrinfo canonical = some infos → DecidesAlike canonical infos := by
  rw [isPrivateIp_eq_false_iff, pins_iff]
  constructor
  · intro h canonical infos hcanonical hinfos
    rw [DecidesAlike]
    split_ifs with hempty
    · rintro ⟨hclear, hany⟩
      obtain ⟨_, _, hcanonical', -, hne, -⟩ := h.2 ⟨canonical, infos, hcanonical, hinfos, hclear, hany⟩
      obtain rfl := Except.ok.inj (hcanonical.symm.trans hcanonical')
      exact hne hempty
    · by_contra hnone
      -- What is no address is not blocked.
      have hclear : Clear infos := fun info hinfo ip hip =>
        absurd ⟨info, hinfo, by rw [hip, Option.isSome_some]⟩ hnone
      obtain ⟨_, _, hcanonical', hinfos', -, hany⟩ :=
        h.1 ⟨canonical, infos, hcanonical, hinfos, hempty, hclear⟩
      obtain rfl := Except.ok.inj (hcanonical.symm.trans hcanonical')
      obtain rfl := Option.some.inj (hinfos.symm.trans hinfos')
      exact hnone hany
  · intro alike
    constructor
    · rintro ⟨canonical, infos, hcanonical, hinfos, hne, hclear⟩
      have hany := alike canonical infos hcanonical hinfos
      rw [DecidesAlike, if_neg hne] at hany
      exact ⟨canonical, infos, hcanonical, hinfos, hclear, hany⟩
    · rintro ⟨canonical, infos, hcanonical, hinfos, hclear, hany⟩
      refine ⟨canonical, infos, hcanonical, hinfos, fun hempty => ?_, hclear⟩
      have hnot := alike canonical infos hcanonical hinfos
      rw [DecidesAlike, if_pos hempty] at hnot
      exact hnot ⟨hclear, hany⟩

/-- An empty answer passes the guard, and is refused by the pin. -/
theorem empty_answer_passes :
    isPrivateIp .ascii (fun _ => none) (fun _ => some []) "h.example".toList = false ∧
      resolvePinnedAddresses .ascii (fun _ => none) (fun _ => some []) "h.example".toList =
        .error (refusal "FORBIDDEN" "Host has no usable address." 403) ∧
      ¬(isPrivateIp .ascii (fun _ => none) (fun _ => some []) "h.example".toList = false ↔
        Pins .ascii (fun _ => none) (fun _ => some []) "h.example".toList) := by
  have hpasses : isPrivateIp .ascii (fun _ => none) (fun _ => some []) "h.example".toList = false := by
    decide +kernel
  have hrefused : resolvePinnedAddresses .ascii (fun _ => none) (fun _ => some [])
      "h.example".toList = .error (refusal "FORBIDDEN" "Host has no usable address." 403) := by
    decide +kernel
  refine ⟨hpasses, hrefused, fun h => ?_⟩
  obtain ⟨_, haddresses, -⟩ := h.1 hpasses
  cases hrefused.symm.trans haddresses

end Broker
