import Broker.Lib.Parts
import Broker.Pinning
import Broker.Sinks

/-!
# Allowed hosts

The two matchers of allowlist entries compare characters, and mean labels: an entry is a
domain, of its own or with its subdomains (`hostMatches_iff_labels`).

A request is pinned all or nothing: to every usable address that its host resolves to, if
the host is allowed and no address is blocked, and to none otherwise
(`pinRequest_all_or_nothing`).
-/

namespace Broker

open Py

variable {unicode : Unicode} {rawHost : List Char → Option (List Char)}
  {getaddrinfo : List Char → Option (List (List Char))}

/-! ## Labels -/

/-- The labels of a name, in lower case. -/
def labels (name : List Char) : List (List Char) := (Ip.lowered name).splitOn '.'

/-- The name is of a proper subdomain of the domain. -/
def IsSubdomain (name domain : List Char) : Prop := ∃ sub, sub ≠ [] ∧ labels name = sub ++ labels domain

/-- What a strict entry stands for: with a dot in front, a domain and its subdomains, and
    else a host. -/
def StrictEntry (host : List Char) : List Char → Prop
  | '.' :: domain => labels host = labels domain ∨ IsSubdomain host domain
  | entry => labels host = labels entry

/-- What an entry stands for: with a dot in front, the proper subdomains of a domain, and
    else a domain and its subdomains. -/
def PatternEntry (host : List Char) : List Char → Prop
  | '.' :: domain => IsSubdomain host domain
  | entry => labels host = labels entry ∨ IsSubdomain host entry

theorem labels_eq_iff {name name' : List Char} :
    labels name = labels name' ↔ Ip.lowered name = Ip.lowered name' := splitOn_inj

theorem isSubdomain_iff {name domain : List Char} :
    IsSubdomain name domain ↔ endsWith (Ip.lowered name) ('.' :: Ip.lowered domain) = true :=
  endsWith_sep_iff.symm

theorem canonicalAsciiHost_of_ascii {host : List Char} (h : isAscii host = true) :
    canonicalAsciiHost unicode rawHost host = .ok (Ip.lowered host) := by
  rcases eq_or_ne host [] with rfl | hne
  · rfl
  · rw [canonicalAsciiHost_ascii hne h, lower_eq_lowered h]

theorem isAscii_lowered {s : List Char} (h : isAscii s = true) : isAscii (Ip.lowered s) = true := by
  rw [← @lower_eq_lowered .ascii s h]
  exact isAscii_lower h

/-- An ASCII entry is put in lower case. -/
theorem canonicalPattern_of_ascii {pattern : String} (ascii : isAscii pattern.toList = true)
    (trimmed : strip pattern.toList = pattern.toList) :
    canonicalPattern unicode rawHost pattern = Ip.lowered pattern.toList := by
  have hlower := isAscii_lowered ascii
  rw [canonicalPattern, trimmed, lower_eq_lowered ascii]
  have hagain := lowered_lowered pattern.toList
  generalize Ip.lowered pattern.toList = entry at hlower hagain
  split
  · rfl
  · rename_i domain
    have hdomain : isAscii domain = true := isAscii_iff.2 fun c hc =>
      isAscii_iff.1 hlower c (List.mem_cons_of_mem _ hc)
    rw [canonicalAsciiHost_of_ascii hdomain]
    exact hagain
  · rw [canonicalAsciiHost_of_ascii hlower]
    exact hagain

/-- The entry is a dot and a domain, or has no dot in front, also in lower case. -/
theorem entry_cases (entry : List Char) :
    (∃ domain, entry = '.' :: domain ∧ Ip.lowered entry = '.' :: Ip.lowered domain) ∨
      entry.head? ≠ some '.' ∧ (Ip.lowered entry).head? ≠ some '.' := by
  cases entry with
  | nil => exact .inr ⟨by simp, by simp [Ip.lowered]⟩
  | cons c entry =>
    by_cases hdot : c = '.'
    · subst hdot
      exact .inl ⟨entry, rfl, rfl⟩
    · have hlower : c.toLower ≠ '.' := fun h => hdot ((Ip.toLower_eq_iff (by decide)).1 h)
      exact .inr ⟨by simpa using hdot, by simpa [Ip.lowered] using hlower⟩

/-- A host matches an entry exactly when it is one of the names that the entry stands for, in
    ASCII: what it only shares characters with does not match. -/
theorem hostMatches_iff_labels (host : List Char) (pattern : String) (asciiHost : isAscii host = true)
    (asciiPattern : isAscii pattern.toList = true) (nonempty : pattern ≠ "")
    (trimmed : strip pattern.toList = pattern.toList) :
    (hostMatchesStrict unicode rawHost host pattern = true ↔ StrictEntry host pattern.toList) ∧
      (hostMatchesPattern unicode rawHost host pattern = true ↔ PatternEntry host pattern.toList) := by
  have hne : Ip.lowered pattern.toList ≠ [] := by
    rwa [Ip.lowered, ne_eq, List.map_eq_nil_iff, String.toList_eq_nil_iff]
  rw [hostMatchesStrict, hostMatchesPattern, canonicalAsciiHost_of_ascii asciiHost,
    canonicalPattern_of_ascii asciiPattern trimmed]
  dsimp only
  rcases entry_cases pattern.toList with ⟨domain, hentry, hlower⟩ | ⟨hentry, hlower⟩
  · rw [hlower, hentry]
    simp only [StrictEntry, PatternEntry, isSubdomain_iff, labels_eq_iff, Bool.or_eq_true,
      decide_eq_true_eq, and_self]
  · generalize hpattern : pattern.toList = entry at hentry hlower hne
    have hstrict : StrictEntry host entry ↔ labels host = labels entry := by
      rw [StrictEntry.eq_def]
      split
      · exact absurd rfl hentry
      · rfl
    have hpatterns : PatternEntry host entry ↔ labels host = labels entry ∨ IsSubdomain host entry := by
      rw [PatternEntry.eq_def]
      split
      · exact absurd rfl hentry
      · rfl
    rw [hstrict, hpatterns, isSubdomain_iff, labels_eq_iff]
    generalize Ip.lowered entry = lowered at hlower hne
    constructor
    · split
      · exact absurd rfl hne
      · exact absurd rfl hlower
      · rw [decide_eq_true_eq]
    · split
      · exact absurd rfl hne
      · exact absurd rfl hlower
      · rw [Bool.or_eq_true, decide_eq_true_eq]

/-- The entry `.h.example` stands for `a.H.example`, and not for `ah.example`. -/
theorem hostMatches_iff_labels_subdomain :
    hostMatchesStrict .ascii (fun _ => none) "a.H.example".toList ".h.example" = true ∧
      hostMatchesPattern .ascii (fun _ => none) "ah.example".toList ".h.example" = false := by
  have hiff := fun host (h : isAscii host = true) =>
    @hostMatches_iff_labels .ascii (fun _ => none) host ".h.example" h (by decide +kernel)
      (by decide +kernel) (by decide +kernel)
  have hentry : ".h.example".toList = '.' :: "h.example".toList := by decide +kernel
  rw [hentry] at hiff
  constructor
  · refine (hiff _ (by decide +kernel)).1.2 (.inr ⟨["a".toList], ?_, ?_⟩)
    · exact List.cons_ne_nil _ _
    · decide +kernel
  · rw [← Bool.not_eq_true, (hiff _ (by decide +kernel)).2]
    rintro ⟨sub, hne, hlabels⟩
    have hhost : (labels "ah.example".toList).length = 2 := by decide +kernel
    have hdomain : (labels "h.example".toList).length = 2 := by decide +kernel
    have hpos := List.length_pos_iff.2 hne
    rw [hlabels, List.length_append, hdomain] at hhost
    omega

/-! ## Pins -/

/-- A host as `httpx` has it: ASCII, in lower case. -/
structure IsCanonicalHost (host : List Char) : Prop where
  ascii : isAscii host = true
  lower : Ip.lowered host = host

/-- Of two addresses of an answer, the first is tried before the second: an address of version 4
    before one of version 6, and else the one that is answered first. -/
def TriedBefore (infos : List (List Char)) (a b : List Char) : Prop :=
  isVersion 4 a = true ∧ isVersion 6 b = true ∨
    (∃ version, isVersion version a = true ∧ isVersion version b = true) ∧ infos.idxOf a < infos.idxOf b

theorem notMem_filter_isVersion {infos : List (List Char)} {a : List Char} (h : isVersion 6 a = true) :
    a ∉ infos.filter (isVersion 4) := by
  intro hmem
  have h4 := (List.mem_filter.1 hmem).2
  cases hip : Ip.address a with
  | none =>
    rw [isVersion, hip] at h
    cases h
  | some ip =>
    rw [isVersion_some hip, decide_eq_true_eq] at h h4
    omega

/-- The usable addresses of an answer stand in the order in which they are tried. -/
theorem pairwise_usableAddresses (infos : List (List Char)) :
    (usableAddresses infos).Pairwise (TriedBefore infos) := by
  refine (Distinct.pairwise_eraseDups _).imp_of_mem fun {a b} ha hb hlt => ?_
  rw [usableAddresses, List.mem_eraseDups, List.mem_append] at ha hb
  have hsame : ∀ version, isVersion version a = true → isVersion version b = true →
      (infos.filter (isVersion version)).idxOf a < (infos.filter (isVersion version)).idxOf b →
      TriedBefore infos a b := fun version hva hvb h =>
    .inr ⟨⟨version, hva, hvb⟩, (Distinct.idxOf_filter_lt_iff hva hvb infos).1 h⟩
  rcases ha with ha | ha
  · have hva := (List.mem_filter.1 ha).2
    rcases hb with hb | hb
    · rw [List.idxOf_append_of_mem ha, List.idxOf_append_of_mem hb] at hlt
      exact hsame 4 hva (List.mem_filter.1 hb).2 hlt
    · exact .inl ⟨hva, (List.mem_filter.1 hb).2⟩
  · have hva := (List.mem_filter.1 ha).2
    rw [List.idxOf_append_of_notMem (notMem_filter_isVersion hva)] at hlt
    rcases hb with hb | hb
    · rw [List.idxOf_append_of_mem hb] at hlt
      have hend := List.idxOf_lt_length_of_mem hb
      omega
    · have hvb := (List.mem_filter.1 hb).2
      rw [List.idxOf_append_of_notMem (notMem_filter_isVersion hvb)] at hlt
      exact hsame 6 hva hvb (by omega)

theorem nodup_usableAddresses (infos : List (List Char)) : (usableAddresses infos).Nodup :=
  (Distinct.pairwise_eraseDups _).imp fun hlt heq => absurd (heq ▸ hlt) (lt_irrefl _)

/-- When a request is pinned, and to what. -/
theorem pinRequest_eq_ok_iff {httpx : Httpx} {url : String} {parsed : HttpxUrl}
    {allowedHosts : List String} {pinned : PinnedRequest} (found : httpx.url url = some parsed)
    (https : parsed.scheme = "https".toList) (hosted : parsed.host ≠ [])
    (canonical : IsCanonicalHost parsed.rawHost) :
    pinRequest unicode rawHost getaddrinfo httpx url allowedHosts = .ok pinned ↔
      (allowedHosts ≠ [] →
        ∃ pattern ∈ allowedHosts, hostMatchesStrict unicode rawHost parsed.rawHost pattern = true) ∧
      ∃ infos, getaddrinfo parsed.rawHost = some infos ∧ Clear infos ∧ usableAddresses infos ≠ [] ∧
        pinned = ⟨(usableAddresses infos).map parsed.withHost,
          authorityForHeader parsed.rawHost parsed.port, parsed.rawHost⟩ := by
  have hweb : ¬(parsed.scheme ≠ "https".toList ∨ parsed.host = []) := by
    rw [not_or, not_not]
    exact ⟨https, hosted⟩
  -- A canonical host is looked up as it stands.
  have hcanonical : canonicalAsciiHost unicode rawHost parsed.rawHost = .ok parsed.rawHost := by
    rw [canonicalAsciiHost_of_ascii canonical.ascii, canonical.lower]
  have hallowed : (!allowedHosts.isEmpty &&
        !(allowedHosts.any (hostMatchesStrict unicode rawHost parsed.rawHost))) = true ↔
      ¬(allowedHosts ≠ [] →
        ∃ pattern ∈ allowedHosts, hostMatchesStrict unicode rawHost parsed.rawHost pattern = true) := by
    rw [Bool.and_eq_true, Bool.not_eq_true', Bool.not_eq_true', List.isEmpty_eq_false_iff,
      ← Bool.not_eq_true, List.any_eq_true, Classical.not_imp]
  rw [pinRequest, found]
  dsimp only
  rw [if_neg hweb]
  constructor
  · intro h
    split_ifs at h with hrefused
    · cases h
    · rw [hallowed, not_not] at hrefused
      obtain ⟨addresses, haddresses, h⟩ := exists_ok_of_bind h
      obtain ⟨canonical', infos, hhost, hinfos, hclear, hne, rfl⟩ :=
        resolvePinnedAddresses_eq_ok_iff.1 haddresses
      obtain rfl := Except.ok.inj (hcanonical.symm.trans hhost)
      exact ⟨hrefused, infos, hinfos, hclear, hne, (Except.ok.inj h).symm⟩
  · rintro ⟨hmatch, infos, hinfos, hclear, hne, rfl⟩
    have haddresses := resolvePinnedAddresses_eq_ok_iff.2
      ⟨_, infos, hcanonical, hinfos, hclear, hne, rfl⟩
    rw [if_neg (by rwa [hallowed, not_not]), haddresses]
    rfl

/-- A request is pinned, to an answer of the resolver, exactly when its host is allowed and the
    answer has an address and none that is blocked. It is then pinned to every address of the
    answer, once, in the order in which they are tried. -/
theorem pinRequest_all_or_nothing (httpx : Httpx) (url : String) (parsed : HttpxUrl)
    (allowedHosts : List String) (found : httpx.url url = some parsed)
    (https : parsed.scheme = "https".toList) (hosted : parsed.host ≠ [])
    (canonical : IsCanonicalHost parsed.rawHost) :
    ((∃ pinned, pinRequest unicode rawHost getaddrinfo httpx url allowedHosts = .ok pinned) ↔
      (allowedHosts ≠ [] →
        ∃ pattern ∈ allowedHosts, hostMatchesStrict unicode rawHost parsed.rawHost pattern = true) ∧
      ∃ infos, getaddrinfo parsed.rawHost = some infos ∧
        (∃ info ∈ infos, (Ip.address info).isSome = true) ∧
        ∀ info ∈ infos, ∀ ip, Ip.address info = some ip → ipIsBlocked ip = false) ∧
    ∀ pinned, pinRequest unicode rawHost getaddrinfo httpx url allowedHosts = .ok pinned →
      ∃ (infos addresses : List (List Char)), getaddrinfo parsed.rawHost = some infos ∧ addresses.Nodup ∧
        (∀ address, address ∈ addresses ↔ address ∈ infos ∧ (Ip.address address).isSome = true) ∧
        addresses.Pairwise (TriedBefore infos) ∧
        pinned = ⟨addresses.map parsed.withHost,
          authorityForHeader parsed.rawHost parsed.port, parsed.rawHost⟩ := by
  have husable : ∀ infos, usableAddresses infos ≠ [] ↔
      ∃ info ∈ infos, (Ip.address info).isSome = true := fun infos => by
    constructor
    · intro hne
      obtain ⟨address, haddress⟩ := List.exists_mem_of_ne_nil _ hne
      exact ⟨address, mem_usableAddresses.1 haddress⟩
    · rintro ⟨address, haddress⟩
      exact List.ne_nil_of_mem (mem_usableAddresses.2 haddress)
  constructor
  · constructor
    · rintro ⟨pinned, hpinned⟩
      obtain ⟨hmatch, infos, hinfos, hclear, hne, -⟩ :=
        (pinRequest_eq_ok_iff found https hosted canonical).1 hpinned
      exact ⟨hmatch, infos, hinfos, (husable infos).1 hne, hclear⟩
    · rintro ⟨hmatch, infos, hinfos, haddress, hclear⟩
      exact ⟨_, (pinRequest_eq_ok_iff found https hosted canonical).2
        ⟨hmatch, infos, hinfos, hclear, (husable infos).2 haddress, rfl⟩⟩
  · intro pinned hpinned
    obtain ⟨-, infos, hinfos, -, -, rfl⟩ := (pinRequest_eq_ok_iff found https hosted canonical).1 hpinned
    exact ⟨infos, usableAddresses infos, hinfos, nodup_usableAddresses infos,
      fun _ => mem_usableAddresses, pairwise_usableAddresses infos, rfl⟩

namespace Sample

/-- The URL of an export, as `httpx` finds it, where addresses of version 6 are put in brackets. -/
def dualUrl : HttpxUrl where
  scheme := "https".toList
  host := "export.example".toList
  rawHost := "export.example".toList
  port := none
  withHost host :=
    "https://" ++ String.ofList (if ':' ∈ host then '[' :: host ++ [']'] else host) ++ "/a.png"

def dualHttpx : Httpx where
  url url := if url = "https://export.example/a.png" then some dualUrl else none
  join _ _ := .error .valueError
  rawHost _ := none

/-- A resolver of every host to addresses of both versions, one of them twice. -/
def dualStack (_ : List Char) : Option (List (List Char)) :=
  some ["2606:4700::1111".toList, "93.184.216.34".toList, "export".toList, "93.184.216.34".toList]

end Sample

/-- An export on a host of both versions is pinned to either address, that of version 4 first. -/
theorem pinRequest_all_or_nothing_dualStack :
    ∃ (pinned : PinnedRequest) (infos addresses : List (List Char)),
      pinRequest .ascii Sample.dualHttpx.rawHost Sample.dualStack Sample.dualHttpx
        "https://export.example/a.png" [".example"] = .ok pinned ∧
      pinned.urls = ["https://93.184.216.34/a.png", "https://[2606:4700::1111]/a.png"] ∧
      addresses.Pairwise (TriedBefore infos) ∧ pinned.urls = addresses.map Sample.dualUrl.withHost := by
  have hpin := @pinRequest_all_or_nothing .ascii Sample.dualHttpx.rawHost Sample.dualStack
    Sample.dualHttpx "https://export.example/a.png" Sample.dualUrl [".example"] rfl rfl
    (by decide +kernel) ⟨by decide +kernel, by decide +kernel⟩
  have hpinned : pinRequest .ascii Sample.dualHttpx.rawHost Sample.dualStack Sample.dualHttpx
      "https://export.example/a.png" [".example"] =
        .ok ⟨["https://93.184.216.34/a.png", "https://[2606:4700::1111]/a.png"],
          "export.example".toList, "export.example".toList⟩ := by
    decide +kernel
  obtain ⟨infos, addresses, -, -, -, hordered, hurls⟩ := hpin.2 _ hpinned
  exact ⟨_, infos, addresses, hpinned, rfl, hordered, congrArg PinnedRequest.urls hurls⟩

end Broker
