import Broker.Lib.Parts
import Broker.ClientHost
import Broker.World

/-!
# Hops

The chain of hops that proxies report in `x-forwarded-for`, and the client that is
resolved from it: the last hop that is no trusted proxy.

What stands in front of such a hop is not looked at, so the client cannot be spoofed
from the left (`client_not_spoofed`). The chain is read from the first line of the header
alone, though: sent as several lines it resolves to the same client only if the later
lines have nothing to add (`lines_irrelevant_iff`).
-/

namespace Broker

open Py

/-! ## Chains -/

/-- The hops of a header value, in order. -/
def hops (raw : String) : List String :=
  ((strippedParts ',' raw.toList).map String.ofList).filter (· ≠ "")

/-- The last hop that is no trusted proxy. -/
def lastUntrusted (trustedProxies : List String) (chain : List String) : Option String :=
  chain.reverse.find? fun hop => !hostMatchesTrustedProxy hop trustedProxies

theorem clientIp_eq (raw : String) (trustedProxies : List String) :
    clientIpFromXForwardedFor raw trustedProxies = lastUntrusted trustedProxies (hops raw) := by
  rw [clientIpFromXForwardedFor, hops, strippedParts, List.map_map]
  rfl

theorem hops_comma (p s : String) : hops (p ++ "," ++ s) = hops p ++ hops s := by
  have hcomma : (p ++ "," ++ s).toList = p.toList ++ ',' :: s.toList := by simp
  rw [hops, hcomma, strippedParts_append, List.map_append, List.filter_append]
  rfl

theorem hops_strip (raw : String) : hops (String.ofList (strip raw.toList)) = hops raw := by
  rw [hops, String.toList_ofList, strippedParts_strip (by decide)]
  rfl

theorem hops_empty : hops "" = [] := by decide

/-- The last untrusted hop of a chain is in its later part, if that has any. -/
theorem lastUntrusted_append (trustedProxies chain chain' : List String) :
    lastUntrusted trustedProxies (chain ++ chain') =
      (lastUntrusted trustedProxies chain').or (lastUntrusted trustedProxies chain) := by
  rw [lastUntrusted, List.reverse_append, List.find?_append]
  rfl

theorem lastUntrusted_isSome {trustedProxies chain : List String} {hop : String} (hmem : hop ∈ chain)
    (huntrusted : hostMatchesTrustedProxy hop trustedProxies = false) :
    (lastUntrusted trustedProxies chain).isSome = true := by
  rw [lastUntrusted, List.find?_isSome]
  exact ⟨hop, List.mem_reverse.2 hmem, by rw [huntrusted]; rfl⟩

/-! ## Resolution -/

/-- A peer that is not trusted is the client itself. -/
theorem client_of_untrusted {config : RouteConfig} {request : HttpRequest}
    (untrusted : hostMatchesTrustedProxy (request.client.getD "") config.trustedProxyHosts = false) :
    clientHost config request =
      if request.client.getD "" = "" then "unknown" else request.client.getD "" := by
  rw [clientHost, resolveClientHost]
  dsimp only
  rw [untrusted, Bool.and_false, Bool.false_and, if_neg Bool.false_ne_true, Option.getD_none]

/-- Behind a trusted proxy, the client is the last untrusted hop of the header, or the proxy
    when there is none. -/
theorem client_of_trusted {config : RouteConfig} {request : HttpRequest}
    (mode : config.clientIpHeader = "x-forwarded-for")
    (trusted : hostMatchesTrustedProxy (request.client.getD "") config.trustedProxyHosts = true) :
    clientHost config request =
      (lastUntrusted config.trustedProxyHosts
        (hops ((request.header "x-forwarded-for").getD ""))).getD (request.client.getD "") := by
  have hpeer : request.client.getD "" ≠ "" := by
    intro hempty
    rw [hempty] at trusted
    cases trusted
  have hname : ¬"x-forwarded-for" = "" := by decide
  rw [← hops_strip, ← clientIp_eq, clientHost, resolveClientHost]
  dsimp only
  rw [mode, trusted, if_neg hname, if_neg hpeer]
  generalize String.ofList (strip ((request.header "x-forwarded-for").getD "").toList) = raw
  by_cases hraw : raw = ""
  · subst hraw
    have habsent : decide ("" ≠ "") = false := by decide
    rw [clientIp_eq, hops_empty, habsent, Bool.and_false, if_neg Bool.false_ne_true]
    rfl
  · simp only [ne_eq, hname, hpeer, hraw, not_false_eq_true, decide_true, Bool.and_self, if_true]

/-- The client cannot be spoofed: without a trusted proxy it is the peer, whatever the headers
    are, and behind one it is found at the right of the chain, whatever stands in front. -/
theorem client_not_spoofed (config : RouteConfig) (client : Option String) :
    (hostMatchesTrustedProxy (client.getD "") config.trustedProxyHosts = false →
      ∀ header, clientHost config ⟨client, header⟩ =
        if client.getD "" = "" then "unknown" else client.getD "") ∧
    (config.clientIpHeader = "x-forwarded-for" →
      hostMatchesTrustedProxy (client.getD "") config.trustedProxyHosts = true →
      ∀ p s, (∃ hop ∈ hops s, hostMatchesTrustedProxy hop config.trustedProxyHosts = false) →
      ∀ header header', header "x-forwarded-for" = some (p ++ "," ++ s) →
        header' "x-forwarded-for" = some s →
        clientHost config ⟨client, header⟩ = clientHost config ⟨client, header'⟩) := by
  refine ⟨fun untrusted header => client_of_untrusted untrusted, ?_⟩
  rintro mode trusted p s ⟨hop, hmem, huntrusted⟩ header header' hheader hheader'
  rw [client_of_trusted mode trusted, client_of_trusted mode trusted]
  dsimp only
  rw [hheader, hheader', Option.getD_some, Option.getD_some, hops_comma, lastUntrusted_append]
  obtain ⟨last, hlast⟩ := Option.isSome_iff_exists.1 (lastUntrusted_isSome hmem huntrusted)
  rw [hlast, Option.some_or]

/-! ## Lines -/

/-- A request with these lines of headers, of which `headers.get` returns the first. -/
def requestOfLines (client : Option String) (lines : String → List String) : HttpRequest :=
  ⟨client, fun name => (lines name).head?⟩

/-- The lines of a header, joined to one. -/
def joined (lines : String → List String) (name : String) : List String :=
  [String.intercalate "," (lines name)]

/-- A chain has the hops of the lines it is joined from. -/
theorem hops_intercalate (lines : List String) :
    hops (String.intercalate "," lines) = lines.flatMap hops := by
  induction lines with
  | nil => exact hops_empty
  | cons line lines ih =>
    rcases eq_or_ne lines [] with rfl | hne
    · rw [String.intercalate_singleton, List.flatMap_cons, List.flatMap_nil, List.append_nil]
    · rw [String.intercalate_cons_of_ne_nil hne, hops_comma, ih, List.flatMap_cons]

/-- Behind a trusted proxy, a chain that is sent as several lines resolves to the same client
    as on one line exactly when the later lines have no untrusted hop, or the last of them is
    that of the first line, or the proxy when the first line has none. -/
theorem lines_irrelevant_iff (config : RouteConfig) (client : Option String)
    (lines : String → List String) (first : String) (rest : List String)
    (mode : config.clientIpHeader = "x-forwarded-for")
    (trusted : hostMatchesTrustedProxy (client.getD "") config.trustedProxyHosts = true)
    (sent : lines "x-forwarded-for" = first :: rest) :
    clientHost config (requestOfLines client lines) =
        clientHost config (requestOfLines client (joined lines)) ↔
      ∀ hop, lastUntrusted config.trustedProxyHosts (rest.flatMap hops) = some hop →
        hop = (lastUntrusted config.trustedProxyHosts (hops first)).getD (client.getD "") := by
  rw [client_of_trusted mode trusted, client_of_trusted mode trusted]
  dsimp only [requestOfLines, joined]
  rw [sent, List.head?_cons, List.head?_cons, Option.getD_some, Option.getD_some, hops_intercalate,
    List.flatMap_cons, lastUntrusted_append]
  cases lastUntrusted config.trustedProxyHosts (rest.flatMap hops) with
  | none =>
    rw [Option.none_or]
    simp
  | some last =>
    rw [Option.some_or, Option.getD_some]
    constructor
    · intro h hop hhop
      rw [← Option.some.inj hhop, h]
    · exact fun h => (h last rfl).symm

/-! ## Sample chains -/

namespace Sample

/-- A deployment behind proxies at 10.0.0.0/8 that report the chain of hops. -/
def proxied : RouteConfig where
  toAppConfig := config
  clientIpHeader := "x-forwarded-for"
  trustedProxyHosts := ["10.0.0.0/8"]
  clientId := "canva-client"
  ssoSystemKey := "canva"

/-- The lines of a request: the one that the client sends, and the one that a proxy adds. -/
def spoofed (name : String) : List String :=
  if name = "x-forwarded-for" then ["198.51.100.7", "203.0.113.10, 10.0.0.5"] else []

/-- The lines of a request whose later lines are trusted hops, then the client once more. -/
def repeated (name : String) : List String :=
  if name = "x-forwarded-for" then
    ["198.51.100.7, 203.0.113.10", "10.0.0.5, 10.0.0.7", "198.51.100.9, 203.0.113.10, 10.0.0.5"]
  else []

theorem trusted_peer : hostMatchesTrustedProxy "10.0.0.6" proxied.trustedProxyHosts = true := by
  decide +kernel

end Sample

/-- Behind the proxy 10.0.0.6, the client is 203.0.113.10, also when it sends a chain of its own. -/
theorem client_not_spoofed_behind_proxy :
    clientHost Sample.proxied ⟨some "10.0.0.6", fun _ => some "10.0.0.9,,198.51.100.7,203.0.113.10"⟩ =
        "203.0.113.10" ∧
      clientHost Sample.proxied ⟨some "192.0.2.1", fun _ => some "203.0.113.10"⟩ = "192.0.2.1" := by
  have huntrusted : ∀ host ∈ ["203.0.113.10", "192.0.2.1"],
      hostMatchesTrustedProxy host Sample.proxied.trustedProxyHosts = false := by decide +kernel
  constructor
  · refine ((client_not_spoofed Sample.proxied (some "10.0.0.6")).2 rfl Sample.trusted_peer
      "10.0.0.9,,198.51.100.7" "203.0.113.10" ⟨"203.0.113.10", by decide, ?_⟩ _
      (fun _ => some "203.0.113.10") rfl rfl).trans (by decide +kernel)
    exact huntrusted _ List.mem_cons_self
  · exact (client_not_spoofed Sample.proxied (some "192.0.2.1")).1
      (huntrusted _ (List.mem_cons_of_mem _ List.mem_cons_self)) _

/-- Later lines whose last untrusted hop is that of the first line change nothing. -/
theorem lines_irrelevant_iff_repeated :
    clientHost Sample.proxied (requestOfLines (some "10.0.0.6") Sample.repeated) =
      clientHost Sample.proxied (requestOfLines (some "10.0.0.6") (joined Sample.repeated)) := by
  refine (lines_irrelevant_iff Sample.proxied (some "10.0.0.6") Sample.repeated _ _ rfl
    Sample.trusted_peer rfl).2 fun hop hlast => ?_
  have hlater : lastUntrusted Sample.proxied.trustedProxyHosts
      (["10.0.0.5, 10.0.0.7", "198.51.100.9, 203.0.113.10, 10.0.0.5"].flatMap hops) =
        some "203.0.113.10" := by decide +kernel
  have hfirst : lastUntrusted Sample.proxied.trustedProxyHosts (hops "198.51.100.7, 203.0.113.10") =
      some "203.0.113.10" := by decide +kernel
  rw [hlater, Option.some.injEq] at hlast
  rw [hfirst, Option.getD_some, hlast]

/-- The line that the client sends is taken for the chain, although a proxy has added where the
    request comes from. -/
theorem spoofed_line_resolved :
    clientHost Sample.proxied (requestOfLines (some "10.0.0.6") Sample.spoofed) = "198.51.100.7" ∧
      clientHost Sample.proxied (requestOfLines (some "10.0.0.6") (joined Sample.spoofed)) =
        "203.0.113.10" := by
  decide +kernel

end Broker
