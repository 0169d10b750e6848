import Broker.Config
import Broker.Lib.Ip

/-!
# The client of a request

The client address that the routes go by (`resolveClientHost`): what a header
of the request says, if the request comes from a trusted proxy, and the address
of the transport peer otherwise.
-/

namespace Broker

open Py

/-- What the routes read of a request: the transport peer, and the first value
    of a header. -/
structure HttpRequest where
  client : Option String
  header : String → Option String

/-! ## Trusted proxies -/

/-- Whether an address is that of a pattern: a network, an address or, when it is
    neither, the spelling of the host. -/
def matchesPattern (address : Ip.Address) (host pattern : String) : Bool :=
  if pattern = "" then false
  else if pattern.toList.contains '/' then
    (Ip.network pattern.toList).elim (host = pattern) fun net => net.contains address
  else (Ip.address pattern.toList).elim (host = pattern) fun other => address = other

/-- `host_matches_trusted_proxy`. -/
def hostMatchesTrustedProxy (host : String) (patterns : List String) : Bool :=
  if host = "" then false
  else
    match Ip.address host.toList with
    | none => patterns.contains host
    | some address => patterns.any (matchesPattern address host)

/-- `client_ip_from_x_forwarded_for`: the last hop that is not a trusted proxy. -/
def clientIpFromXForwardedFor (raw : String) (trustedProxies : List String) : Option String :=
  let hops := (raw.toList.splitOn ',').map fun part => String.ofList (strip part)
  (hops.filter (· ≠ "")).reverse.find? fun hop => !hostMatchesTrustedProxy hop trustedProxies

/-! ## Resolution -/

structure ClientHostResolution where
  host : String
  transportPeer : String
  clientIpHeader : String
  headerTrusted : Bool
  headerPresent : Bool
  deriving DecidableEq, Repr

/-- `resolve_client_host`. -/
def resolveClientHost (config : RouteConfig) (request : HttpRequest) : ClientHostResolution :=
  let peer := request.client.getD ""
  let headerName := config.clientIpHeader
  let trustedProxies := config.trustedProxyHosts
  let rawHeader :=
    if headerName = "" then ""
    else String.ofList (strip ((request.header headerName).getD "").toList)
  let headerPresent := rawHeader ≠ ""
  let headerTrusted :=
    headerName ≠ "" && peer ≠ "" && hostMatchesTrustedProxy peer trustedProxies
  let resolved :=
    if headerTrusted && headerPresent then
      if headerName = "x-forwarded-for" then clientIpFromXForwardedFor rawHeader trustedProxies
      else some rawHeader
    else none
  { host := resolved.getD (if peer = "" then "unknown" else peer)
    transportPeer := peer
    clientIpHeader := headerName
    headerTrusted
    headerPresent }

/-- `client_host`. -/
def clientHost (config : RouteConfig) (request : HttpRequest) : String :=
  (resolveClientHost config request).host

end Broker
