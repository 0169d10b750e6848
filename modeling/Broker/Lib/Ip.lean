import Broker.Lib.Text

/-!
# IP addresses

The parsing and the compressed text of IP addresses, as Python's `ipaddress`
has them, and its classes of special addresses.

* `Ip.address` parses an address, or fails with what Python raises as a
  `ValueError`; IPv6 addresses may end in four octets and carry a scope;
* `Address.compressed` writes it back: dotted octets, or hextets with their
  longest run of zeros elided;
* `network` parses a network, with a prefix length or a mask;
* `Address.isPrivate` and its siblings test for the special networks.
-/

namespace Ip

open Py

/-- An IP address. -/
inductive Address
  | v4 (ip : ℕ)
  | v6 (ip : ℕ) (scopeId : Option (List Char))
  deriving DecidableEq, Repr

/-- The address without its scope. -/
def Address.unscoped : Address → Address
  | v4 ip => v4 ip
  | v6 ip _ => v6 ip none

/-! ## Parsing -/

/-- `_parse_octet`. -/
def parseOctet (s : List Char) : Option ℕ :=
  if s.isEmpty || !s.all isDigit || s.length > 3 || (s ≠ ['0'] && s.head? = some '0') then none
  else
    (natOfDigits s).bind fun octet => if octet > 255 then none else some octet

/-- The IPv4 address of a string. -/
def parseV4 (s : List Char) : Option ℕ := do
  let octets := s.splitOn '.'
  if octets.length ≠ 4 then none
  else return (← octets.mapM parseOctet).foldl (fun ip octet => ip * 256 + octet) 0

/-- `_parse_hextet`. -/
def parseHextet (s : List Char) : Option ℕ :=
  if s.isEmpty || s.length > 4 then none
  else (s.mapM hexDigit?).map fun digits => digits.foldl (fun n d => n * 16 + d) 0

/-- `'%x' % n`. -/
def hex (n : ℕ) : List Char := Nat.toDigits 16 n

/-- The hextets of a string, those of a final IPv4 address included. -/
def hextets (s : List Char) : Option (List (List Char)) :=
  let parts := s.splitOn ':'
  if parts.length < 3 then none
  else
    let last := parts.getLastD []
    if last.contains '.' then
      (parseV4 last).map fun ip => parts.dropLast ++ [hex (ip / 0x10000), hex (ip % 0x10000)]
    else some parts

/-- The numbers of hextets before and after the elided ones, whose number comes
    between them. -/
def hextetCounts (parts : List (List Char)) : Option (ℕ × ℕ × ℕ) :=
  let leading := (parts.headD []).isEmpty
  let trailing := (parts.getLastD []).isEmpty
  let inner := (List.range parts.length).filter fun i =>
    1 ≤ i && i + 1 < parts.length && (parts.getD i []).isEmpty
  match inner with
  | [] => if parts.length ≠ 8 || leading || trailing then none else some (8, 0, 0)
  | [skipIndex] =>
    let hi := if leading then skipIndex - 1 else skipIndex
    let lo := if trailing then parts.length - skipIndex - 2 else parts.length - skipIndex - 1
    if (leading && hi ≠ 0) || (trailing && lo ≠ 0) || hi + lo > 7 then none
    else some (hi, 8 - (hi + lo), lo)
  | _ => none

/-- The IPv6 address of a string without a scope. -/
def parseV6 (s : List Char) : Option ℕ := do
  let parts ← hextets s
  if parts.length > 9 then none
  else
    let (hi, skipped, lo) ← hextetCounts parts
    let high ← (parts.take hi).mapM parseHextet
    let low ← (parts.drop (parts.length - lo)).mapM parseHextet
    return (high ++ List.replicate skipped 0 ++ low).foldl (fun ip h => ip * 0x10000 + h) 0

/-- `ip_address`, none for a `ValueError`. -/
def address (s : List Char) : Option Address :=
  if s.contains '/' then none
  else
    match parseV4 s with
    | some ip => some (.v4 ip)
    | none =>
      match partition '%' s with
      | (addr, false, _) => (parseV6 addr).map fun ip => .v6 ip none
      | (addr, true, scopeId) =>
        if scopeId.isEmpty || scopeId.contains '%' then none
        else (parseV6 addr).map fun ip => .v6 ip (some scopeId)

/-! ## Text -/

/-- The scan of `_compress_hextets` for the longest run of zeros: the start and
    the length of the best run so far and of the current one. -/
structure ZeroRun where
  bestStart : ℕ
  bestLength : ℕ
  start : ℕ
  length : ℕ

/-- One step of the scan: the hextet at `index`. -/
def ZeroRun.step (r : ZeroRun) (index hextet : ℕ) : ZeroRun :=
  if hextet = 0 then
    let start := if r.length = 0 then index else r.start
    if r.length + 1 > r.bestLength then ⟨start, r.length + 1, start, r.length + 1⟩
    else { r with start, length := r.length + 1 }
  else { r with start := 0, length := 0 }

/-- `_compress_hextets`, on the values of the hextets. -/
def compressHextets (hs : List ℕ) : List (List Char) :=
  let run := hs.zipIdx.foldl (fun (r : ZeroRun) i => r.step i.2 i.1) ⟨0, 0, 0, 0⟩
  let text := hs.map hex
  if run.bestLength > 1 then
    let stop := run.bestStart + run.bestLength
    (if run.bestStart = 0 then [[]] else []) ++ text.take run.bestStart ++ [[]] ++
      text.drop stop ++ (if stop = hs.length then [[]] else [])
  else text

/-- `Address.compressed`. -/
def Address.compressed : Address → List Char
  | v4 ip =>
    ['.'].intercalate ([ip / 0x1000000, ip / 0x10000 % 256, ip / 256 % 256, ip % 256].map
      (Nat.toDigits 10))
  | v6 ip scopeId =>
    let hs := (List.range 8).map fun i => ip / 0x10000 ^ (7 - i) % 0x10000
    [':'].intercalate (compressHextets hs) ++ (scopeId.elim [] fun s => '%' :: s)

example :
    (address "2606:4700:0:0:0::1111".toList).map (fun a => String.ofList a.compressed) =
      some "2606:4700::1111" ∧
    (address "::ffff:1.2.3.4".toList).map (fun a => String.ofList a.compressed) =
      some "::ffff:102:304" := by decide +kernel

/-! ## Networks -/

/-- The network of the addresses of `width` bits that share the first `len` bits
    of `base`. -/
structure Network (width : ℕ) where
  base : ℕ
  len : ℕ

/-- `ip in network`. -/
def Network.contains {width : ℕ} (net : Network width) (ip : ℕ) : Bool :=
  ip / 2 ^ (width - net.len) = net.base / 2 ^ (width - net.len)

/-- A network of either version. -/
inductive AnyNetwork
  | v4 (net : Network 32)
  | v6 (net : Network 128)

/-- `address in network`. -/
def AnyNetwork.contains : AnyNetwork → Address → Bool
  | v4 net, .v4 ip => net.contains ip
  | v6 net, .v6 ip _ => net.contains ip
  | _, _ => false

/-- `_prefix_from_prefix_string`. -/
def prefixLength (width : ℕ) (s : List Char) : Option ℕ :=
  if s.isEmpty || !s.all isDigit then none
  else (natOfDigits s).bind fun len => if len ≤ width then some len else none

/-- `_prefix_from_ip_int`: the length of the prefix whose netmask the address is. -/
def netmaskLength (ip : ℕ) : Option ℕ :=
  (List.range 33).find? fun len => ip = 2 ^ 32 - 2 ^ (32 - len)

/-- `_prefix_from_ip_string`: of a netmask or a host mask. -/
def maskLength (s : List Char) : Option ℕ :=
  (parseV4 s).bind fun ip => (netmaskLength ip).or (netmaskLength (2 ^ 32 - 1 - ip))

/-- `ip_network` with `strict` false, none for a `ValueError`. -/
def network (s : List Char) : Option AnyNetwork :=
  match s.splitOn '/' with
  | [addr] =>
    (address addr).map fun
      | .v4 ip => .v4 ⟨ip, 32⟩
      | .v6 ip _ => .v6 ⟨ip, 128⟩
  | [addr, mask] =>
    match address addr with
    | some (.v4 ip) => ((prefixLength 32 mask).or (maskLength mask)).map fun len => .v4 ⟨ip, len⟩
    | some (.v6 ip _) => (prefixLength 128 mask).map fun len => .v6 ⟨ip, len⟩
    | none => none
  | _ => none

example :
    ((network "10.1.2.3/255.0.0.0".toList).bind fun net =>
      (address "10.9.9.9".toList).map net.contains) = some true ∧
    ((network "fd00::/8".toList).bind fun net =>
      (address "fe00::1".toList).map net.contains) = some false := by decide +kernel

/-! ## Special networks -/

/-- The IPv4 network `a.b.c.d/len`. -/
def v4Network (a b c d len : ℕ) : Network 32 := ⟨((a * 256 + b) * 256 + c) * 256 + d, len⟩

/-- The IPv6 network of an address whose first hextets are these, and the others zero. -/
def v6Network (hextets : List ℕ) (len : ℕ) : Network 128 :=
  ⟨hextets.foldl (fun ip h => ip * 0x10000 + h) 0 * 0x10000 ^ (8 - hextets.length), len⟩

/-- `_IPv4Constants._private_networks`. -/
def v4PrivateNetworks : List (Network 32) :=
  [v4Network 0 0 0 0 8, v4Network 10 0 0 0 8, v4Network 127 0 0 0 8, v4Network 169 254 0 0 16,
    v4Network 172 16 0 0 12, v4Network 192 0 0 0 24, v4Network 192 0 0 170 31,
    v4Network 192 0 2 0 24, v4Network 192 168 0 0 16, v4Network 198 18 0 0 15,
    v4Network 198 51 100 0 24, v4Network 203 0 113 0 24, v4Network 240 0 0 0 4,
    v4Network 255 255 255 255 32]

/-- `_IPv4Constants._private_networks_exceptions`. -/
def v4PrivateExceptions : List (Network 32) := [v4Network 192 0 0 9 32, v4Network 192 0 0 10 32]

/-- `_IPv6Constants._private_networks`. -/
def v6PrivateNetworks : List (Network 128) :=
  [v6Network [0, 0, 0, 0, 0, 0, 0, 1] 128, v6Network [] 128,
    v6Network [0, 0, 0, 0, 0, 0xffff] 96, v6Network [0x64, 0xff9b, 1] 48, v6Network [0x100] 64,
    v6Network [0x2001] 23, v6Network [0x2001, 0xdb8] 32, v6Network [0x2002] 16,
    v6Network [0xfc00] 7, v6Network [0xfe80] 10]

/-- `_IPv6Constants._private_networks_exceptions`. -/
def v6PrivateExceptions : List (Network 128) :=
  [v6Network [0x2001, 1, 0, 0, 0, 0, 0, 1] 128, v6Network [0x2001, 1, 0, 0, 0, 0, 0, 2] 128,
    v6Network [0x2001, 3] 32, v6Network [0x2001, 4, 0x112] 48, v6Network [0x2001, 0x20] 28,
    v6Network [0x2001, 0x30] 28]

/-- `_IPv6Constants._reserved_networks`. -/
def v6ReservedNetworks : List (Network 128) :=
  [v6Network [] 8, v6Network [0x100] 8, v6Network [0x200] 7, v6Network [0x400] 6,
    v6Network [0x800] 5, v6Network [0x1000] 4, v6Network [0x4000] 3, v6Network [0x6000] 3,
    v6Network [0x8000] 3, v6Network [0xa000] 3, v6Network [0xc000] 3, v6Network [0xe000] 4,
    v6Network [0xf000] 5, v6Network [0xf800] 6, v6Network [0xfe00] 9]

/-- `IPv4Address.is_private`. -/
def v4IsPrivate (ip : ℕ) : Bool :=
  v4PrivateNetworks.any (·.contains ip) && v4PrivateExceptions.all (!·.contains ip)

namespace Address

/-- `is_private`: an IPv4-mapped address is what the IPv4 address is. -/
def isPrivate : Address → Bool
  | v4 ip => v4IsPrivate ip
  | v6 ip _ =>
    if ip / 2 ^ 32 = 0xffff then v4IsPrivate (ip % 2 ^ 32)
    else v6PrivateNetworks.any (·.contains ip) && v6PrivateExceptions.all (!·.contains ip)

/-- `is_global`. -/
def isGlobal : Address → Bool
  | v4 ip => !(v4Network 100 64 0 0 10).contains ip && !v4IsPrivate ip
  | v6 ip scopeId => !(v6 ip scopeId).isPrivate

/-- `is_loopback`. -/
def isLoopback : Address → Bool
  | v4 ip => (v4Network 127 0 0 0 8).contains ip
  | v6 ip _ => ip = 1

/-- `is_link_local`. -/
def isLinkLocal : Address → Bool
  | v4 ip => (v4Network 169 254 0 0 16).contains ip
  | v6 ip _ => (v6Network [0xfe80] 10).contains ip

/-- `is_reserved`. -/
def isReserved : Address → Bool
  | v4 ip => (v4Network 240 0 0 0 4).contains ip
  | v6 ip _ => v6ReservedNetworks.any (·.contains ip)

/-- `is_multicast`. -/
def isMulticast : Address → Bool
  | v4 ip => (v4Network 224 0 0 0 4).contains ip
  | v6 ip _ => (v6Network [0xff00] 8).contains ip

/-- `is_unspecified`. -/
def isUnspecified : Address → Bool
  | v4 ip => ip = 0
  | v6 ip _ => ip = 0

/-- `is_site_local`, of IPv6 addresses only. -/
def isSiteLocal : Address → Bool
  | v4 _ => false
  | v6 ip _ => (v6Network [0xfec0] 10).contains ip

end Address

end Ip
