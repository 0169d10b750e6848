import Broker.Lib.Ip

/-!
# URLs

Python's `urllib.parse`: the splitting of a URL into components and back
(`urlparse`, `ParseResult.geturl`), its host and port, and the query strings of
`parse_qsl` and `urlencode`, whose text is quoted as UTF-8 bytes.

A URL that does not parse raises a `ValueError`, here none.
-/

namespace Url

open Py

/-- The components of a URL. -/
structure ParseResult where
  scheme : List Char
  netloc : List Char
  path : List Char
  params : List Char
  query : List Char
  fragment : List Char
  deriving DecidableEq, Repr

/-! ## Splitting -/

/-- The characters of a scheme. -/
def isSchemeChar (c : Char) : Bool := isLetter c || isDigit c || ['+', '-', '.'].contains c

/-- The schemes that have parameters (`uses_params`). -/
def usesParams : List String :=
  ["", "ftp", "hdl", "prospero", "http", "imap", "https", "shttp", "rtsp", "rtsps", "rtspu",
    "sip", "sips", "mms", "sftp", "tel"]

/-- The schemes that have an authority (`uses_netloc`). -/
def usesNetloc : List String :=
  ["", "ftp", "http", "gopher", "nntp", "telnet", "imap", "wais", "file", "mms", "https", "shttp",
    "snews", "prospero", "rtsp", "rtsps", "rtspu", "rsync", "svn", "svn+ssh", "sftp", "nfs", "git",
    "git+ssh", "ws", "wss"]

/-- The URL without leading controls and blanks, and without tabs and newlines. -/
def sanitize (url : List Char) : List Char :=
  (url.dropWhile (·.toNat ≤ 0x20)).filter fun c => !(['\t', '\r', '\n'].contains c)

/-- Splits the scheme from the rest of the URL. -/
def splitScheme (url : List Char) : List Char × List Char :=
  match partition ':' url with
  | (scheme, true, rest) =>
    if (scheme.head?.any isLetter) && scheme.all isSchemeChar then (scheme.map Char.toLower, rest)
    else ([], url)
  | _ => ([], url)

/-- `_check_bracketed_host`: an IPv6 address, or a future one. -/
def checkBracketedHost (host : List Char) : Bool :=
  match host with
  | 'v' :: rest =>
    let digits := rest.takeWhile fun c => (hexDigit? c).isSome
    match rest.drop digits.length with
    -- The dot of `.+` does not match a newline; `sanitize` has removed them.
    | '.' :: _ :: _ => !digits.isEmpty
    | _ => false
  | _ =>
    match Ip.address host with
    | some (.v6 _ _) => true
    | _ => false

/-- `_checknetloc`: no delimiter appears under the NFKC normalisation. -/
def checkNetloc (unicode : Unicode) (netloc : List Char) : Bool :=
  netloc.isEmpty || isAscii netloc ||
    let n := netloc.filter fun c => !(['@', ':', '#', '?'].contains c)
    let n' := unicode.nfkc n
    n = n' || !(['/', '?', '#', '@', ':'].any n'.contains)

/-- `_check_bracketed_netloc`: nothing is before the bracket, and a port at most
    after it. -/
def checkBracketedNetloc (netloc : List Char) : Bool :=
  let info := (rpartition '@' netloc).2.2
  match partition '[' info with
  | (before, true, bracketed) =>
    let (host, _, port) := partition ']' bracketed
    before.isEmpty && (port.isEmpty || startsWith port [':']) && checkBracketedHost host
  | (_, false, _) => checkBracketedHost (partition ':' info).1

/-- The brackets of the authority, when it has any, hold an address. -/
def bracketsValid (netloc : List Char) : Bool :=
  match netloc.contains '[', netloc.contains ']' with
  | false, false => true
  | true, true => checkBracketedNetloc netloc
  | _, _ => false

/-- Splits the authority from the rest of the URL. -/
def splitNetloc (url : List Char) : List Char × List Char :=
  match url with
  | '/' :: '/' :: rest =>
    (rest.takeWhile fun c => !(['/', '?', '#'].contains c),
      rest.dropWhile fun c => !(['/', '?', '#'].contains c))
  | _ => ([], url)

/-- `_splitparams`: the parameters of the last segment of the path. -/
def splitParams (path : List Char) : List Char × List Char :=
  let (head, slash, last) := rpartition '/' path
  match partition ';' last with
  | (segment, true, params) => (if slash then head ++ '/' :: segment else segment, params)
  | (_, false, _) => (path, [])

/-- `urlparse`. -/
def urlparse (unicode : Unicode) (url : String) : Option ParseResult :=
  let (scheme, url) := splitScheme (sanitize url.toList)
  let (netloc, url) := splitNetloc url
  let (url, _, fragment) := partition '#' url
  let (path, _, query) := partition '?' url
  if bracketsValid netloc && checkNetloc unicode netloc then
    let (path, params) :=
      if usesParams.contains (String.ofList scheme) then splitParams path else (path, [])
    some { scheme, netloc, path, params, query, fragment }
  else none

namespace ParseResult

variable (r : ParseResult)

/-- The user information and the host information of the authority. -/
def userinfo : Option (List Char) :=
  match rpartition '@' r.netloc with
  | (info, true, _) => some info
  | (_, false, _) => none

/-- `username`. -/
def username : Option (List Char) := r.userinfo.map fun info => (partition ':' info).1

/-- `password`. -/
def password : Option (List Char) :=
  r.userinfo.bind fun info =>
    match partition ':' info with
    | (_, true, password) => some password
    | (_, false, _) => none

/-- `_hostinfo`: the host and the port of the authority, as they are spelled. -/
def hostinfo : List Char × List Char :=
  let info := (rpartition '@' r.netloc).2.2
  match partition '[' info with
  | (_, true, bracketed) =>
    let (host, _, port) := partition ']' bracketed
    (host, (partition ':' port).2.2)
  | (_, false, _) =>
    let (host, _, port) := partition ':' info
    (host, port)

/-- `hostname`, empty for none: lower case, but for the zone of an address. -/
def hostname (unicode : Unicode) : List Char :=
  let (host, percent, zone) := partition '%' r.hostinfo.1
  unicode.lower host ++ if percent then '%' :: zone else []

/-- `port`, when it is a number in range; none is a `ValueError`, and some none
    the absence of a port. -/
def port : Option (Option ℕ) :=
  match r.hostinfo.2 with
  | [] => some none
  | digits =>
    if digits.all isDigit then
      (natOfDigits digits).bind fun port => if port ≤ 65535 then some (some port) else none
    else none

/-- `geturl`. -/
def geturl : String :=
  let url := if r.params.isEmpty then r.path else r.path ++ ';' :: r.params
  let url :=
    if !r.netloc.isEmpty ||
        (!r.scheme.isEmpty && usesNetloc.contains (String.ofList r.scheme)) ||
        startsWith url ['/', '/'] then
      '/' :: '/' :: (r.netloc ++ if url.isEmpty || startsWith url ['/'] then url else '/' :: url)
    else url
  let url := if r.scheme.isEmpty then url else r.scheme ++ ':' :: url
  let url := if r.query.isEmpty then url else url ++ '?' :: r.query
  String.ofList (if r.fragment.isEmpty then url else url ++ '#' :: r.fragment)

end ParseResult

/-! ## Query strings -/

/-- The UTF-8 bytes of a string. -/
def utf8 (s : List Char) : List UInt8 := (String.ofList s).toUTF8.toList

/-- The bytes that `quote` leaves alone. -/
def isUnreserved (b : UInt8) : Bool :=
  let c := Char.ofNat b.toNat
  b < 128 && (isLetter c || isDigit c || ['_', '.', '-', '~'].contains c)

/-- The upper-case hexadecimal digit of a number below 16. -/
def hexUpper (n : ℕ) : Char := Char.ofNat (if n < 10 then 0x30 + n else 0x37 + n)

/-- `quote_plus`. -/
def quotePlus (s : List Char) : List Char :=
  (utf8 s).flatMap fun b =>
    if isUnreserved b then [Char.ofNat b.toNat]
    else if b = 0x20 then ['+']
    else ['%', hexUpper (b.toNat / 16), hexUpper (b.toNat % 16)]

/-- `urlencode` of a list of pairs. -/
def urlencode (pairs : List (String × String)) : List Char :=
  ['&'].intercalate (pairs.map fun (k, v) => quotePlus k.toList ++ '=' :: quotePlus v.toList)

/-- `unquote_to_bytes`: the escapes of two hexadecimal digits replaced. -/
def unquoteBytes : List Char → List UInt8
  | '%' :: a :: b :: cs =>
    match hexDigit? a, hexDigit? b with
    | some hi, some lo => UInt8.ofNat (hi * 16 + lo) :: unquoteBytes cs
    | _, _ => 0x25 :: unquoteBytes (a :: b :: cs)
  | c :: cs => utf8 [c] ++ unquoteBytes cs
  | [] => []

/-- The number of bytes of the longest prefix that begins a UTF-8 sequence, and
    its character when the sequence is complete. -/
def decodeStep : List UInt8 → Option Char × ℕ
  | [] => (none, 0)
  | b :: bs =>
    let n := b.toNat
    -- The bounds of the second byte exclude overlong forms, surrogates and what is past U+10FFFF.
    let (need, lo, hi, acc) :=
      if n < 0x80 then (0, 0, 0, n)
      else if n < 0xc2 then (4, 0, 0, 0)
      else if n < 0xe0 then (1, 0x80, 0xbf, n - 0xc0)
      else if n < 0xf0 then
        (2, if n = 0xe0 then 0xa0 else 0x80, if n = 0xed then 0x9f else 0xbf, n - 0xe0)
      else if n < 0xf5 then
        (3, if n = 0xf0 then 0x90 else 0x80, if n = 0xf4 then 0x8f else 0xbf, n - 0xf0)
      else (4, 0, 0, 0)
    if need = 4 then (none, 1)
    else
      let rec go (need lo hi acc count : ℕ) : List UInt8 → Option Char × ℕ
        | c :: cs =>
          match need with
          | 0 => (some (Char.ofNat acc), count)
          | need + 1 =>
            if lo ≤ c.toNat ∧ c.toNat ≤ hi then
              go need 0x80 0xbf (acc * 64 + (c.toNat - 0x80)) (count + 1) cs
            else (none, count)
        | [] => if need = 0 then (some (Char.ofNat acc), count) else (none, count)
      go need lo hi acc 1 bs

/-- `bytes.decode("utf-8", "replace")`, for at most `fuel` characters. -/
def decodeReplace : (fuel : ℕ) → List UInt8 → List Char
  | 0, _ => []
  | _, [] => []
  | fuel + 1, bs =>
    let (c, n) := decodeStep bs
    c.getD '\uFFFD' :: decodeReplace fuel (bs.drop n)

/-- `unquote`: the runs of ASCII characters are decoded from their bytes. -/
def unquote (s : List Char) : List Char :=
  if !s.contains '%' then s
  else
    (s.splitBy fun a b => (a.toNat < 128) == (b.toNat < 128)).flatMap fun run =>
      if isAscii run then let bs := unquoteBytes run; decodeReplace bs.length bs else run

/-- `unquote_plus`. -/
def unquotePlus (s : List Char) : List Char :=
  unquote (s.map fun c => if c = '+' then ' ' else c)

/-- `parse_qsl(qs, keep_blank_values=True)`. -/
def parseQsl (qs : List Char) : List (String × String) :=
  ((qs.splitOn '&').filter (!·.isEmpty)).map fun pair =>
    let (name, _, value) := partition '=' pair
    (String.ofList (unquotePlus name), String.ofList (unquotePlus value))

end Url
