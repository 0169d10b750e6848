import Broker.ApiCalls
import Broker.Delivery
import Broker.Dispositions
import Broker.Drawings
import Broker.Fetching
import Broker.Lib.IpText

/-!
# Serving assets

The routes `/public/assets/{grant_id}` and `/signed/assets/{grant_id}` to the end
(`serveAsset`): the drawing of a fixture asset, or the bytes that are fetched from ResourceSpace.

No response with bytes is read as anything but what its type says, nor as a document that may
run, and what is fetched is not served as SVG (`delivers_of_proxy`). In every run, what is
served belongs to a grant that an authorised request created, that has not expired and whose
user has not been revoked since (`serveAsset_correct`), and a grant of a fixture asset is
served as long as it lives (`fixture_served`).
-/

namespace Broker

open Py Runs

/-! ## Responses -/

/-- What `httpx` and the network do for a request. -/
structure AssetNetwork where
  httpx : Httpx
  getaddrinfo : List Char → Option (List (List Char))
  /-- The connections to the URLs that a request is pinned to, under these headers. -/
  connect : PinnedRequest → List (String × String) → Connections
  pinned : ∀ request headers, (connect request headers).race.pinnedUrls = request.urls.length

/-- What `config.resource_space` sets for assets. -/
structure AssetProxyConfig where
  assetAllowedHosts : List String
  assetProxyMaxBytes : ℤ
  deriving DecidableEq, Repr

/-- The body of a response: bytes, or an error envelope. -/
inductive AssetContent
  | bytes (body : List UInt8)
  | envelope (code message : String)
  deriving DecidableEq, Repr

structure AssetResponse where
  statusCode : ℤ
  content : AssetContent
  headers : Dict String String

/-- What is raised while a response is built. -/
inductive AssetError
  | keyError (key : String)
  | raised (error : PyError)
  deriving DecidableEq, Repr

/-- The first of the strings that is not empty. -/
def orDefault (options : List (Option String)) (default : String) : String :=
  ((options.find? truthyStr).bind id).getD default

/-- `cors_headers`, without extra headers. -/
def corsHeaders : Dict String String :=
  ((∅ : Dict String String).set "Access-Control-Allow-Headers"
    "authorization, content-type, x-canva-signatures, x-canva-timestamp").set
    "Access-Control-Allow-Methods" "GET, POST, OPTIONS"

namespace Fixture

/-- The accents of `ASSETS`. -/
def accents : List (String × String) :=
  [("asset_summer_hero", "#ffb703"), ("asset_social_tiles", "#219ebc"),
    ("asset_board_minutes", "#8d99ae"), ("asset_confidential_strategy", "#ef476f"),
    ("asset_globex_product", "#8338ec"), ("asset_globex_logo", "#06d6a0")]

end Fixture

section Serve

variable (unicode : Unicode)

/-- `_is_svg_content_type`. -/
def isSvgContentType (contentType : String) : Bool :=
  contentType ≠ "" &&
    unicode.lower (strip (partition ';' contentType.toList).1) = "image/svg+xml".toList

/-- `_harden_asset_response_headers`. -/
def hardenAssetResponseHeaders (headers : Dict String String) (contentType : String)
    (filename : Option String) (fromProxy : Bool) : Except PyError (Dict String String) :=
  let headers := (headers.set "X-Content-Type-Options" "nosniff").set "Content-Security-Policy"
    "default-src 'none'; sandbox"
  if fromProxy && isSvgContentType unicode contentType then do
    let headers := headers.set "Content-Type" "application/octet-stream"
    let disposition ← attachmentContentDisposition (.ofString (orDefault [filename] "download.svg"))
    return headers.set "Content-Disposition" (String.ofList disposition)
  else .ok headers

/-- The response for a source of the fixture data. -/
def fixtureResponse (grant : AssetGrant) (headers : Dict String String) :
    Except AssetError (Option AssetResponse) :=
  match grant.source.assetId with
  | none => .error (.keyError "assetId")
  | some assetId =>
    match Fixture.getAssetById assetId with
    | none => .ok none
    | some asset =>
      match Fixture.accents.lookup asset.id with
      | none => .error (.keyError "accent")
      | some accent => do
        let body ← (renderFixtureSvg asset accent (grant.source.variant.getD "preview")).mapError .raised
        let contentType := orDefault [grant.mimeType] "image/svg+xml; charset=utf-8"
        let headers ← (hardenAssetResponseHeaders unicode (headers.set "Content-Type" contentType)
          contentType grant.filename false).mapError .raised
        return some ⟨200, .bytes (Url.utf8 body), headers⟩

variable (network : AssetNetwork) (config : AssetProxyConfig)

/-- The headers of a body with this name, if it has any. -/
def nameBody (headers : Dict String String) (filename : Option String) :
    Except PyError (Dict String String) :=
  if truthyStr filename then do
    let disposition ← contentDisposition (.ofString (filename.getD ""))
    return headers.set "Content-Disposition" (String.ofList disposition)
  else .ok headers

/-- The response for a source that is fetched from ResourceSpace. -/
def proxyResponse (grant : AssetGrant) (headers : Dict String String) :
    Except AssetError (Option AssetResponse) :=
  match grant.source.url with
  | none => .error (.keyError "url")
  | some url =>
    match pinRequest unicode network.httpx.rawHost network.getaddrinfo network.httpx url
        config.assetAllowedHosts with
    | .error (.resourceSpaceError _) => .ok none
    | .error error => .error (.raised error)
    | .ok pinned => do
      let connections := network.connect pinned (resourcespaceRequestHeaders grant.integration)
      match ← (racePinnedFetch config.assetProxyMaxBytes connections).result.mapError .raised with
      | none => return none
      | some (body, contentTypeHeader) =>
        let contentType := orDefault [grant.mimeType, contentTypeHeader] "application/octet-stream"
        let headers := headers.set "Content-Type" contentType
        let headers ← (nameBody headers grant.filename).mapError .raised
        let headers ← (hardenAssetResponseHeaders unicode headers contentType grant.filename true).mapError
          .raised
        return some ⟨200, .bytes body, headers⟩

/-- `build_grant_response`. -/
def buildGrantResponse (verification : Verification) (headers : Dict String String) :
    Except AssetError (Option AssetResponse) :=
  match verification with
  | .refused _ => .ok none
  | .ok grant =>
    let combined := headers.entries.foldl (fun combined header => combined.set header.1 header.2)
      ((∅ : Dict String String).set "Cache-Control" "private, max-age=60")
    if grant.source.kind = "fixture" then fixtureResponse unicode grant combined
    else proxyResponse unicode network config grant combined

/-- `_serve_grant`, up to the encoding of the headers. -/
def serveAsset (service : AssetService) (now : ℕ → ℤ) (grantId expires signature : Option String)
    (state : Store) : Except AssetError AssetResponse := do
  match ← (serveGrant service now grantId expires signature state).mapError .raised with
  | .refused statusCode code reason => return ⟨statusCode, .envelope code reason, corsHeaders⟩
  | .accepted grant =>
    match ← buildGrantResponse unicode network config (.ok grant) corsHeaders with
    | none => return ⟨404, .envelope "NOT_FOUND" "Not found.", corsHeaders⟩
    | some response => return response

/-- The text can be encoded in Latin-1. -/
def IsLatin1 (s : String) : Prop := ∀ c ∈ s.toList, c.toNat < 256

instance (s : String) : Decidable (IsLatin1 s) := List.decidableBAll _ _

/-- The headers can be encoded. -/
def AssetResponse.IsEncodable (response : AssetResponse) : Prop :=
  ∀ header ∈ response.headers.entries, IsLatin1 header.2

instance (response : AssetResponse) : Decidable response.IsEncodable := List.decidableBAll _ _

/-- `_serve_grant` to the end: the response encodes its headers in Latin-1. -/
def sendAsset (service : AssetService) (now : ℕ → ℤ) (grantId expires signature : Option String)
    (state : Store) : Except AssetError AssetResponse := do
  let response ← serveAsset unicode network config service now grantId expires signature state
  if response.IsEncodable then return response else throw (.raised .unicodeError)

end Serve

/-! ## What is served -/

/-- What a recipient takes the type of a body to be, of its `Content-Type`. -/
def mediaType (contentType : String) : List Char :=
  (stripWhere (['\t', '\n', '\r', ' '].contains ·) (partition ';' contentType.toList).1).map Char.toLower

/-- The type of SVG documents. -/
def svgType : List Char :=
  ['i', 'm', 'a', 'g', 'e', '/', 's', 'v', 'g', '+', 'x', 'm', 'l']

/-- A body that is neither taken for another type, nor runs. -/
structure Hardened (headers : Dict String String) : Prop where
  nosniff : headers.get? "X-Content-Type-Options" = some "nosniff"
  sandboxed : headers.get? "Content-Security-Policy" = some "default-src 'none'; sandbox"

section Served

variable (unicode : Unicode) (network : AssetNetwork) (config : AssetProxyConfig)

/-- Where the bytes of a grant come from: the drawing of a fixture asset, or all of a body that
    is read at an address of the host of its URL, in whose answer no address is blocked. -/
inductive Serves (grant : AssetGrant) : List UInt8 → Prop
  | drawn {asset : FixtureAsset} {accent : String} {doc : List Char}
    (kind : grant.source.kind = "fixture") (source : grant.source.assetId = some asset.id)
    (known : asset ∈ Fixture.assets) (colour : Fixture.accents.lookup asset.id = some accent)
    (drawing : renderFixtureSvg asset accent (grant.source.variant.getD "preview") = .ok doc) :
    Serves grant (Url.utf8 doc)
  | fetched {url : String} {pinned : PinnedRequest} {parsed : HttpxUrl} {infos : List (List Char)}
    {address : List Char} {winner : ℕ} {body : List UInt8} {contentType : Option String}
    (kind : grant.source.kind ≠ "fixture") (source : grant.source.url = some url)
    (https : network.httpx.url url = some parsed ∧ parsed.scheme = "https".toList)
    (answer : ∃ host, canonicalAsciiHost unicode network.httpx.rawHost parsed.rawHost = .ok host ∧
      network.getaddrinfo host = some infos)
    (unblocked : ∀ info ∈ infos, ∀ ip, Ip.address info = some ip → ipIsBlocked ip = false)
    (pins : address ∈ infos ∧ pinned.urls[winner]? = some (parsed.withHost address))
    (holds : ((network.connect pinned (resourcespaceRequestHeaders grant.integration)).stream
      winner).Holds config.assetProxyMaxBytes body contentType) :
    Serves grant body

variable {unicode network config}

/-- The headers that are hardened keep the others, and a type of SVG is not kept if the body is
    that of a proxied asset. -/
theorem hardened_of_harden {headers headers' : Dict String String} {contentType : String}
    {filename : Option String} {fromProxy : Bool}
    (h : hardenAssetResponseHeaders unicode headers contentType filename fromProxy = .ok headers') :
    Hardened headers' ∧ headers'.get? "Content-Type" =
      if fromProxy && isSvgContentType unicode contentType then some "application/octet-stream"
      else headers.get? "Content-Type" := by
  have hget : ∀ {d : Dict String String} {k k' v : String}, k' ≠ k → (d.set k v).get? k' = d.get? k' :=
    fun hne => Dict.get?_set_of_ne _ hne _
  rw [hardenAssetResponseHeaders] at h
  split_ifs at h ⊢ with hsvg
  · obtain ⟨disposition, -, h⟩ := exists_ok_of_bind h
    obtain rfl := Except.ok.inj h
    refine ⟨⟨?_, ?_⟩, ?_⟩
    · rw [hget (by decide), hget (by decide), hget (by decide), Dict.get?_set_self]
    · rw [hget (by decide), hget (by decide), Dict.get?_set_self]
    · rw [hget (by decide), Dict.get?_set_self]
  · obtain rfl := Except.ok.inj h
    refine ⟨⟨?_, ?_⟩, ?_⟩
    · rw [hget (by decide), Dict.get?_set_self]
    · exact Dict.get?_set_self _ _ _
    · rw [hget (by decide), hget (by decide)]

theorem ascii_of_toLower_mem {c : Char} (h : c.toLower ∈ svgType) :
    c.toNat < 128 ∧ isSpace c = false := by
  have hlower : ∀ d ∈ svgType, d.toNat < 128 ∧ isSpace d = false := by
    simp only [svgType, List.forall_mem_cons, List.not_mem_nil, false_implies, implies_true, and_true]
    decide
  have hupper : ∀ n < 26, (Char.ofNat (0x41 + n)).toNat < 128 ∧ isSpace (Char.ofNat (0x41 + n)) = false := by
    decide
  rcases Ip.toLower_cases c with hc | ⟨n, hn, rfl⟩
  · exact hlower c (hc ▸ h)
  · exact hupper n hn

/-- What a recipient takes for SVG is found to be SVG. -/
theorem isSvg_of_mediaType {contentType : String} (h : mediaType contentType = svgType) :
    isSvgContentType unicode contentType = true := by
  have hspace : ∀ c, ['\t', '\n', '\r', ' '].contains c = true → isSpace c = true := by
    intro c hc
    simp only [List.contains_cons, List.contains_nil, Bool.or_false, Bool.or_eq_true, beq_iff_eq] at hc
    rcases hc with rfl | rfl | rfl | rfl <;> decide
  rw [mediaType] at h
  obtain ⟨l, r, hsplit, hl, hr, -, -⟩ :=
    stripWhere_cases (['\t', '\n', '\r', ' '].contains ·) (partition ';' contentType.toList).1
  generalize stripWhere (['\t', '\n', '\r', ' '].contains ·) (partition ';' contentType.toList).1 = m at h hsplit
  have hm : ∀ c ∈ m, c.toNat < 128 ∧ isSpace c = false := fun c hc =>
    ascii_of_toLower_mem (h ▸ List.mem_map_of_mem hc)
  -- The characters around the type are spaces, and the type has none.
  have hstrip : strip (partition ';' contentType.toList).1 = m := by
    rw [hsplit]
    exact stripWhere_append (fun c hc => hspace c (hl c hc)) (fun c hc => hspace c (hr c hc))
      (fun c hc => (hm c (List.mem_of_mem_head? hc)).2) fun c hc => (hm c (List.mem_of_mem_getLast? hc)).2
  have hascii : isAscii m = true := List.all_eq_true.2 fun c hc => decide_eq_true (hm c hc).1
  have hne : contentType ≠ "" := by
    rintro rfl
    rw [show (partition ';' "".toList).1 = [] from rfl] at hstrip
    rw [← hstrip] at h
    cases h
  rw [isSvgContentType, hstrip, unicode.lower_ascii m hascii, h, decide_eq_true hne, Bool.true_and]
  decide

/-- A response with the bytes of a grant, whose headers are safe. -/
structure Delivers (unicode : Unicode) (network : AssetNetwork) (config : AssetProxyConfig)
    (grant : AssetGrant) (response : AssetResponse) : Prop where
  statusCode : response.statusCode = 200
  serves : ∃ body, response.content = .bytes body ∧ Serves unicode network config grant body
  hardened : Hardened response.headers
  typed : ∃ contentType, response.headers.get? "Content-Type" = some contentType ∧
    (grant.source.kind ≠ "fixture" → mediaType contentType ≠ svgType)

theorem delivers_of_fixture {grant : AssetGrant} {headers : Dict String String}
    {response : AssetResponse} (kind : grant.source.kind = "fixture")
    (h : fixtureResponse unicode grant headers = .ok (some response)) :
    Delivers unicode network config grant response := by
  rw [fixtureResponse] at h
  cases hid : grant.source.assetId with
  | none =>
    rw [hid] at h
    cases h
  | some assetId =>
    rw [hid] at h
    dsimp only at h
    cases hasset : Fixture.getAssetById assetId with
    | none =>
      rw [hasset] at h
      cases h
    | some asset =>
      rw [hasset] at h
      dsimp only at h
      cases haccent : Fixture.accents.lookup asset.id with
      | none =>
        rw [haccent] at h
        cases h
      | some accent =>
        rw [haccent] at h
        dsimp only at h
        obtain ⟨doc, hdoc, h⟩ := exists_ok_of_bind h
        obtain ⟨headers', hheaders, h⟩ := exists_ok_of_bind h
        obtain rfl := Option.some.inj (Except.ok.inj h)
        obtain ⟨hhardened, htype⟩ := hardened_of_harden (mapError_eq_ok.1 hheaders)
        obtain ⟨hmem, hmatch⟩ := Fixture.mem_of_getAssetById hasset
        refine ⟨rfl, ⟨_, rfl, .drawn kind (hmatch ▸ hid) hmem haccent
          (mapError_eq_ok.1 hdoc)⟩, hhardened, ?_⟩
        rw [Bool.false_and, if_neg Bool.false_ne_true, Dict.get?_set_self] at htype
        exact ⟨_, htype, fun hkind => absurd kind hkind⟩

theorem contentType_of_nameBody {headers headers' : Dict String String} {filename : Option String}
    (h : nameBody headers filename = .ok headers') :
    headers'.get? "Content-Type" = headers.get? "Content-Type" := by
  rw [nameBody] at h
  split_ifs at h
  · obtain ⟨disposition, -, h⟩ := exists_ok_of_bind h
    obtain rfl := Except.ok.inj h
    exact Dict.get?_set_of_ne _ (by decide) _
  · obtain rfl := Except.ok.inj h
    rfl

/-- What is fetched for a grant is read at an address of the host of its URL. -/
theorem serves_of_fetch {grant : AssetGrant} {url : String} {pinned : PinnedRequest} {body : List UInt8}
    {contentType : Option String} (kind : grant.source.kind ≠ "fixture") (source : grant.source.url = some url)
    (pins : pinRequest unicode network.httpx.rawHost network.getaddrinfo network.httpx url
      config.assetAllowedHosts = .ok pinned)
    (fetched : (racePinnedFetch config.assetProxyMaxBytes
      (network.connect pinned (resourcespaceRequestHeaders grant.integration))).result =
        .ok (some (body, contentType))) :
    Serves unicode network config grant body := by
  obtain ⟨winner, hwinner, hholds⟩ := fetch_eq_some_iff.1 fetched
  obtain ⟨parsed, addresses, hparsed, hscheme, haddresses, hurls⟩ := pinned_of_pinRequest pins
  obtain ⟨host, infos, hhost, hinfos, hclear, hmem⟩ := answer_of_resolvePinnedAddresses haddresses
  have hlt := hwinner.acceptable.2
  rw [network.pinned, hurls, List.length_map] at hlt
  refine .fetched kind source ⟨hparsed, hscheme⟩ ⟨host, hhost, hinfos⟩ hclear
    ⟨(hmem _ (List.getElem_mem hlt)).1, ?_⟩ hholds
  rw [hurls, List.getElem?_map, List.getElem?_eq_getElem hlt, Option.map_some]

theorem delivers_of_proxy {grant : AssetGrant} {headers : Dict String String}
    {response : AssetResponse} (kind : grant.source.kind ≠ "fixture")
    (h : proxyResponse unicode network config grant headers = .ok (some response)) :
    Delivers unicode network config grant response := by
  rw [proxyResponse] at h
  cases hurl : grant.source.url with
  | none =>
    rw [hurl] at h
    cases h
  | some url =>
    rw [hurl] at h
    dsimp only at h
    cases hpinned : pinRequest unicode network.httpx.rawHost network.getaddrinfo network.httpx url
        config.assetAllowedHosts with
    | error error =>
      rw [hpinned] at h
      cases error <;> cases h
    | ok pinned =>
      rw [hpinned] at h
      dsimp only at h
      obtain ⟨fetched, hfetched, h⟩ := exists_ok_of_bind h
      cases fetched with
      | none => cases h
      | some fetched =>
        obtain ⟨body, contentTypeHeader⟩ := fetched
        dsimp only at h
        obtain ⟨headers₁, hfilename, h⟩ := exists_ok_of_bind h
        obtain ⟨headers₂, hheaders, h⟩ := exists_ok_of_bind h
        obtain rfl := Option.some.inj (Except.ok.inj h)
        obtain ⟨hhardened, htype⟩ := hardened_of_harden (mapError_eq_ok.1 hheaders)
        refine ⟨rfl, ⟨body, rfl, serves_of_fetch kind hurl hpinned (mapError_eq_ok.1 hfetched)⟩, hhardened, ?_⟩
        rw [Bool.true_and] at htype
        split_ifs at htype with hsvg
        · refine ⟨_, htype, fun _ => ?_⟩
          decide +kernel
        · rw [contentType_of_nameBody (mapError_eq_ok.1 hfilename), Dict.get?_set_self] at htype
          exact ⟨_, htype, fun _ hsvgType => hsvg (isSvg_of_mediaType hsvgType)⟩

variable {service : AssetService} {now : ℕ → ℤ} {grantId expires signature : Option String}

/-- A delivery is a verdict on the grant: it is accepted, or refused with one of two statuses. -/
theorem verified_of_serveGrant {state : Store} {delivery : Delivery}
    (h : serveGrant service now grantId expires signature state = .ok delivery) :
    (∃ grant, delivery = .accepted grant ∧
      (service.verifyGrant now grantId expires signature state).1 = .ok (.ok grant)) ∨
    ∃ statusCode code reason, delivery = .refused statusCode code reason ∧ statusCode ∈ [403, 410] := by
  rw [serveGrant] at h
  cases hresult : (service.verifyGrant now grantId expires signature state).1 with
  | error e =>
    rw [hresult] at h
    cases h
  | ok verification =>
    rw [hresult] at h
    cases verification with
    | ok grant =>
      cases h
      exact .inl ⟨grant, rfl, rfl⟩
    | refused reason =>
      cases h
      refine .inr ⟨_, _, _, rfl, ?_⟩
      split_ifs <;> simp

/-- A grant that is accepted is stored and has not expired, and it is asked for with a signature
    of the service, whose expiry has not passed. -/
theorem accepted_of_serveGrant {state : Store} {grant : AssetGrant}
    (h : serveGrant service now grantId expires signature state = .ok (.accepted grant)) :
    state.assetGrants.get? (grantId.getD "") = some grant ∧ now 1 < grant.expiresAt ∧
      ∃ n, int (expires.getD "") = some n ∧ now 0 ≤ n ∧
        signature = some (createSignature (grantId.getD "") n service.config.signing.assetSecret) := by
  obtain ⟨grant', hgrant, hverified⟩ | ⟨_, _, _, hrefused, -⟩ := verified_of_serveGrant h
  case inr => cases hrefused
  cases hgrant
  rw [AssetService.verifyGrant] at hverified
  split_ifs at hverified with hmissing
  · cases hverified
  · simp only [Bool.or_eq_true, Bool.not_eq_true', not_or, Bool.not_eq_false] at hmissing
    dsimp only at hverified
    cases hint : int (expires.getD "") with
    | none =>
      rw [hint] at hverified
      cases hverified
    | some n =>
      rw [hint] at hverified
      dsimp only at hverified
      split_ifs at hverified with hpassed hascii hsignature
      · cases hverified
      · cases hverified
      · unfold update AssetService.grantUpdater at hverified
        dsimp only at hverified
        cases hfound : (pruneExpiredGrants state (now 1)).assetGrants.get? (grantId.getD "") with
        | none =>
          rw [hfound] at hverified
          cases hverified
        | some found =>
          rw [hfound] at hverified
          dsimp only at hverified
          split_ifs at hverified
          · cases hverified
          · cases hverified
            rw [pruneExpiredGrants, Dict.get?_filter, Option.filter_eq_some_iff] at hfound
            refine ⟨hfound.1, by simpa using hfound.2, n, rfl, not_lt.1 hpassed, ?_⟩
            cases signature with
            | none => cases hmissing.2
            | some text => exact congrArg some (not_not.1 hsignature).symm

/-- How a request for an asset is answered. -/
theorem serveAsset_cases {state : Store} {response : AssetResponse}
    (h : serveAsset unicode network config service now grantId expires signature state =
      .ok response) :
    (∃ grant, serveGrant service now grantId expires signature state = .ok (.accepted grant) ∧
      Delivers unicode network config grant response) ∨
    (response.statusCode ∈ [403, 404, 410] ∧ response.headers = corsHeaders ∧
      ∃ code message, response.content = .envelope code message) := by
  rw [serveAsset] at h
  obtain ⟨delivery, hdelivery, h⟩ := exists_ok_of_bind h
  replace hdelivery := mapError_eq_ok.1 hdelivery
  cases delivery with
  | refused statusCode code reason =>
    obtain rfl := Except.ok.inj h
    obtain ⟨grant, hgrant, -⟩ | ⟨_, _, _, hrefused, hstatus⟩ := verified_of_serveGrant hdelivery
    · cases hgrant
    · cases hrefused
      refine .inr ⟨?_, rfl, code, reason, rfl⟩
      rcases List.mem_pair.1 hstatus with rfl | rfl <;> simp
  | accepted grant =>
    dsimp only at h
    obtain ⟨built, hbuilt, h⟩ := exists_ok_of_bind h
    cases built with
    | none =>
      obtain rfl := Except.ok.inj h
      exact .inr ⟨by decide, rfl, _, _, rfl⟩
    | some built =>
      obtain rfl := Except.ok.inj h
      refine .inl ⟨grant, hdelivery, ?_⟩
      rw [buildGrantResponse] at hbuilt
      split_ifs at hbuilt with hkind
      · exact delivers_of_fixture hkind hbuilt
      · exact delivers_of_proxy hkind hbuilt

/-! ## Encoding -/

/-- Headers can be encoded if those to which they are added can be, and they are. -/
theorem latin1_set {d : Dict String String} (h : ∀ k v, d.get? k = some v → IsLatin1 v)
    {k v : String} (hv : IsLatin1 v) : ∀ k' v', (d.set k v).get? k' = some v' → IsLatin1 v' := by
  intro k' v' hget
  rw [Dict.get?_set] at hget
  split_ifs at hget
  · obtain rfl := Option.some.inj hget
    exact hv
  · exact h k' v' hget

theorem isEncodable_iff {response : AssetResponse} :
    response.IsEncodable ↔ ∀ k v, response.headers.get? k = some v → IsLatin1 v :=
  (Dict.forall_get?_iff response.headers (p := fun _ v => IsLatin1 v)).symm

theorem latin1_empty : ∀ k v, (∅ : Dict String String).get? k = some v → IsLatin1 v :=
  fun _ _ h => nomatch h

theorem latin1_corsHeaders : ∀ k v, corsHeaders.get? k = some v → IsLatin1 v :=
  latin1_set (latin1_set latin1_empty (by decide +kernel)) (by decide +kernel)

/-- An answer without bytes can be encoded. -/
theorem isEncodable_corsHeaders (statusCode : ℤ) (content : AssetContent) :
    (⟨statusCode, content, corsHeaders⟩ : AssetResponse).IsEncodable :=
  isEncodable_iff.2 latin1_corsHeaders

/-- What is sent is what is served, if its headers can be encoded. -/
theorem sendAsset_ok_iff {state : Store} {response : AssetResponse} :
    sendAsset unicode network config service now grantId expires signature state = .ok response ↔
      serveAsset unicode network config service now grantId expires signature state = .ok response ∧
        response.IsEncodable := by
  rw [sendAsset]
  cases serveAsset unicode network config service now grantId expires signature state with
  | error e => exact iff_of_false (fun h => nomatch h) fun h => nomatch h.1
  | ok served =>
    change (if served.IsEncodable then Except.ok served else Except.error (AssetError.raised .unicodeError)) =
      .ok response ↔ _
    by_cases hencodable : served.IsEncodable
    · rw [if_pos hencodable]
      constructor
      · exact fun h => ⟨h, Except.ok.inj h ▸ hencodable⟩
      · exact fun h => h.1
    · rw [if_neg hencodable]
      refine iff_of_false (fun h => nomatch h) ?_
      rintro ⟨h, hresponse⟩
      exact hencodable (Except.ok.inj h ▸ hresponse)

/-- What a request raises that is not answered: its signature cannot be compared, or the response
    of its grant can be neither built nor encoded. -/
theorem raised_of_sendAsset {state : Store} {error : AssetError}
    (h : sendAsset unicode network config service now grantId expires signature state = .error error) :
    (error = .raised .typeError ∧ Compared (now 0) grantId expires signature ∧
      isAscii (signature.getD "").toList = false) ∨
    ∃ grant, serveGrant service now grantId expires signature state = .ok (.accepted grant) ∧
      (buildGrantResponse unicode network config (.ok grant) corsHeaders = .error error ∨
        error = .raised .unicodeError ∧ ∃ response,
          buildGrantResponse unicode network config (.ok grant) corsHeaders = .ok (some response) ∧
            ¬response.IsEncodable) := by
  rw [sendAsset, serveAsset] at h
  cases hdelivery : serveGrant service now grantId expires signature state with
  | error e =>
    rw [hdelivery] at h
    obtain rfl : AssetError.raised e = error := Except.error.inj h
    rcases @verdict_cases service now grantId expires signature state with ⟨hverdict, -⟩ | ⟨herror, hascii⟩
    · rw [serveGrant] at hdelivery
      cases hresult : (service.verifyGrant now grantId expires signature state).1 with
      | error e' =>
        rw [hresult] at hverdict
        exact hverdict.elim
      | ok verification =>
        rw [hresult] at hdelivery
        cases hdelivery
    · rw [serveGrant, herror] at hdelivery
      obtain rfl := Except.error.inj hdelivery
      rw [Classical.not_imp, Bool.not_eq_true] at hascii
      exact .inl ⟨rfl, hascii⟩
  | ok delivery =>
    rw [hdelivery] at h
    cases delivery with
    | refused statusCode code reason =>
      dsimp only [bind, Except.bind, Except.mapError, pure, Except.pure] at h
      rw [if_pos (isEncodable_corsHeaders _ _)] at h
      cases h
    | accepted grant =>
      refine .inr ⟨grant, rfl, ?_⟩
      dsimp only [bind, Except.bind, Except.mapError, pure, Except.pure] at h
      cases hbuilt : buildGrantResponse unicode network config (.ok grant) corsHeaders with
      | error e =>
        rw [hbuilt] at h
        obtain rfl := Except.error.inj h
        exact .inl rfl
      | ok built =>
        rw [hbuilt] at h
        cases built with
        | none =>
          dsimp only at h
          rw [if_pos (isEncodable_corsHeaders _ _)] at h
          cases h
        | some response =>
          dsimp only at h
          by_cases hencodable : response.IsEncodable
          · rw [if_pos hencodable] at h
            cases h
          · rw [if_neg hencodable] at h
            exact .inr ⟨(Except.error.inj h).symm, response, rfl, hencodable⟩

/-! ## Grants of fixture assets -/

/-- Every fixture asset has an accent. -/
theorem exists_accent {asset : FixtureAsset} (h : asset ∈ Fixture.assets) :
    ∃ accent, Fixture.accents.lookup asset.id = some accent := by
  have hall : (Fixture.assets.all fun asset => (Fixture.accents.lookup asset.id).isSome) = true := rfl
  exact Option.isSome_iff_exists.1 (List.all_eq_true.1 hall asset h)

/-- The response with a drawing can be encoded if the type of its grant can be. -/
theorem isEncodable_of_fixture {grant : AssetGrant} {headers : Dict String String}
    {response : AssetResponse} (mimeType : ∀ type ∈ grant.mimeType, IsLatin1 type)
    (encodable : ∀ k v, headers.get? k = some v → IsLatin1 v)
    (h : fixtureResponse unicode grant headers = .ok (some response)) : response.IsEncodable := by
  have htype : IsLatin1 (orDefault [grant.mimeType] "image/svg+xml; charset=utf-8") := by
    rw [orDefault]
    cases hmime : grant.mimeType with
    | none => decide +kernel
    | some type =>
      by_cases hempty : truthyStr (some type) = true
      · rw [List.find?_cons_of_pos hempty]
        exact mimeType type hmime
      · rw [List.find?_cons_of_neg hempty]
        decide +kernel
  rw [fixtureResponse] at h
  cases hid : grant.source.assetId with
  | none =>
    rw [hid] at h
    cases h
  | some assetId =>
    rw [hid] at h
    dsimp only at h
    cases hasset : Fixture.getAssetById assetId with
    | none =>
      rw [hasset] at h
      cases h
    | some asset =>
      rw [hasset] at h
      dsimp only at h
      cases haccent : Fixture.accents.lookup asset.id with
      | none =>
        rw [haccent] at h
        cases h
      | some accent =>
        rw [haccent] at h
        dsimp only at h
        obtain ⟨doc, -, h⟩ := exists_ok_of_bind h
        obtain ⟨headers', hheaders, h⟩ := exists_ok_of_bind h
        obtain rfl := Option.some.inj (Except.ok.inj h)
        replace hheaders := mapError_eq_ok.1 hheaders
        rw [hardenAssetResponseHeaders, Bool.false_and, if_neg Bool.false_ne_true] at hheaders
        obtain rfl := Except.ok.inj hheaders
        exact isEncodable_iff.2 (latin1_set (latin1_set (latin1_set encodable htype) (by decide +kernel))
          (by decide +kernel))

/-- The drawing of a fixture asset is served for any grant of it. -/
theorem fixtureResponse_ok {grant : AssetGrant} {asset : FixtureAsset} (h : asset ∈ Fixture.assets)
    (source : grant.source.assetId = some asset.id) (headers : Dict String String) :
    ∃ response, fixtureResponse unicode grant headers = .ok (some response) := by
  obtain ⟨accent, haccent⟩ := exists_accent h
  obtain ⟨doc, hdoc⟩ := @exists_drawing asset (grant.source.variant.getD "preview")
    (fun _ => drawable_assets.2 asset h) accent
  rw [fixtureResponse, source]
  dsimp only
  rw [Fixture.getAssetById_of_mem asset h]
  dsimp only
  rw [haccent]
  dsimp only
  rw [hdoc]
  exact ⟨_, rfl⟩

/-- What a verification answers is what the route is told. -/
theorem serveGrant_of_out {w : World} {f : Event} {grant : AssetGrant}
    (action : f.action = .verifyGrant grantId expires signature)
    (h : (broker unicode).out w f = .ok (.verification (.ok grant))) :
    serveGrant ⟨f.service.config⟩ f.now grantId expires signature w.store = .ok (.accepted grant) := by
  change (w.step unicode f).1 = _ at h
  rw [World.step, action] at h
  dsimp only [World.commit] at h
  rw [serveGrant]
  cases hresult : ((AssetService.mk f.service.config).verifyGrant f.now grantId expires signature
      w.store).1 with
  | error e =>
    rw [hresult] at h
    cases h
  | ok verification =>
    rw [hresult] at h
    cases h
    rfl

/-- What is served for the URL of a grant of a fixture asset. -/
theorem exists_served {pre mid : List Event} {e f : Event} {r : Request} {request : GrantRequest}
    {issued : SignedGrant} {asset : FixtureAsset} (fresh : Fresh (pre ++ e :: (mid ++ [f])))
    (timed : Timed (pre ++ e :: (mid ++ [f])))
    (issues : IssuesGrant unicode ((broker unicode).after pre) e r request issued)
    (secret : f.service.config.signing = r.service.config.signing)
    (action : f.action = .verifyGrant (some issued.grantId) (some (toString issued.expiresAt))
      (some issued.signature))
    (kind : request.source.kind = "fixture") (source : request.source.assetId = some asset.id)
    (known : asset ∈ Fixture.assets) (live : f.now 1 < issued.expiresAt ∧ f.now 2 ≤ issued.expiresAt)
    (unrevoked : ∀ h ∈ mid, h.action ≠ .revokeTokensForUser r.session.user.id r.session.tenant.id) :
    ∃ grant response, grant.source = request.source ∧
      Delivers unicode network config grant response ∧
      serveAsset unicode network config ⟨f.service.config⟩ f.now (some issued.grantId)
        (some (toString issued.expiresAt)) (some issued.signature)
        ((broker unicode).after (pre ++ e :: mid)).store = .ok response ∧
      ((∀ type ∈ request.mimeType, IsLatin1 type) → response.IsEncodable) := by
  obtain ⟨grant, hout⟩ := (issued_accepted_iff fresh timed issues secret action).2 ⟨live, unrevoked⟩
  have haccepted := serveGrant_of_out action hout
  obtain ⟨hstored, hlive, -⟩ := accepted_of_serveGrant haccepted
  have hgrant : grant.source = request.source ∧ grant.mimeType = request.mimeType := by
    obtain ⟨⟨call, haction, hinFlight⟩, hcarries, _, hanswered⟩ := issues
    obtain ⟨-, hissued, -⟩ := issuesGrant_of_answer haction hinFlight hanswered
    have hid : issued.grantId = randomToken "grant" (e.rand.token 0) := by
      rw [hcarries]
      rfl
    have happend : pre ++ e :: (mid ++ [f]) = (pre ++ e :: mid) ++ [f] := by simp
    rw [happend] at fresh
    rw [Option.getD_some, hid] at hstored
    rcases stored_grant fresh.append_left hissued hstored with ⟨rfl, -⟩ | hzero
    · exact ⟨rfl, rfl⟩
    · have hpos := f.clock.pos 1
      rw [hzero] at hlive
      exact absurd hpos hlive.le.not_gt
  obtain ⟨hgrant, hmimeType⟩ := hgrant
  have hcombined : ∀ k v, (corsHeaders.entries.foldl (fun combined header => combined.set header.1 header.2)
      ((∅ : Dict String String).set "Cache-Control" "private, max-age=60")).get? k = some v → IsLatin1 v := by
    intro k v hget
    rw [Dict.get?_foldl_entries] at hget
    rcases Option.or_eq_some_iff.1 hget with hget | ⟨-, hget⟩
    · exact latin1_corsHeaders k v hget
    · exact latin1_set latin1_empty (by decide +kernel) k v hget
  obtain ⟨response, hresponse⟩ := @fixtureResponse_ok unicode grant asset known (hgrant ▸ source)
    (corsHeaders.entries.foldl (fun combined header => combined.set header.1 header.2)
      ((∅ : Dict String String).set "Cache-Control" "private, max-age=60"))
  refine ⟨grant, response, hgrant, delivers_of_fixture (hgrant ▸ kind) hresponse, ?_,
    fun mimeType => isEncodable_of_fixture (hmimeType ▸ mimeType) hcombined hresponse⟩
  rw [serveAsset, haccepted]
  dsimp only [buildGrantResponse]
  simp only [Except.mapError, bind, Except.bind]
  rw [if_pos (hgrant ▸ kind), hresponse]
  rfl

end Served

/-! ## Sample assets -/

namespace Sample

/-- A network without hosts. -/
def noNetwork : AssetNetwork where
  httpx := ⟨fun _ => none, fun _ _ => .error .valueError, fun _ => none⟩
  getaddrinfo _ := none
  connect request _ := ⟨⟨request.urls.length, fun _ => none, [], nofun, nofun, List.nodup_nil⟩,
    fun _ => ⟨fun _ => none, fun _ => .finished⟩⟩
  pinned _ _ := rfl

def assetProxy : AssetProxyConfig := ⟨[], 1000000⟩

/-- What the listing of a fixture asset asks a grant for. -/
def fixtureRequest : GrantRequest where
  pathPrefix := AssetService.previewPath
  source := ⟨"fixture", none, some "asset_globex_product", some "preview", some "image/svg+xml",
    some 1400, some 900⟩
  mimeType := some "image/svg+xml"
  filename := some "globex-product-showcase.svg"

def globexProduct : FixtureAsset where
  id := "asset_globex_product"
  tenantId := "tenant_globex"
  containerId := "container_globex_root"
  title := "Globex Product Showcase"
  summary := "Launch imagery for product showcase collateral."
  mimeType := "image/svg+xml"
  filename := "globex-product-showcase.svg"
  width := 1400
  height := 900
  restrictedTo := []
  createdAt := "2026-03-28T10:00:00.000Z"
  updatedAt := "2026-04-04T10:00:00.000Z"

theorem globexProduct_mem : globexProduct ∈ Fixture.assets := by
  rw [Fixture.assets]
  iterate 4 refine List.mem_cons_of_mem _ ?_
  exact List.mem_cons_self

/-- The session of a fixture user. -/
def clara : Session where
  tenant :=
    { id := "tenant_globex", slug := some "globex", name := some "Globex Media UAT"
      baseUrl := "https://globex.demo.resourcespace.local", apiUrl := none
      rootCollections := [], collectionChildren := [] }
  user := ⟨"user_clara", "clara", "Clara Curator", "admin", none⟩
  upstream := ⟨"fixture", none, "2026-01-01T00:00:00Z"⟩
  broker := none

def claraRequest : Request := ⟨service, { clara with broker := some ⟨"canva-client", some "canva"⟩ }⟩

/-- Her sign-in, whose session is used to create a grant of a fixture asset. -/
def fixtureSteps : List (String × ℤ × Action) :=
  ("a", 1000, .beginAuthorizationFromSession request clara) ::
    ((grantSteps.take 4).drop 1 ++ [("e", 4000, .createGrant 1 fixtureRequest)])

def fixtureRun : List Event := run service fixtureSteps

theorem fixtureRun_inFlight :
    ((broker Unicode.ascii).after (fixtureRun.take 4)).requests.get? 1 = some claraRequest := by
  have hsession : (((broker Unicode.ascii).after (fixtureRun.take 4)).requests.get? 1).map (·.session) =
      some claraRequest.session := by decide +kernel
  obtain ⟨x, hx, hopened⟩ := Option.map_eq_some_iff.1 hsession
  have hservice : ∃ f ∈ fixtureRun.take 4, x.service = f.service :=
    Occurs.exists_mem (request_origin hx) fun _ _ ⟨_, _, _, _, _, hread⟩ => by rw [hread]
  obtain ⟨f, hf, hservice⟩ := hservice
  obtain ⟨_, -, rfl⟩ := List.mem_map.1 (List.mem_of_mem_take hf)
  rw [hx]
  cases x
  cases hservice
  cases hopened
  rfl

theorem fixtureRun_issues : IssuesGrant Unicode.ascii ((broker Unicode.ascii).after (fixtureRun.take 4))
    fixtureRun[4] claraRequest fixtureRequest signedGrant := by
  have hanswered : ((broker Unicode.ascii).out ((broker Unicode.ascii).after (fixtureRun.take 4))
      fixtureRun[4]).toOption.any (fun a => a matches .grant _) = true := by decide +kernel
  generalize hout : (broker Unicode.ascii).out ((broker Unicode.ascii).after (fixtureRun.take 4))
    fixtureRun[4] = o at hanswered
  cases o with
  | error error => cases hanswered
  | ok a =>
    cases a with
    | grant response => exact (issuesGrant_of_answer rfl fixtureRun_inFlight hout).1
    | _ => cases hanswered

theorem fixtureRun_fresh (signature : String) : Fresh (fixtureRun ++ [verification signature]) := by
  have hrun : fixtureRun ++ [verification signature] =
      run service (fixtureSteps ++ [("f", 5000, (verification signature).action)]) := rfl
  have hdraws : (fixtureSteps ++ [("f", 5000, (verification signature).action)]).map Prod.fst =
      ["a", "b", "c", "d", "e", "f"] := rfl
  rw [hrun]
  exact fresh service (by rw [hdraws]; decide)

theorem fixtureRun_timed (signature : String) : Timed (fixtureRun ++ [verification signature]) := by
  have hrun : fixtureRun ++ [verification signature] =
      run service (fixtureSteps ++ [("f", 5000, (verification signature).action)]) := rfl
  have htimes : (fixtureSteps ++ [("f", 5000, (verification signature).action)]).map
      (fun s : String × ℤ × Action => s.2.1) = [1000, 2000, 2000, 3000, 4000, 5000] := rfl
  rw [hrun]
  exact timed service (by rw [htimes]; decide)

/-- The grant is served a second later. -/
theorem fixtureRun_sent :
    ∃ response, response.statusCode = 200 ∧
      sendAsset Unicode.ascii noNetwork assetProxy ⟨config⟩ (fun _ => 5000) (some "grant_e")
        (some "304000") (some signedGrant.signature)
        ((broker Unicode.ascii).after fixtureRun).store = .ok response := by
  obtain ⟨grant, response, -, hdelivers, hserved, hencodable⟩ := @exists_served Unicode.ascii noNetwork assetProxy
    (fixtureRun.take 4) [] fixtureRun[4] (verification signedGrant.signature) claraRequest fixtureRequest
    signedGrant globexProduct (fixtureRun_fresh _) (fixtureRun_timed _) fixtureRun_issues rfl rfl rfl rfl
    globexProduct_mem (by decide) fun h hh => absurd hh List.not_mem_nil
  have hmimeType : ∀ type ∈ fixtureRequest.mimeType, IsLatin1 type := by decide +kernel
  exact ⟨response, hdelivers.statusCode, sendAsset_ok_iff.2 ⟨hserved, hencodable hmimeType⟩⟩

theorem fixtureRun_served :
    ∃ response, response.statusCode = 200 ∧
      serveAsset Unicode.ascii noNetwork assetProxy ⟨config⟩ (fun _ => 5000) (some "grant_e")
        (some "304000") (some signedGrant.signature)
        ((broker Unicode.ascii).after fixtureRun).store = .ok response := by
  obtain ⟨response, hstatus, hsent⟩ := fixtureRun_sent
  exact ⟨response, hstatus, (sendAsset_ok_iff.1 hsent).1⟩

end Sample

/-! ## Runs -/

section Runs

variable {unicode : Unicode} {network : AssetNetwork} {config : AssetProxyConfig}
  {service : AssetService} {grantId expires signature : Option String}

/-- The grant is stored under the id by a request that had read an access token, and its user has
    not been revoked since. -/
def Granted (unicode : Unicode) (es : List Event) (grantId : String) (grant : AssetGrant) : Prop :=
  ∃ pre e post r request, es = pre ++ e :: post ∧
    Grants ((broker unicode).after pre) e grantId r request grant ∧
    (∀ f ∈ post, f.action ≠ .revokeTokensForUser grant.userId grant.tenantId) ∧
    Occurs pre fun l f => ∃ token record stamped opened,
      Reads ((broker unicode).after l) f token record stamped opened ∧ r = ⟨f.service, opened⟩

/-- A stored grant that has not been revoked is as it was created. -/
theorem granted_of_stored {es : List Event} {k : String} {grant : AssetGrant}
    (h : ((broker unicode).after es).store.assetGrants.get? k = some grant)
    (live : grant.expiresAt ≠ 0) : Granted unicode es k grant := by
  induction es using List.reverseRecOn with
  | nil => cases h
  | append_singleton es e ih =>
    rw [Machine.after_snoc] at h
    have hstep := grant_step unicode ((broker unicode).after es) e k
    rw [h] at hstep
    generalize hold : ((broker unicode).after es).store.assetGrants.get? k = o at hstep
    cases hstep with
    | kept user =>
      obtain ⟨pre, f, post, r, request, rfl, hgrants, hrevoked, hread⟩ := ih hold
      refine ⟨pre, f, post ++ [e], r, request, by simp, hgrants, fun f' hf' => ?_, hread⟩
      rcases List.mem_append.1 hf' with hf' | hf'
      · exact hrevoked f' hf'
      · rw [List.mem_singleton.1 hf']
        exact fun action => user _ _ action ⟨rfl, rfl⟩
    | marked _ _ => exact absurd rfl live
    | granted action inFlight key =>
      exact ⟨es, e, [], _, _, rfl, ⟨⟨_, action, inFlight⟩, key, rfl⟩, fun f hf => absurd hf List.not_mem_nil,
        request_origin inFlight⟩

/-- In every run, a request for an asset is answered with the bytes of a grant, in a response that is
    safe to open, or with a refusal, unless it raises. The grant was created by a request that had read
    an access token, its user has not been revoked since, and neither it nor the signature that it was
    asked for with has expired. A request raises only if its signature is compared and is not ASCII, or
    the response of its grant raises or cannot be encoded. -/
theorem serveAsset_correct {es : List Event} {clock : Clock} :
    (∀ response, sendAsset unicode network config service clock.now grantId expires signature
        ((broker unicode).after es).store = .ok response →
      (∃ grant n, Delivers unicode network config grant response ∧
        Granted unicode es (grantId.getD "") grant ∧ clock.now 1 < grant.expiresAt ∧
        int (expires.getD "") = some n ∧ clock.now 0 ≤ n ∧
        signature = some (createSignature (grantId.getD "") n service.config.signing.assetSecret)) ∨
      (response.statusCode ∈ [403, 404, 410] ∧ response.headers = corsHeaders ∧
        ∃ code message, response.content = .envelope code message)) ∧
    ∀ error, sendAsset unicode network config service clock.now grantId expires signature
        ((broker unicode).after es).store = .error error →
      (error = .raised .typeError ∧ Compared (clock.now 0) grantId expires signature ∧
        isAscii (signature.getD "").toList = false) ∨
      ∃ grant, Granted unicode es (grantId.getD "") grant ∧
        (buildGrantResponse unicode network config (.ok grant) corsHeaders = .error error ∨
          error = .raised .unicodeError ∧ ∃ response,
            buildGrantResponse unicode network config (.ok grant) corsHeaders = .ok (some response) ∧
              ¬response.IsEncodable) := by
  have hgranted : ∀ grant, serveGrant service clock.now grantId expires signature
      ((broker unicode).after es).store = .ok (.accepted grant) →
        Granted unicode es (grantId.getD "") grant := by
    intro grant haccepted
    obtain ⟨hstored, hlive, -⟩ := accepted_of_serveGrant haccepted
    have hpos := clock.pos 1
    exact granted_of_stored hstored (by omega)
  constructor
  · intro response h
    rcases serveAsset_cases (sendAsset_ok_iff.1 h).1 with ⟨grant, haccepted, hdelivers⟩ | hrefused
    · obtain ⟨-, hlive, n, hint, hn, hsignature⟩ := accepted_of_serveGrant haccepted
      exact .inl ⟨grant, n, hdelivers, hgranted grant haccepted, hlive, hint, hn, hsignature⟩
    · exact .inr hrefused
  · intro error h
    rcases raised_of_sendAsset h with hsignature | ⟨grant, haccepted, hraised⟩
    · exact .inl hsignature
    · exact .inr ⟨grant, hgranted grant haccepted, hraised⟩

theorem serveAsset_correct_fixture :
    ∃ response, response.statusCode = 200 ∧
      ∃ grant n, Delivers Unicode.ascii Sample.noNetwork Sample.assetProxy grant response ∧
        Granted Unicode.ascii Sample.fixtureRun "grant_e" grant ∧ 5000 < grant.expiresAt ∧
        int "304000" = some n ∧ 5000 ≤ n ∧
        some Sample.signedGrant.signature =
          some (createSignature "grant_e" n Sample.config.signing.assetSecret) := by
  obtain ⟨response, hstatus, hsent⟩ := Sample.fixtureRun_sent
  refine ⟨response, hstatus, ?_⟩
  rcases (@serveAsset_correct _ _ _ _ _ _ _ _ (Sample.verification Sample.signedGrant.signature).clock).1 _
    hsent with h | ⟨hrefused, -⟩
  · exact h
  · rw [hstatus] at hrefused
    exact absurd hrefused (by decide)

/-- The URL of a grant of a fixture asset is answered with the drawing of the asset until the grant
    expires, unless the tokens of its user are revoked in between. The answer can be encoded if the type
    that the grant was asked for with can be. -/
theorem fixture_served {pre mid : List Event} {e f : Event} {r : Request} {request : GrantRequest}
    {issued : SignedGrant} {asset : FixtureAsset} (fresh : Fresh (pre ++ e :: (mid ++ [f])))
    (timed : Timed (pre ++ e :: (mid ++ [f])))
    (issues : IssuesGrant unicode ((broker unicode).after pre) e r request issued)
    (secret : f.service.config.signing = r.service.config.signing)
    (action : f.action = .verifyGrant (some issued.grantId) (some (toString issued.expiresAt))
      (some issued.signature))
    (kind : request.source.kind = "fixture") (source : request.source.assetId = some asset.id)
    (known : asset ∈ Fixture.assets) (live : f.now 1 < issued.expiresAt ∧ f.now 2 ≤ issued.expiresAt)
    (unrevoked : ∀ h ∈ mid, h.action ≠ .revokeTokensForUser r.session.user.id r.session.tenant.id) :
    ∃ response accent doc, serveAsset unicode network config ⟨f.service.config⟩ f.now
        (some issued.grantId) (some (toString issued.expiresAt)) (some issued.signature)
        ((broker unicode).after (pre ++ e :: mid)).store = .ok response ∧
      response.statusCode = 200 ∧ Hardened response.headers ∧
      response.content = .bytes (Url.utf8 doc) ∧ Fixture.accents.lookup asset.id = some accent ∧
      renderFixtureSvg asset accent (request.source.variant.getD "preview") = .ok doc ∧
      ((∀ type ∈ request.mimeType, IsLatin1 type) →
        sendAsset unicode network config ⟨f.service.config⟩ f.now (some issued.grantId)
          (some (toString issued.expiresAt)) (some issued.signature)
          ((broker unicode).after (pre ++ e :: mid)).store = .ok response) := by
  obtain ⟨grant, response, hgrant, hdelivers, hserved, hencodable⟩ := @exists_served unicode network config pre mid
    e f r request issued asset fresh timed issues secret action kind source known live unrevoked
  obtain ⟨hstatus, ⟨body, hcontent, hserves⟩, hhardened, -⟩ := hdelivers
  cases hserves with
  | @drawn asset' accent doc _ hsource hknown hcolour hdrawing =>
    have hid : asset'.id = asset.id := by
      rw [hgrant, source] at hsource
      exact (Option.some.inj hsource).symm
    obtain rfl : asset' = asset :=
      Option.some.inj ((Fixture.getAssetById_of_mem _ hknown).symm.trans
        (hid ▸ Fixture.getAssetById_of_mem _ known))
    exact ⟨response, accent, doc, hserved, hstatus, hhardened, hcontent, hcolour, hgrant ▸ hdrawing,
      fun mimeType => sendAsset_ok_iff.2 ⟨hserved, hencodable mimeType⟩⟩
  | fetched hkind => exact absurd (hgrant ▸ kind) hkind

theorem fixture_served_run :
    ∃ response accent doc, sendAsset Unicode.ascii Sample.noNetwork Sample.assetProxy ⟨Sample.config⟩
        (fun _ => 5000) (some "grant_e") (some "304000") (some Sample.signedGrant.signature)
        ((broker Unicode.ascii).after Sample.fixtureRun).store = .ok response ∧
      response.statusCode = 200 ∧ Hardened response.headers ∧
      response.content = .bytes (Url.utf8 doc) ∧
      Fixture.accents.lookup Sample.globexProduct.id = some accent ∧
      renderFixtureSvg Sample.globexProduct accent "preview" = .ok doc := by
  obtain ⟨response, accent, doc, -, hstatus, hhardened, hcontent, hcolour, hdrawing, hsent⟩ :=
    @fixture_served Unicode.ascii Sample.noNetwork Sample.assetProxy (Sample.fixtureRun.take 4) []
      Sample.fixtureRun[4] (Sample.verification Sample.signedGrant.signature) Sample.claraRequest
      Sample.fixtureRequest Sample.signedGrant Sample.globexProduct (Sample.fixtureRun_fresh _)
      (Sample.fixtureRun_timed _) Sample.fixtureRun_issues rfl rfl rfl rfl Sample.globexProduct_mem
      (by decide) fun h hh => absurd hh List.not_mem_nil
  have hmimeType : ∀ type ∈ Sample.fixtureRequest.mimeType, IsLatin1 type := by decide +kernel
  exact ⟨response, accent, doc, hsent hmimeType, hstatus, hhardened, hcontent, hcolour, hdrawing⟩

end Runs

end Broker
