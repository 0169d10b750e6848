import Broker.LiveListings
import Broker.Sinks
import Broker.Uploads

/-!
# Sources of downloads

Where the bytes of an asset come from when it is downloaded (`getDownloadSource`), from the fixture
data or from a live tenant.

A fixture asset is downloaded exactly if its user is shown it: what the listing has, whatever is
searched for, can be downloaded, and nothing else can (`listed_iff_downloaded`). A live asset is
downloaded with the type that it was listed with (`downloaded_as_listed`).
-/

namespace Broker

open Py

/-- What `get_download_source` returns. -/
structure DownloadSource where
  source : AssetSource
  mimeType : String
  filename : Json
  deriving DecidableEq

/-! ## Fixture assets -/

namespace Fixture

/-- `SUPPORTED_IMPORT_MIME_TYPES`. -/
def supportedImportMimeTypes : List String :=
  ["image/jpeg", "image/png", "image/svg+xml", "image/webp"]

/-- `is_asset_importable`. -/
def isAssetImportable (asset : FixtureAsset) : Bool := supportedImportMimeTypes.contains asset.mimeType

end Fixture

section Fixtures

variable (py : Interpreter) (session : Session)

/-- `_get_fixture_download_source`. -/
def getFixtureDownloadSource (assetId : String) : Except PyError DownloadSource :=
  let user := Fixture.getUserById session.user.id
  match Fixture.getAssetById assetId with
  | none => .error (refusal "NOT_FOUND" "Asset not found." 404)
  | some asset =>
    if asset.tenantId ≠ session.tenant.id then .error (refusal "NOT_FOUND" "Asset not found." 404)
    else if !(Fixture.searchVisibleAssets py.unicode user asset.title none).any (·.id = assetId) then
      .error (refusal "FORBIDDEN" "This asset is not available to the current user." 403)
    else if !Fixture.isAssetImportable asset then
      .error (refusal "UNSUPPORTED_FORMAT" "This asset format is not importable in Phase 1." 409)
    else
      .ok
        { source :=
            { kind := "fixture", url := none, assetId := some assetId, variant := some "full"
              mimeType := some asset.mimeType, width := some asset.width, height := some asset.height }
          mimeType := asset.mimeType
          filename := .str asset.filename }

end Fixtures

theorem strip_isInfix (s : List Char) : strip s <:+: s := by
  obtain ⟨l, r, hsplit, -⟩ := stripWhere_cases isSpace s
  exact ⟨l, r, hsplit.symm⟩

theorem isAscii_of_isInfix {s t : List Char} (h : s <:+: t) (ascii : isAscii t = true) : isAscii s = true :=
  isAscii_iff.2 fun c hc => isAscii_iff.1 ascii c (h.subset hc)

namespace Fixture

/-- The texts of the fixture data are ASCII. -/
theorem ascii_assets : ∀ asset ∈ assets, asset.title ≠ "" ∧ (isAscii asset.title.toList = true ∧
    isAscii asset.summary.toList = true ∧
    isAscii (getContainerPath (some asset.containerId)).toList = true) := by
  have hall : (assets.all fun asset => decide (asset.title ≠ "") && (isAscii asset.title.toList &&
      (isAscii asset.summary.toList &&
        isAscii (getContainerPath (some asset.containerId)).toList))) = true := by
    decide +kernel
  intro asset hasset
  simpa only [Bool.and_eq_true, decide_eq_true_eq] using List.all_eq_true.1 hall asset hasset

/-- A search for the title of an asset finds it. -/
theorem found_by_title (unicode : Unicode) {asset : FixtureAsset} (h : asset ∈ assets) :
    unicode.lower (strip asset.title.toList) <:+: unicode.lower (" ".intercalate ([asset.title, asset.summary,
      getContainerPath (some asset.containerId)].filter (· ≠ ""))).toList := by
  obtain ⟨hne, htitle, hsummary, hpath⟩ := ascii_assets asset h
  have hascii : isAscii (" ".intercalate ([asset.title, asset.summary,
      getContainerPath (some asset.containerId)].filter (· ≠ ""))).toList = true := by
    refine isAscii_iff.2 fun c hc => ?_
    rw [String.toList_intercalate] at hc
    rcases Ip.mem_intercalate hc with rfl | ⟨text, htext, hc⟩
    · decide
    · obtain ⟨s, hs, rfl⟩ := List.mem_map.1 htext
      have hs := List.mem_of_mem_filter hs
      simp only [List.mem_cons, List.not_mem_nil, or_false] at hs
      rcases hs with rfl | rfl | rfl
      · exact isAscii_iff.1 htitle c hc
      · exact isAscii_iff.1 hsummary c hc
      · exact isAscii_iff.1 hpath c hc
  -- The title comes first in what is searched.
  have hprefix : asset.title.toList <+: (" ".intercalate ([asset.title, asset.summary,
      getContainerPath (some asset.containerId)].filter (· ≠ ""))).toList := by
    rw [List.filter_cons, if_pos (decide_eq_true hne), String.toList_intercalate, List.map_cons]
    generalize List.map String.toList _ = texts
    cases texts with
    | nil => rw [List.intercalate_singleton]
    | cons text texts =>
      rw [List.intercalate_cons_cons, List.append_assoc]
      exact List.prefix_append _ _
  have hwithin := (strip_isInfix asset.title.toList).trans hprefix.isInfix
  rw [unicode.lower_ascii _ (isAscii_of_isInfix hwithin hascii), unicode.lower_ascii _ hascii]
  exact hwithin.map _

/-- An asset that is searched for by its title is found exactly by the users that see it. -/
theorem any_searchVisibleAssets (unicode : Unicode) (user : Option FixtureUser) {asset : FixtureAsset}
    (h : asset ∈ assets) :
    (searchVisibleAssets unicode user asset.title none).any (·.id = asset.id) = canUserSeeAsset user asset := by
  rw [Bool.eq_iff_iff, List.any_eq_true]
  constructor
  · rintro ⟨found, hfound, hid⟩
    rw [searchVisibleAssets, List.mem_filter] at hfound
    -- Only the asset itself has its id.
    have hsame : found = asset := Option.some.inj ((getAssetById_of_mem found hfound.1).symm.trans
      (of_decide_eq_true hid ▸ getAssetById_of_mem asset h))
    have hsees := hfound.2
    simp only [Bool.and_eq_true] at hsees
    exact hsame ▸ hsees.1.1
  · intro hsees
    refine ⟨asset, ?_, decide_eq_true rfl⟩
    rw [searchVisibleAssets, List.mem_filter]
    refine ⟨h, ?_⟩
    have hfound := found_by_title unicode h
    dsimp only
    rw [hsees, Bool.true_and, Bool.and_eq_true]
    exact ⟨rfl, by rw [decide_eq_true hfound, Bool.or_true]⟩

/-- What is listed can be imported, and what can be imported is listed. -/
theorem importable_iff : ∀ asset ∈ assets,
    isAssetImportable asset = supportedImageMimeTypes.contains asset.mimeType := by
  simp only [assets, List.forall_mem_cons, List.not_mem_nil, false_implies, implies_true, and_true]
  exact ⟨rfl, rfl, rfl, rfl, rfl, rfl⟩

end Fixture

/-! ## Live assets -/

/-- What the two calls of a download meet. -/
structure DownloadHops where
  data : ApiHop
  path : ApiHop

def resourceDataParams (assetId : String) : ApiParams where
  function := "get_resource_data"
  others := [("resource", .str assetId)]

def resourcePathParams (assetId extension : String) : ApiParams where
  function := "get_resource_path"
  others := [("ref", .str assetId), ("extension", .str extension), ("page", .int 1),
    ("watermarked", .int 0)]

/-- A value whose `get` is called. -/
def recordOf : Json → Except PyError Record
  | .dict entries => .ok entries
  | _ => .error .attributeError

/-- The extension of the file of a record. -/
def Record.extension (record : Record) : Json :=
  (record.field "file_extension").orElse ((record.field "preview_extension").orElse (.str "jpg"))

section Live

variable (py : Interpreter) (httpx : Httpx) (session : LiveSession) (hops : DownloadHops)

/-- `_get_live_download_source`. -/
def getLiveDownloadSource (assetId : String) : Traced ApiRequest PyError DownloadSource := do
  let resource ← callLiveApi py httpx session hops.data (resourceDataParams assetId)
  if !resource.truthy || isFalse resource then throw (refusal "NOT_FOUND" "Asset not found." 404)
  else
    let record ← Traced.lift (recordOf resource)
    let mimeType ← Traced.lift (mimeTypeFromExtension py record.extension)
    if !supportedImageMimeTypes.contains mimeType then
      throw (refusal "UNSUPPORTED_FORMAT" "Unsupported asset format." 409)
    else
      let extension := str py record.extension
      let originalUrl ← callLiveApi py httpx session hops.path (resourcePathParams assetId extension)
      if !originalUrl.truthy || isFalse originalUrl then
        throw (refusal "NOT_FOUND" "Asset download URL was not available." 404)
      else
        return {
          source :=
            { kind := "proxy", url := some (str py originalUrl), assetId := none, variant := none
              mimeType := some mimeType, width := none, height := none }
          mimeType
          filename := (record.field "original_filename").orElse (.str (assetId ++ "." ++ extension)) }

end Live

/-! ## Sessions -/

/-- What a session is used with: the fixture data, or a live tenant. -/
inductive Backend (session : Session)
  | fixture (mode : session.upstream.mode = "fixture")
  | live (mode : session.upstream.mode ≠ "fixture") (live : LiveSession) (same : live.session = session)

/-- `get_download_source`. -/
def getDownloadSource (py : Interpreter) (httpx : Httpx) (hops : DownloadHops) {session : Session} :
    Backend session → (assetId : String) → Traced ApiRequest PyError DownloadSource
  | .fixture _, assetId => Traced.lift (getFixtureDownloadSource py session assetId)
  | .live _ live _, assetId => getLiveDownloadSource py httpx live hops assetId

/-! ## Listed and downloaded -/

/-- The session is for a user of the fixture data, at the tenant of that user. -/
def Identity.Homed (identity : Identity) : Prop :=
  ∃ user, Fixture.getUserById identity.userId = some user ∧ user.tenantId = identity.tenant.id

section Listed

variable {py : Interpreter} {session : Session}

/-- An asset can be downloaded if it is of the tenant of the session, its user sees it, and it can be
    imported. -/
theorem getFixtureDownloadSource_iff {assetId : String} {d : DownloadSource} :
    getFixtureDownloadSource py session assetId = .ok d ↔
      ∃ asset ∈ Fixture.assets, asset.id = assetId ∧ asset.tenantId = session.tenant.id ∧
        Fixture.canUserSeeAsset (Fixture.getUserById session.user.id) asset = true ∧
        Fixture.isAssetImportable asset = true ∧
        d = ⟨⟨"fixture", none, some asset.id, some "full", some asset.mimeType, some asset.width,
          some asset.height⟩, asset.mimeType, .str asset.filename⟩ := by
  rw [getFixtureDownloadSource]
  cases hasset : Fixture.getAssetById assetId with
  | none =>
    refine iff_of_false (fun h => nomatch h) ?_
    rintro ⟨asset, hmem, rfl, -⟩
    cases hasset.symm.trans (Fixture.getAssetById_of_mem asset hmem)
  | some asset =>
    obtain ⟨hmem, rfl⟩ := Fixture.mem_of_getAssetById hasset
    dsimp only
    rw [Fixture.any_searchVisibleAssets py.unicode _ hmem]
    constructor
    · intro h
      split_ifs at h with htenant hsees himport
      rw [Bool.not_eq_true', Bool.not_eq_false] at hsees himport
      exact ⟨asset, hmem, rfl, not_not.1 htenant, hsees, himport, (Except.ok.inj h).symm⟩
    · rintro ⟨asset', hmem', hid, htenant, hsees, himport, rfl⟩
      obtain rfl : asset' = asset := Option.some.inj ((Fixture.getAssetById_of_mem asset' hmem').symm.trans
        (hid ▸ hasset))
      rw [if_neg (not_not_intro htenant), hsees, himport]
      rfl

/-- What is listed is an asset that its user sees and that can be imported. -/
theorem of_mem_visibleFixtureAssets {query sort : String} {containerId : Option String} {asset : FixtureAsset}
    (h : asset ∈ visibleFixtureAssets py session query containerId sort) :
    asset ∈ Fixture.assets ∧
      Fixture.canUserSeeAsset (Fixture.getUserById session.user.id) asset = true ∧
      Fixture.isAssetImportable asset = true := by
  obtain ⟨hvisible, hsupported⟩ := mem_visibleFixtureAssets.1 h
  rw [Fixture.searchVisibleAssets, List.mem_filter] at hvisible
  obtain ⟨hmem, hfound⟩ := hvisible
  simp only [Bool.and_eq_true] at hfound
  exact ⟨hmem, hfound.1.1, (Fixture.importable_iff asset hmem).trans hsupported⟩

/-- Where nothing is searched for, all such assets are listed. -/
theorem mem_visibleFixtureAssets_of_sees {sort : String} {asset : FixtureAsset} (h : asset ∈ Fixture.assets)
    (sees : Fixture.canUserSeeAsset (Fixture.getUserById session.user.id) asset = true)
    (importable : Fixture.isAssetImportable asset = true) :
    asset ∈ visibleFixtureAssets py session "" none sort := by
  refine mem_visibleFixtureAssets.2 ⟨?_, (Fixture.importable_iff asset h).symm.trans importable⟩
  rw [Fixture.searchVisibleAssets, List.mem_filter]
  have hlower : py.unicode.lower (strip "".toList) = [] := py.unicode.lower_ascii [] rfl
  refine ⟨h, ?_⟩
  dsimp only
  rw [sees, hlower]
  rfl

/-- The image of an asset that is listed. -/
theorem asset_of_imagesOf {shown : List Resource} {assets : List ListedAsset} (h : ImagesOf shown assets)
    {image : ImageResponse} (himage : .image image ∈ shown) :
    ∃ asset ∈ assets, ∃ url, image = buildImageResponse asset url := by
  obtain ⟨asset, hasset, url, hshown⟩ := exists_of_forall₂ h.flip himage
  exact ⟨asset, hasset, url, Resource.image.inj hshown⟩

/-- A client of a fixture tenant that follows continuations to the end comes to images that can all be
    downloaded, as the files that they are shown as. If it searches for nothing and in no container, it
    comes to all that can be downloaded. -/
theorem listed_iff_downloaded (homed : session.identity.Homed) {l : FindListing}
    {containers : List Container} (ready : l.Ready containers) (service : l.service = fixtureService py session) :
    ∃ resources, l.Exhausts py 0 .null resources ∧
      (∀ image, .image image ∈ resources → ∃ d, getFixtureDownloadSource py session image.id = .ok d ∧
        d.mimeType = image.mimeType ∧ d.filename = image.filename ∧ d.source.width = image.width ∧
        d.source.height = image.height) ∧
      (l.request.scope.query = "" → l.request.scope.containerId = none → "IMAGE" ∈ l.request.scope.types →
        ∀ assetId d, getFixtureDownloadSource py session assetId = .ok d → assetId ∈ assetIds resources) := by
  obtain ⟨user, huser, htenant⟩ := homed
  replace huser : Fixture.getUserById session.user.id = some user := huser
  obtain ⟨shown, himages, hexhausts⟩ := exhausts_fixture ready service
  refine ⟨_, hexhausts, fun image himage => ?_, fun hquery hcontainer htypes assetId d hd => ?_⟩
  · have hshown : .image image ∈ shown := by
      rcases List.mem_append.1 himage with hcontainers | hshown
      · obtain ⟨container, -, hcontainer⟩ := List.mem_map.1 hcontainers
        cases hcontainer
      · exact hshown
    obtain ⟨listed, hlisted, url, rfl⟩ := asset_of_imagesOf himages hshown
    rw [imagesIn] at hlisted
    split_ifs at hlisted with htypes
    · obtain ⟨asset, hasset, rfl⟩ := List.mem_map.1 hlisted
      obtain ⟨hmem, hsees, himport⟩ := of_mem_visibleFixtureAssets hasset
      have htenantAsset : asset.tenantId = session.tenant.id := by
        rw [huser, Fixture.canUserSeeAsset, Option.any_some, Bool.and_eq_true, decide_eq_true_eq] at hsees
        exact hsees.1.symm.trans htenant
      exact ⟨_, getFixtureDownloadSource_iff.2 ⟨asset, hmem, rfl, htenantAsset, hsees,
        himport, rfl⟩, rfl, rfl, rfl, rfl⟩
    · cases hlisted
  · obtain ⟨asset, hmem, rfl, -, hsees, himport, -⟩ := getFixtureDownloadSource_iff.1 hd
    rw [assetIds_of_imagesOf containers himages, imagesIn, if_pos htypes, List.map_map]
    refine List.mem_map.2 ⟨asset, ?_, rfl⟩
    rw [fixtureListing, hquery, hcontainer]
    exact mem_visibleFixtureAssets_of_sees hmem hsees himport

end Listed

theorem listed_iff_downloaded_alice :
    ∃ resources, (Sample.imageListing (fixtureService Sample.interpreter Sample.fixtureSession) 1).Exhausts
        Sample.interpreter 0 .null resources ∧
      "asset_confidential_strategy" ∈ assetIds resources := by
  obtain ⟨resources, hexhausts, -, hall⟩ := @listed_iff_downloaded Sample.interpreter Sample.fixtureSession
    ⟨_, rfl, rfl⟩ _ _ (Sample.ready_imageListing _ one_pos) rfl
  have hdownloaded : (getFixtureDownloadSource Sample.interpreter Sample.fixtureSession
      "asset_confidential_strategy").toOption.isSome = true := by decide +kernel
  cases hd : getFixtureDownloadSource Sample.interpreter Sample.fixtureSession "asset_confidential_strategy" with
  | error e =>
    rw [hd] at hdownloaded
    cases hdownloaded
  | ok d => exact ⟨resources, hexhausts, hall rfl rfl (by decide) _ d hd⟩

section Live

variable {py : Interpreter} {httpx : Httpx} {session : LiveSession} {hops : DownloadHops}

theorem isSpace_toLower (c : Char) : isSpace c.toLower = isSpace c := by
  have hupper : ∀ n < 26, isSpace (Char.ofNat (0x41 + n)).toLower = isSpace (Char.ofNat (0x41 + n)) := by
    decide
  rcases Ip.toLower_cases c with hc | ⟨n, hn, rfl⟩
  · rw [hc]
  · exact hupper n hn

theorem strip_map_toLower (s : List Char) : strip (s.map Char.toLower) = (strip s).map Char.toLower := by
  have hspace : isSpace ∘ Char.toLower = isSpace := funext isSpace_toLower
  rw [strip, stripWhere, List.dropWhile_map, ← List.map_reverse, List.dropWhile_map, ← List.map_reverse, hspace]
  rfl

/-- The type of a file whose extension is ASCII is that of its listing. -/
theorem mimeTypeOf_lower {extension : String} (ascii : isAscii extension.toList = true) :
    mimeTypeOf py (String.ofList (py.unicode.lower extension.toList)) = mimeTypeOf py extension := by
  have hlower : isAscii (extension.toList.map Char.toLower) = true :=
    py.unicode.lower_ascii _ ascii ▸ isAscii_lower ascii
  rw [mimeTypeOf, mimeTypeOf, normalized, normalized, String.toList_ofList, py.unicode.lower_ascii _ ascii,
    py.unicode.lower_ascii _ (isAscii_of_isInfix (strip_isInfix _) hlower),
    py.unicode.lower_ascii _ (isAscii_of_isInfix (strip_isInfix _) ascii),
    strip_map_toLower, List.map_map]
  have hidem : Char.toLower ∘ Char.toLower = Char.toLower := funext toLower_toLower
  rw [hidem]

theorem mimeTypeFromExtension_str (extension : String) :
    mimeTypeFromExtension py (.str extension) = .ok (mimeTypeOf py extension) := by
  rw [mimeTypeFromExtension]
  split_ifs with hempty
  · have hnil : extension = "" := by simpa [Json.truthy] using hempty
    rw [hnil]
  · rfl

/-- What a download of a live asset gets from the answers to its calls. -/
theorem result_getLiveDownloadSource {assetId extension : String} {data : Record} (some_data : data ≠ [])
    (hdata : (callLiveApi py httpx session hops.data (resourceDataParams assetId)).result = .ok (.dict data))
    (named : data.extension = .str extension) {d : DownloadSource} :
    (getLiveDownloadSource py httpx session hops assetId).result = .ok d ↔
      supportedImageMimeTypes.contains (mimeTypeOf py extension) = true ∧
      ∃ url, (callLiveApi py httpx session hops.path (resourcePathParams assetId extension)).result = .ok url ∧
        url.truthy = true ∧ isFalse url = false ∧
        d = ⟨⟨"proxy", some (str py url), none, none, some (mimeTypeOf py extension), none, none⟩,
          mimeTypeOf py extension,
          (data.field "original_filename").orElse (.str (assetId ++ "." ++ extension))⟩ := by
  have hfound : (!(Json.dict data).truthy || isFalse (.dict data)) = false := by
    cases data with
    | nil => exact absurd rfl some_data
    | cons entry entries => rfl
  have hrecord : recordOf (.dict data) = .ok data := rfl
  have hextension : str py (.str extension) = extension := rfl
  rw [getLiveDownloadSource, Traced.bind_of_ok hdata]
  dsimp only
  rw [hfound, if_neg Bool.false_ne_true, Traced.result_lift_bind hrecord, named, hextension,
    Traced.result_lift_bind (mimeTypeFromExtension_str extension)]
  split_ifs with hsupported
  · rw [Bool.not_eq_true'] at hsupported
    exact iff_of_false (fun h => nomatch h) fun h => Bool.false_ne_true (hsupported.symm.trans h.1)
  · rw [Bool.not_eq_true', Bool.not_eq_false] at hsupported
    rw [Traced.result_bind_eq_ok, and_iff_right hsupported]
    refine exists_congr fun url => and_congr_right fun _ => ?_
    split_ifs with hmissing
    · refine iff_of_false (fun h => nomatch h) fun ⟨htruthy, hfalse, _⟩ => ?_
      rw [htruthy, hfalse] at hmissing
      cases hmissing
    · rw [Bool.or_eq_true, Bool.not_eq_true', not_or, Bool.not_eq_false, Bool.not_eq_true] at hmissing
      rw [and_iff_right hmissing.1, and_iff_right hmissing.2]
      exact ⟨fun h => (Except.ok.inj h).symm, fun h => congrArg Except.ok h.symm⟩

/-- An asset of a live tenant that is shown is downloaded unless the tenant gives no path of its file,
    as long as the tenant names the same extension again; and it is then of the type it is shown with. -/
theorem downloaded_as_listed {record data : Record} {asset : ListedAsset} {extension : String}
    (shown : shownAsset py record = some asset) (named : record.extension = .str extension)
    (ascii : isAscii extension.toList = true) (renamed : data.extension = .str extension) (some_data : data ≠ [])
    (hdata : (callLiveApi py httpx session hops.data (resourceDataParams asset.id)).result = .ok (.dict data)) :
    ((∃ d, (getLiveDownloadSource py httpx session hops asset.id).result = .ok d) ↔
      ∃ url, (callLiveApi py httpx session hops.path (resourcePathParams asset.id extension)).result = .ok url ∧
        url.truthy = true ∧ isFalse url = false) ∧
    ∀ d, (getLiveDownloadSource py httpx session hops asset.id).result = .ok d →
      d.mimeType = asset.mimeType ∧ d.source.mimeType = some asset.mimeType ∧ d.source.kind = "proxy" := by
  obtain ⟨hsupported, hbuilt, -⟩ := shownAsset_eq_some.1 shown
  have hlive : liveExtension py record = String.ofList (py.unicode.lower extension.toList) := by
    have htext : liveExtension py record =
      String.ofList (py.unicode.lower (str py record.extension).toList) := rfl
    rw [htext, named]
    rfl
  have hmime : asset.mimeType = mimeTypeOf py extension := by
    rw [(built hbuilt).2.1, hlive, mimeTypeOf_lower ascii]
  rw [supportedLiveRecord, hlive, mimeTypeOf_lower ascii] at hsupported
  have hresult := fun d => @result_getLiveDownloadSource py httpx session hops asset.id extension data
    some_data hdata renamed d
  refine ⟨Iff.intro ?_ ?_, fun d hd => ?_⟩
  · rintro ⟨d, hd⟩
    obtain ⟨-, url, hurl, htruthy, hfalse, -⟩ := (hresult d).1 hd
    exact ⟨url, hurl, htruthy, hfalse⟩
  · rintro ⟨url, hurl, htruthy, hfalse⟩
    exact ⟨_, (hresult _).2 ⟨hsupported, url, hurl, htruthy, hfalse, rfl⟩⟩
  · obtain ⟨-, url, -, -, -, rfl⟩ := (hresult d).1 hd
    rw [hmime]
    exact ⟨rfl, rfl, rfl⟩

end Live

namespace Sample

/-- A picture whose extension is in capitals. -/
def sunset : Record :=
  [("ref", .str "3"), ("field8", .str "Sunset"), ("file_extension", .str "JPG"),
    ("url_thm", .str "https://dam.example/thumbnail.jpg")]

def sunsetHops : DownloadHops := ⟨answering (.dict sunset), answering (.str "https://dam.example/sunset.JPG")⟩

end Sample

theorem downloaded_as_listed_sunset :
    ∃ d, (getLiveDownloadSource Sample.plainInterpreter Sample.plainHttpx Sample.damSession Sample.sunsetHops
        "3").result = .ok d ∧ d.mimeType = "image/jpeg" := by
  have hshown : (shownAsset Sample.plainInterpreter Sample.sunset).map (fun asset => (asset.id, asset.mimeType)) =
      some ("3", "image/jpeg") := by decide +kernel
  cases hasset : shownAsset Sample.plainInterpreter Sample.sunset with
  | none =>
    rw [hasset] at hshown
    cases hshown
  | some asset =>
    rw [hasset, Option.map_some, Option.some.injEq, Prod.mk.injEq] at hshown
    obtain ⟨hiff, hmime⟩ := @downloaded_as_listed Sample.plainInterpreter Sample.plainHttpx Sample.damSession
      Sample.sunsetHops Sample.sunset Sample.sunset asset "JPG" hasset rfl (by decide) rfl (by decide)
      (Sample.callLiveApi_answering _ _)
    obtain ⟨d, hd⟩ := hiff.2 ⟨_, Sample.callLiveApi_answering _ _, by decide, by decide⟩
    exact ⟨d, hshown.1 ▸ hd, (hmime d hd).1.trans hshown.2⟩

end Broker
