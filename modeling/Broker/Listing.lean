import Broker.Continuations
import Broker.Lib.DateTime
import Broker.Lib.Slices
import Broker.ResourceSpace

/-!
# Listings

The part of `ResourceSpaceService` behind the content routes: it lists the
containers of a tenant and a page of its assets, through signed calls to a live
tenant (`liveService`).

A live page takes two calls. The first one lists the records of the page; of
those whose type is supported the second one fetches the previews, and what has
no thumbnail is left out.
-/

namespace Broker

open Py

/-! ## Containers and assets -/

/-- A container, whose name a live tenant may give as any value. -/
structure Container where
  id : String
  name : Json
  description : Option String
  numContainers : ℕ
  access : String
  deriving DecidableEq, Repr

/-- Where a preview of a listed asset comes from. -/
structure ListedSource where
  kind : String
  url : Option Json
  assetId : Option String
  variant : Option String
  mimeType : String
  width : Option ℤ
  height : Option ℤ
  deriving DecidableEq, Repr

structure ListedAsset where
  id : String
  name : String
  description : String
  mimeType : String
  filename : Json
  width : Option ℤ
  height : Option ℤ
  createdAt : Option String
  updatedAt : Option String
  thumbnailSource : Option ListedSource
  previewSource : Option ListedSource
  deriving DecidableEq, Repr

/-- The options of `list_assets`. -/
structure AssetQuery where
  query : String
  containerId : Option String
  offset : ℤ
  limit : ℤ
  sort : String

/-- A page of assets: those it shows, how many there are in all, and how many
    were looked at for the page. -/
structure AssetPage where
  items : List ListedAsset
  total : ℤ
  scanned : Option ℤ

/-- `ResourceSpaceService`, for one session. -/
structure ResourceSpaceService where
  listContainers : (parentId : Option String) → Except PyError (List Container)
  searchContainers : (parentId : Option String) → (query : String) →
    Except PyError (List Container)
  listAssets : AssetQuery → Except PyError AssetPage

/-- `SUPPORTED_IMAGE_MIME_TYPES`. -/
def supportedImageMimeTypes : List String :=
  ["image/jpeg", "image/png", "image/svg+xml", "image/webp", "image/heic"]

/-- The table of `_mime_type_from_extension`. -/
def extensionMimeTypes : List (String × String) :=
  [("jpg", "image/jpeg"), ("jpeg", "image/jpeg"), ("png", "image/png"), ("svg", "image/svg+xml"),
   ("webp", "image/webp"), ("heic", "image/heic"), ("tif", "image/tiff"), ("tiff", "image/tiff"),
   ("gif", "image/gif")]

/-- `container_id.startswith(kind)`, for a kind with its colon, and the rest of the id. -/
def decodeContainerId (kind : String) (containerId : Option String) : Option String :=
  containerId.bind fun id =>
    if startsWith id.toList kind.toList then some (String.ofList (id.toList.drop kind.length))
    else none

/-- `_decode_collection_container_id`. -/
def decodeCollectionContainerId : Option String → Option String := decodeContainerId "collection:"

/-- `_decode_fixture_container_id`. -/
def decodeFixtureContainerId : Option String → Option String := decodeContainerId "fixture:"

section Live

variable (py : Interpreter)

/-- `s.strip().lower()`. -/
def normalized (s : String) : List Char := py.unicode.lower (strip s.toList)

/-- `_mime_type_from_extension` of a string. -/
def mimeTypeOf (extension : String) : String :=
  (extensionMimeTypes.lookup (String.ofList (normalized py extension))).getD
    "application/octet-stream"

/-- `_mime_type_from_extension`. -/
def mimeTypeFromExtension (extension : Json) : Except PyError String :=
  if !extension.truthy then .ok (mimeTypeOf py "")
  else
    match extension with
    | .str s => .ok (mimeTypeOf py s)
    | _ => .error .attributeError

/-! ## Live records -/

/-- A record of a live tenant: the entries of its object. -/
abbrev Record := List (String × Json)

/-- `record.get(key)`. -/
def Record.field (record : Record) (key : String) : Json := (record.lookup key).getD .null

/-- `str(value)`. -/
def str (value : Json) : String := value.text py.repr

/-- The extension of a record, in lower case. -/
def liveExtension (record : Record) : String :=
  String.ofList (py.unicode.lower (str py ((record.field "file_extension").orElse
    ((record.field "preview_extension").orElse (.str "jpg")))).toList)

/-- `_supported_live_record`. -/
def supportedLiveRecord (record : Record) : Bool :=
  supportedImageMimeTypes.contains (mimeTypeOf py (liveExtension py record))

/-- `int(value or 0) or None`. -/
def dimension (value : Json) : Except PyError (Option ℤ) :=
  (intOr value 0).map fun n => if n = 0 then none else some n

/-- The first of the candidates that is a string and not blank. -/
def pickText (candidates : List Json) (default : String) : String :=
  (candidates.findSome? fun candidate =>
    match candidate with
    | .str s => if (strip s.toList).isEmpty then none else some s
    | _ => none).getD default

/-- `_pick_asset_name`. -/
def pickAssetName (record : Record) : String :=
  pickText [record.field "name", record.field "title", record.field "resource_title",
    record.field "field8", record.field "original_filename", record.field "file_path",
    .str ("Asset " ++ str py ((record.field "ref").orElse (record.field "id")))] "Untitled asset"

/-- `_pick_asset_description`. -/
def pickAssetDescription (record : Record) : String :=
  pickText [record.field "summary", record.field "description", record.field "field73",
    record.field "field3", record.field "country"] ""

/-- The ISO text of a timestamp, none for a `ValueError`. -/
def isoOfTimestamp (t : ℚ) : Except PyError (Option String) :=
  match isoUtc t with
  | .ok text => .ok (some text)
  | .error .value => .ok none
  | .error .overflow => .error .overflowError
  | .error .os => .error .osError

/-- `text.replace("Z", "+00:00")`. -/
def replaceZulu (text : String) : String :=
  String.ofList (text.toList.flatMap fun c => if c = 'Z' then "+00:00".toList else [c])

/-- `_to_iso_date`. -/
def toIsoDate (value : Json) : Except PyError (Option String) :=
  if !value.truthy then .ok none
  else
    match value with
    | .bool _ => isoOfTimestamp 1
    | .int n =>
      match Double.round n with
      | some t => isoOfTimestamp t
      | none => .error .overflowError
    | .float (.finite q) => isoOfTimestamp q
    | .float .nan => .ok none
    | .float (.infinite _) => .error .overflowError
    | v => py.isoDate (replaceZulu (str py v))

/-- The source of a preview at a URL. -/
def proxySource (record : Record) (url : Json) : Except PyError ListedSource := do
  let mimeType ← mimeTypeFromExtension py ((record.field "preview_extension").orElse (.str "jpg"))
  let width ← dimension (record.field "thumb_width")
  let height ← dimension (record.field "thumb_height")
  return { kind := "proxy", url := some url, assetId := none, variant := none, mimeType, width,
           height }

/-- The source of a preview at a URL, when there is one. -/
def optionalSource (record : Record) (url : Json) : Except PyError (Option ListedSource) :=
  if url.truthy then (proxySource py record url).map some else .ok none

/-- `build_live_asset`. -/
def buildLiveAsset (record : Record) : Except PyError ListedAsset := do
  let extension := liveExtension py record
  let mimeType := mimeTypeOf py extension
  let width ← dimension ((record.field "thumb_width").orElse (record.field "image_width"))
  let height ← dimension ((record.field "thumb_height").orElse (record.field "image_height"))
  let thumbnailSource ← optionalSource py record (record.field "url_thm")
  let previewSource ← optionalSource py record
    ((record.field "url_pre").orElse (record.field "url_thm"))
  let createdAt ← toIsoDate py (record.field "creation_date")
  let updatedAt ← toIsoDate py (record.field "file_modified")
  return {
    id := str py (record.field "ref")
    name := pickAssetName py record
    description := pickAssetDescription record
    mimeType
    filename := (record.field "original_filename").orElse
      (.str (str py (record.field "ref") ++ "." ++ extension))
    width, height, createdAt, updatedAt, thumbnailSource, previewSource }

/-! ## Live pages -/

/-- `_LIVE_UNSUPPORTED_EXTENSION_FILTER`. -/
def liveUnsupportedExtensionFilter : String := "!propertiesfext:-tif;fext:-tiff"

/-- `build_live_search_string`. -/
def buildLiveSearchString (query : String) (containerId : Option String) : String :=
  let search := String.ofList (strip query.toList)
  let collectionRef := (decodeCollectionContainerId containerId).getD ""
  if collectionRef ≠ "" ∧ search ≠ "" then "!collection" ++ collectionRef ++ " " ++ search
  else if collectionRef ≠ "" then "!collection" ++ collectionRef
  else if search ≠ "" ∧ search.toList.all py.isDigit then "!resource" ++ search
  else if search ≠ "" then liveUnsupportedExtensionFilter ++ " " ++ search
  else liveUnsupportedExtensionFilter

/-- `build_live_preview_list_search`. -/
def buildLivePreviewListSearch (refs : List String) : String :=
  "!list" ++ ":".intercalate refs

/-- The objects among the items of a list. -/
def recordsOf (items : List Json) : List Record :=
  items.filterMap fun item =>
    match item with
    | .dict entries => some entries
    | _ => none

/-- `_live_search_records`: the total, and the records. The total of a bare list
    is its length. -/
def liveSearchRecords (response : Json) : Except PyError (ℤ × List Record) :=
  match response with
  | .dict entries => do
    let total ← intOr ((entries.lookup "total").getD .null) 0
    match entries.lookup "data" with
    | some (.list items) => return (total, recordsOf items)
    | _ => return (total, [])
  | .list items => .ok (items.length, recordsOf items)
  | _ => .ok (0, [])

/-- `_require_live_search_payload`. -/
def requireLiveSearchPayload (response : Json) : Except PyError Unit :=
  if response.isDict || response.isList then .ok ()
  else
    .error (.resourceSpaceError ⟨"UPSTREAM_REQUEST_FAILED",
      "ResourceSpace preview listing did not return search results.", 502⟩)

/-- `normalize_live_asset_page`: the assets it shows. -/
def normalizeLiveAssetPage (response : Json) : Except PyError (List ListedAsset) := do
  let (_, records) ← liveSearchRecords response
  let assets ← records.mapM (buildLiveAsset py)
  return assets.filter fun asset =>
    supportedImageMimeTypes.contains asset.mimeType && asset.thumbnailSource.isSome

/-- The parameters of a signed call, in their order. -/
abbrev CallParams := List (String × String)

/-- What `_call_live_api` returns or raises for a session, when the time left for
    the request allows the call. -/
abbrev LiveApi := CallParams → Except PyError Json

def orderBy (sort : String) : String := if sort = "name_asc" then "title" else "date"

def sortDirection (sort : String) : String := if sort = "updated_asc" then "asc" else "desc"

/-- The parameters that both calls of a page share. -/
def commonParams (sort : String) : CallParams :=
  [("order_by", orderBy sort), ("sort", sortDirection sort), ("archive", "0"),
   ("previewext", "jpg")]

/-- The parameters of the call that lists a page. -/
def listingParams (search : String) (offset limit : ℤ) (sort : String) : CallParams :=
  [("function", "search_get_previews"), ("search", search),
   ("fetchrows", toString offset ++ "," ++ toString limit)] ++ commonParams sort

/-- The parameters of the call that fetches the previews of records. -/
def previewParams (refs : List String) (sort : String) : CallParams :=
  [("function", "search_get_previews"), ("search", buildLivePreviewListSearch refs),
   ("fetchrows", "0," ++ toString refs.length), ("getsizes", "thm,pre")] ++ commonParams sort

/-- `_LIVE_FIND_MAX_LIMIT`. -/
def liveFindMaxLimit : ℤ := 100

/-- The references of the records whose previews are fetched. -/
def supportedRefs (records : List Record) : List String :=
  (records.filter fun record =>
    record.field "ref" ≠ .null && supportedLiveRecord py record).map fun record =>
      str py (record.field "ref")

/-- `{asset["id"]: asset for asset in assets}`. -/
def byId (assets : List ListedAsset) : Dict String ListedAsset :=
  assets.foldl (fun d asset => d.set asset.id asset) ∅

/-- `_list_live_assets`. -/
def listLiveAssets (api : LiveApi) (q : AssetQuery) : Except PyError AssetPage := do
  let offset := max 0 q.offset
  let limit := max 1 (min q.limit liveFindMaxLimit)
  let listing ← api
    (listingParams (buildLiveSearchString py q.query q.containerId) offset limit q.sort)
  requireLiveSearchPayload listing
  let (total, records) ← liveSearchRecords listing
  let refs := supportedRefs py records
  if refs.isEmpty then return { items := [], total, scanned := some records.length }
  else
    let previews ← api (previewParams refs q.sort)
    requireLiveSearchPayload previews
    let shown ← normalizeLiveAssetPage py previews
    return { items := refs.filterMap (byId shown).get?, total, scanned := some records.length }

/-! ## Live containers -/

/-- The objects of a list, which must hold nothing else. -/
def allRecords (items : List Json) : Except PyError (List Record) :=
  items.mapM fun item =>
    match item with
    | .dict entries => .ok entries
    | _ => .error .attributeError

/-- `_apply_configured_collection_tree`. -/
def applyConfiguredCollectionTree (tenant : Tenant) (collections : List Record)
    (parentId : Option String) : List Record :=
  let lookup := collections.foldl
    (fun (d : Dict String Record) collection => d.set (str py (collection.field "ref")) collection) ∅
  if !tenant.rootCollections.isEmpty then
    let currentIds := match parentId with
      | none => tenant.rootCollections
      | some parent => (tenant.collectionChildren.lookup parent).getD []
    currentIds.map fun ref =>
      (lookup.get? ref).getD [("ref", .str ref), ("name", .str ("Collection " ++ ref))]
  else if parentId.isSome then []
  else collections

/-- `_sort_collections`. -/
def sortCollections (collections : List Record) : List Record :=
  let key := fun (collection : Record) => ((collection.lookup "name").elim "" (str py))
  collections.mergeSort fun a b => decide (key a ≤ key b)

/-- `_build_live_collection_container`. -/
def buildLiveCollectionContainer (tenant : Tenant) (collection : Record) : Container :=
  let ref := str py (collection.field "ref")
  { id := "collection:" ++ ref
    name := (collection.field "name").orElse (.str ("Collection " ++ ref))
    description := if tenant.rootCollections.isEmpty then none else some ("Collection " ++ ref)
    numContainers := ((tenant.collectionChildren.lookup ref).getD []).length
    access := "read-write" }

/-- `_list_live_containers`. -/
def listLiveContainers (tenant : Tenant) (api : LiveApi) (parentId : Option String) :
    Except PyError (List Container) := do
  let response ← api [("function", "get_user_collections")]
  let collections ← match response with
    | .list items => allRecords items
    | _ => .ok []
  let level := applyConfiguredCollectionTree py tenant collections
    (decodeCollectionContainerId parentId)
  return (sortCollections py level).map (buildLiveCollectionContainer py tenant)

/-- `[container for container in containers if normalized in container["name"].lower()]`. -/
def namedContainers (query : String) (containers : List Container) :
    Except PyError (List Container) :=
  containers.filterM fun container =>
    match container.name with
    | .str name => .ok (decide (normalized py query <:+: py.unicode.lower name.toList))
    | _ => .error .attributeError

/-- The service of a live tenant. -/
def liveService (tenant : Tenant) (api : LiveApi) : ResourceSpaceService where
  listContainers := listLiveContainers py tenant api
  searchContainers parentId query :=
    listLiveContainers py tenant api parentId >>= namedContainers py query
  listAssets := listLiveAssets py api

end Live

end Broker
