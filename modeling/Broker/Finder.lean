import Broker.Authorise
import Broker.Listing

/-!
# Finding content

The route `/content/resources/find`, which lists the containers and the assets
of a scope page by page: first the containers, then the assets on what is left
of the page (`findPage`). Its continuation tells how many of either the listing
has gone through; where there is none, it is at its end.
-/

namespace Broker

open Py

/-! ## Requests and responses -/

/-- The body of a find request. -/
structure FindRequest where
  types : Option (List String)
  query : Option String
  sort : Option String
  containerId : Option String
  limit : Json
  continuation : Json

/-- `value or default`. -/
def strOr (value : Option String) (default : String) : String :=
  if truthyStr value then value.getD default else default

/-- The scope of a request, with the defaults of what it leaves out. -/
def FindRequest.scope (request : FindRequest) : FindScope where
  containerId := request.containerId
  query := strOr request.query ""
  sort := strOr request.sort "updated_desc"
  types := match request.types with
    | none | some [] => ["IMAGE", "CONTAINER"]
    | some types => types

/-- `int(body.get("limit") or 50)`. -/
def FindRequest.pageLimit (request : FindRequest) : Except PyError ℤ := intOr request.limit 50

/-- A preview, as Canva is told of it. -/
structure PreviewResponse where
  url : String
  width : Option ℤ
  height : Option ℤ
  deriving DecidableEq, Repr

structure ImageResponse where
  id : String
  name : String
  description : String
  mimeType : String
  filename : Json
  width : Option ℤ
  height : Option ℤ
  createdAt : Option String
  updatedAt : Option String
  thumbnail : PreviewResponse
  dragAndDropPreview : PreviewResponse
  downloadPath : String
  deriving DecidableEq, Repr

/-- `a or b`. -/
def sizeOr (a b : Option ℤ) : Option ℤ := if a.any (· ≠ 0) then a else b

/-- `_build_image_response`, for the URL of a preview grant. -/
def buildImageResponse (asset : ListedAsset) (url : String) : ImageResponse where
  id := asset.id
  name := asset.name
  description := asset.description
  mimeType := asset.mimeType
  filename := asset.filename
  width := asset.width
  height := asset.height
  createdAt := asset.createdAt
  updatedAt := asset.updatedAt
  thumbnail := ⟨url, asset.thumbnailSource.bind (·.width), asset.thumbnailSource.bind (·.height)⟩
  dragAndDropPreview :=
    ⟨url, sizeOr (asset.previewSource.bind (·.width)) asset.width,
      sizeOr (asset.previewSource.bind (·.height)) asset.height⟩
  downloadPath := "/content/resources/" ++ asset.id ++ "/download-url"

inductive Resource
  | container (container : Container)
  | image (image : ImageResponse)
  deriving DecidableEq, Repr

/-- The JSON of a container. -/
def Container.json (container : Container) : Json :=
  .dict [("id", .str container.id), ("type", .str "CONTAINER"), ("name", container.name),
    ("containerType", .str "folder"), ("description", optionalStr container.description),
    ("numContainers", .int container.numContainers), ("access", .str container.access)]

/-- An optional integer as a JSON value. -/
def optionalInt (n : Option ℤ) : Json := n.elim .null .int

def PreviewResponse.json (preview : PreviewResponse) : Json :=
  .dict [("url", .str preview.url), ("width", optionalInt preview.width),
    ("height", optionalInt preview.height)]

/-- The JSON of an image. -/
def ImageResponse.json (image : ImageResponse) : Json :=
  .dict [("id", .str image.id), ("type", .str "IMAGE"), ("name", .str image.name),
    ("description", .str image.description), ("mimeType", .str image.mimeType),
    ("filename", image.filename), ("width", optionalInt image.width),
    ("height", optionalInt image.height), ("createdAt", optionalStr image.createdAt),
    ("updatedAt", optionalStr image.updatedAt), ("thumbnail", image.thumbnail.json),
    ("dragAndDropPreview", image.dragAndDropPreview.json),
    ("downloadPath", .str image.downloadPath)]

def Resource.json : Resource → Json
  | .container c => c.json
  | .image i => i.json

inductive FindResponse
  /-- The error body `json_error`. -/
  | error (statusCode : ℤ) (code message : String) (retryAfter : Option ℤ)
  /-- The error body that Canva reads. -/
  | failed (statusCode : ℤ) (errorCode : String)
  | success (resources : List Resource) (continuation : Option String)
  deriving DecidableEq, Repr

/-! ## Pages -/

/-- What `create_preview_grant` is asked for. -/
structure PreviewRequest where
  source : Option ListedSource
  mimeType : Option String
  filename : Json

/-- The grant of an asset: for its preview, or else for its thumbnail. -/
def previewRequest (asset : ListedAsset) : PreviewRequest :=
  let source := asset.previewSource <|> asset.thumbnailSource
  ⟨source, source.map (·.mimeType), asset.filename⟩

/-- The URL of the `i`-th grant of a request, or what its creation raises. -/
abbrev PreviewGrants := ℕ → PreviewRequest → Except PyError String

/-- The images of a page, whose first grant is the `i`-th. -/
def showAssets (grants : PreviewGrants) : ℕ → List ListedAsset → Except PyError (List Resource)
  | _, [] => .ok []
  | i, asset :: assets => do
    let url ← grants i (previewRequest asset)
    let images ← showAssets grants (i + 1) assets
    return .image (buildImageResponse asset url) :: images

/-- `_advance_asset_offset`. -/
def advanceAssetOffset (current : ℤ) (page : AssetPage) (total : ℤ) : ℤ :=
  let consumed := match page.scanned with
    | some scanned => max 0 scanned
    | none => page.items.length
  if consumed ≤ 0 then max current total else current + consumed

/-- The containers of a scope. -/
def findContainers (service : ResourceSpaceService) (scope : FindScope) :
    Except PyError (List Container) :=
  if scope.types.contains "CONTAINER" then
    if scope.query ≠ "" then service.searchContainers scope.containerId scope.query
    else service.listContainers scope.containerId
  else .ok []

/-- A call of `list_assets` for the scope. -/
def FindScope.assetQuery (scope : FindScope) (offset limit : ℤ) : AssetQuery where
  query := scope.query
  containerId := scope.containerId
  offset := offset
  limit := limit
  sort := scope.sort

/-- The images of a page with so much room left: the images, the asset offset after
    the page, and how many assets there are. -/
def findImages (service : ResourceSpaceService) (grants : PreviewGrants) (scope : FindScope)
    (remaining assetOffset : ℤ) : Except PyError (List Resource × ℤ × ℤ) :=
  if scope.types.contains "IMAGE" then
    if 0 < remaining then do
      let page ← service.listAssets (scope.assetQuery assetOffset remaining)
      let images ← showAssets grants 0 page.items
      return (images, advanceAssetOffset assetOffset page page.total, page.total)
    else do
      -- The page is full: whether there are assets is all that is asked.
      let page ← service.listAssets (scope.assetQuery 0 1)
      return ([], assetOffset, page.total)
  else .ok ([], assetOffset, 0)

/-- A page, and the offsets after it. -/
structure FindPage where
  resources : List Resource
  containerOffset : ℤ
  assetOffset : ℤ
  /-- There is more after the page. -/
  more : Bool

/-- The page after a cursor. -/
def findPage (service : ResourceSpaceService) (grants : PreviewGrants) (scope : FindScope)
    (limit containerOffset assetOffset : ℤ) : Except PyError FindPage := do
  let containers ← findContainers service scope
  let sliced := slice containers containerOffset (containerOffset + limit)
  let (images, newAssetOffset, assetTotal) ←
    findImages service grants scope (limit - sliced.length) assetOffset
  let newContainerOffset := containerOffset + sliced.length
  return {
    resources := sliced.map .container ++ images
    containerOffset := newContainerOffset
    assetOffset := newAssetOffset
    more := newContainerOffset < containers.length || newAssetOffset < assetTotal }

/-- `_map_find_error`. -/
def mapFindError (error : ResourceSpaceError) : String :=
  if error.code = "UPSTREAM_SESSION_EXPIRED" then "CONFIGURATION_REQUIRED"
  else if ["FORBIDDEN", "UNKNOWN_TENANT"].contains error.code then "FORBIDDEN"
  else if error.code = "NOT_FOUND" then "NOT_FOUND"
  else if error.code = "INVALID_TENANT_URL" then "INVALID_REQUEST"
  else if error.code = "UPSTREAM_UNAVAILABLE" then "TIMEOUT"
  else "INTERNAL_ERROR"

/-- The body of a page. -/
def pageBody (resources : List Resource) (continuation : Option String) : Json :=
  .dict ([("type", .str "SUCCESS"), ("resources", .list (resources.map Resource.json))] ++
    continuation.elim [] fun text => [("continuation", .str text)])

/-- `JSONResponse(...)` of a page, which writes its body. -/
def renderPage (py : Interpreter) (resources : List Resource) (continuation : Option String) :
    Except PyError FindResponse :=
  match (pageBody resources continuation).dumpError? (py.dumpsDepth + 4) with
  | none => .ok (.success resources continuation)
  | some .value => .error .valueError
  | some .recursion => .error .recursionError

/-- A page can show the resource: its JSON is written. -/
def Resource.Renders (py : Interpreter) (resource : Resource) : Prop :=
  resource.json.dumpError? (py.dumpsDepth + 2) = none

/-- A page can show the asset, with the URL of any grant. -/
def ListedAsset.Renders (py : Interpreter) (asset : ListedAsset) : Prop :=
  ∀ url, (Resource.image (buildImageResponse asset url)).Renders py

/-- The answer to a request for a page: it carries a continuation if there is more. What
    writing it raises is answered like any other error. -/
def answerFind (py : Interpreter) (service : ResourceSpaceService) (grants : PreviewGrants)
    (scope : FindScope) (limit : ℤ) (cursor : Continuation) : FindResponse :=
  let answer : Except PyError FindResponse := do
    let page ← findPage service grants scope limit cursor.containerOffset cursor.assetOffset
    if page.more then
      let continuation ←
        Continuation.encode (scopeKey scope) page.containerOffset page.assetOffset
      renderPage py page.resources (some continuation)
    else renderPage py page.resources none
  match answer with
  | .ok response => response
  | .error e => .failed 200 (mapFindError (mapError e))

/-- `content_resources_find`, past its authorisation. -/
def find (py : Interpreter) (service : ResourceSpaceService) (grants : PreviewGrants)
    (request : FindRequest) : Except PyError FindResponse := do
  match ← Continuation.decode py.depth request.continuation with
  | none => return .failed 400 "INVALID_REQUEST"
  | some cursor =>
    let limit ← request.pageLimit
    if cursor.scopeKey.truthy && cursor.scopeKey ≠ .str (scopeKey request.scope) then
      return .failed 400 "INVALID_REQUEST"
    else return answerFind py service grants request.scope limit cursor

/-! ## Authorisation -/

/-- `token_has_scope`. -/
def tokenHasScope (record : AccessToken) (required : String) : Bool :=
  ((record.scope.toList.splitOnP isSpace).filter (· ≠ [])).contains required.toList

/-- `content_resources_find`, given the verdict of the rate limiter, the bearer
    token, and the record that is read for it. -/
def contentResourcesFind (py : Interpreter) (service : Session → ResourceSpaceService)
    (grants : PreviewGrants) (rate : RateLimitResult) (token : Option String)
    (record : Except PyError (Option AccessToken)) (request : FindRequest) :
    Except PyError FindResponse :=
  if !rate.allowed then
    .ok (.error 429 "RATE_LIMITED" "Too many requests." (some (max 1 (rate.retryAfterMs / 1000))))
  else if !truthyStr token then
    .ok (.error 401 "MISSING_BEARER_TOKEN" "Missing bearer token." none)
  else do
    match ← record with
    | none => return .error 401 "SESSION_EXPIRED" "Access token is invalid or expired." none
    | some record =>
      if !tokenHasScope record "dam:read" then
        return .error 403 "INSUFFICIENT_SCOPE" "Token is missing the dam:read scope." none
      else find py (service record.session) grants request

end Broker
