import Broker.Listing

/-!
# Fixture listings

The listings of `ResourceSpaceService` from the fixture data
(`fixtureService`): the assets a user may see, in the order asked for.
-/

namespace Broker

open Py

/-- A container of the fixture data. -/
structure FixtureContainer where
  id : String
  tenantId : String
  parentId : Option String
  name : String

/-- An asset of the fixture data. -/
structure FixtureAsset where
  id : String
  tenantId : String
  containerId : String
  title : String
  summary : String
  mimeType : String
  filename : String
  width : ℤ
  height : ℤ
  restrictedTo : List String
  createdAt : String
  updatedAt : String

namespace Fixture

/-- `CONTAINERS`. -/
def containers : List FixtureContainer :=
  [⟨"container_acme_root", "tenant_acme", none, "Brand Library"⟩,
   ⟨"container_acme_campaigns", "tenant_acme", some "container_acme_root", "Campaigns"⟩,
   ⟨"container_acme_social", "tenant_acme", some "container_acme_root", "Social"⟩,
   ⟨"container_globex_root", "tenant_globex", none, "Launch Assets"⟩,
   ⟨"container_globex_evergreen", "tenant_globex", some "container_globex_root", "Evergreen"⟩]

/-- `ASSETS`. -/
def assets : List FixtureAsset :=
  [{ id := "asset_summer_hero", tenantId := "tenant_acme"
     containerId := "container_acme_campaigns", title := "Summer Hero Banner"
     summary := "Primary hero image for seasonal campaign work."
     mimeType := "image/svg+xml", filename := "summer-hero.svg", width := 1600, height := 900
     restrictedTo := [], createdAt := "2026-03-02T09:15:00.000Z"
     updatedAt := "2026-04-01T08:45:00.000Z" },
   { id := "asset_social_tiles", tenantId := "tenant_acme"
     containerId := "container_acme_social", title := "Social Tiles Pack"
     summary := "Square social pack for paid and organic posts."
     mimeType := "image/svg+xml", filename := "social-tiles.svg", width := 1080, height := 1080
     restrictedTo := [], createdAt := "2026-03-10T12:00:00.000Z"
     updatedAt := "2026-04-08T16:00:00.000Z" },
   { id := "asset_board_minutes", tenantId := "tenant_acme"
     containerId := "container_acme_root", title := "Board Minutes Scan"
     summary := "Visible but not importable because TIFF is out of scope for Phase 1."
     mimeType := "image/tiff", filename := "board-minutes.tiff", width := 1400, height := 1400
     restrictedTo := [], createdAt := "2026-02-01T10:00:00.000Z"
     updatedAt := "2026-02-01T10:00:00.000Z" },
   { id := "asset_confidential_strategy", tenantId := "tenant_acme"
     containerId := "container_acme_campaigns", title := "Confidential Strategy Sheet"
     summary := "Visible only to Alice inside the tenant."
     mimeType := "image/svg+xml", filename := "confidential-strategy.svg", width := 1400
     height := 900, restrictedTo := ["user_alice"], createdAt := "2026-03-18T10:00:00.000Z"
     updatedAt := "2026-03-18T10:00:00.000Z" },
   { id := "asset_globex_product", tenantId := "tenant_globex"
     containerId := "container_globex_root", title := "Globex Product Showcase"
     summary := "Launch imagery for product showcase collateral."
     mimeType := "image/svg+xml", filename := "globex-product-showcase.svg", width := 1400
     height := 900, restrictedTo := [], createdAt := "2026-03-28T10:00:00.000Z"
     updatedAt := "2026-04-04T10:00:00.000Z" },
   { id := "asset_globex_logo", tenantId := "tenant_globex"
     containerId := "container_globex_evergreen", title := "Globex Logo Lockup"
     summary := "Evergreen logo treatment for general brand use."
     mimeType := "image/svg+xml", filename := "globex-logo-lockup.svg", width := 1200
     height := 700, restrictedTo := [], createdAt := "2026-01-11T10:00:00.000Z"
     updatedAt := "2026-03-11T10:00:00.000Z" }]

/-- `can_user_see_asset`. -/
def canUserSeeAsset (user : Option FixtureUser) (asset : FixtureAsset) : Bool :=
  user.any fun user =>
    user.tenantId = asset.tenantId &&
      (asset.restrictedTo.isEmpty || asset.restrictedTo.contains user.id)

/-- `get_asset_by_id`. -/
def getAssetById (assetId : String) : Option FixtureAsset := assets.find? (·.id = assetId)

theorem mem_of_getAssetById {assetId : String} {asset : FixtureAsset}
    (h : getAssetById assetId = some asset) : asset ∈ assets ∧ asset.id = assetId :=
  ⟨List.mem_of_find?_eq_some h, by simpa using List.find?_some h⟩

theorem getAssetById_of_mem : ∀ asset ∈ assets, getAssetById asset.id = some asset := by
  simp only [assets, List.forall_mem_cons, List.not_mem_nil, false_implies, implies_true, and_true]
  exact ⟨rfl, rfl, rfl, rfl, rfl, rfl⟩

/-- `get_container_by_id`. -/
def getContainerById (containerId : Option String) : Option FixtureContainer :=
  containerId.bind fun id => containers.find? (·.id = id)

/-- The containers from one on up to its root: at most one for each container of
    the data. -/
def ancestors : (fuel : ℕ) → (containerId : Option String) → List FixtureContainer
  | 0, _ => []
  | fuel + 1, containerId =>
    match getContainerById containerId with
    | none => []
    | some container => container :: ancestors fuel container.parentId

/-- `get_container_path`. -/
def getContainerPath (containerId : Option String) : String :=
  " / ".intercalate ((ancestors containers.length containerId).reverse.map (·.name))

/-- `list_child_containers`. -/
def listChildContainers (tenantId : String) (parentId : Option String) : List FixtureContainer :=
  containers.filter fun container => container.tenantId = tenantId ∧ container.parentId = parentId

/-- `_is_asset_in_container_subtree`. -/
def isAssetInContainerSubtree (asset : FixtureAsset) (containerId : Option String) : Bool :=
  !truthyStr containerId || some asset.containerId = containerId ||
    (ancestors containers.length (some asset.containerId)).any fun container =>
      truthyStr container.parentId && container.parentId = containerId

/-- `search_visible_assets`. -/
def searchVisibleAssets (unicode : Unicode) (user : Option FixtureUser) (query : String)
    (containerId : Option String) : List FixtureAsset :=
  let normalized := unicode.lower (strip query.toList)
  assets.filter fun asset =>
    let path := getContainerPath (some asset.containerId)
    let haystack := " ".intercalate ([asset.title, asset.summary, path].filter (· ≠ ""))
    canUserSeeAsset user asset && isAssetInContainerSubtree asset containerId &&
      (normalized.isEmpty || decide (normalized <:+: unicode.lower haystack.toList))

/-- `sort_assets`, for entries with these titles and times. -/
def sortAssets {α : Type} (title updatedAt : α → String) (entries : List α) (sort : String) :
    List α :=
  if sort = "name_asc" then entries.mergeSort fun a b => decide (title a ≤ title b)
  else if sort = "updated_asc" then entries.mergeSort fun a b => decide (updatedAt a ≤ updatedAt b)
  else entries.mergeSort fun a b => decide (updatedAt b ≤ updatedAt a)

theorem length_sortAssets {α : Type} (title updatedAt : α → String) (entries : List α)
    (sort : String) : (sortAssets title updatedAt entries sort).length = entries.length := by
  rw [sortAssets]
  split_ifs <;> exact List.length_mergeSort entries

theorem mem_sortAssets {α : Type} {title updatedAt : α → String} {entries : List α} {sort : String}
    {entry : α} : entry ∈ sortAssets title updatedAt entries sort ↔ entry ∈ entries := by
  rw [sortAssets]
  split_ifs
  · exact (List.mergeSort_perm _ _).mem_iff
  · exact (List.mergeSort_perm _ _).mem_iff
  · exact (List.mergeSort_perm _ _).mem_iff

end Fixture

/-- `_build_fixture_container`. -/
def buildFixtureContainer (container : FixtureContainer) : Container where
  id := "fixture:" ++ container.id
  name := .str container.name
  description := some (Fixture.getContainerPath (some container.id))
  numContainers := (Fixture.listChildContainers container.tenantId (some container.id)).length
  access := "read-only"

/-- `_build_fixture_asset`. -/
def buildFixtureAsset (asset : FixtureAsset) : ListedAsset where
  id := asset.id
  name := asset.title
  description := asset.summary
  mimeType := asset.mimeType
  filename := .str asset.filename
  width := some asset.width
  height := some asset.height
  createdAt := some asset.createdAt
  updatedAt := some asset.updatedAt
  thumbnailSource := some
    { kind := "fixture", url := none, assetId := some asset.id, variant := some "thumbnail"
      mimeType := "image/svg+xml", width := some 480, height := some 320 }
  previewSource := some
    { kind := "fixture", url := none, assetId := some asset.id, variant := some "preview"
      mimeType := asset.mimeType, width := some asset.width, height := some asset.height }

section

variable (py : Interpreter) (session : Session)

/-- `_list_fixture_containers`. -/
def listFixtureContainers (parentId : Option String) : List Container :=
  (Fixture.listChildContainers session.tenant.id (decodeFixtureContainerId parentId)).map
    buildFixtureContainer

/-- The assets of a scope that a page of them is cut from. -/
def visibleFixtureAssets (query : String) (containerId : Option String) (sort : String) :
    List FixtureAsset :=
  (Fixture.sortAssets (·.title) (·.updatedAt)
    (Fixture.searchVisibleAssets py.unicode (Fixture.getUserById session.user.id) query
      (decodeFixtureContainerId containerId)) sort).filter
    fun asset => supportedImageMimeTypes.contains asset.mimeType

variable {py session} in
theorem mem_visibleFixtureAssets {query sort : String} {containerId : Option String}
    {asset : FixtureAsset} :
    asset ∈ visibleFixtureAssets py session query containerId sort ↔
      asset ∈ Fixture.searchVisibleAssets py.unicode (Fixture.getUserById session.user.id) query
        (decodeFixtureContainerId containerId) ∧
      supportedImageMimeTypes.contains asset.mimeType = true := by
  rw [visibleFixtureAssets, List.mem_filter, Fixture.mem_sortAssets]

variable {py session} in
theorem mem_assets_of_visible {query sort : String} {containerId : Option String}
    {asset : FixtureAsset} (h : asset ∈ visibleFixtureAssets py session query containerId sort) :
    asset ∈ Fixture.assets := by
  have hsearched := (mem_visibleFixtureAssets.1 h).1
  rw [Fixture.searchVisibleAssets] at hsearched
  exact List.mem_of_mem_filter hsearched

/-- `_list_fixture_assets`. -/
def listFixtureAssets (q : AssetQuery) : AssetPage :=
  let visible := visibleFixtureAssets py session q.query q.containerId q.sort
  let items := (slice visible q.offset (q.offset + q.limit)).map buildFixtureAsset
  { items, total := visible.length, scanned := some items.length }

/-- The service of a fixture tenant. -/
def fixtureService : ResourceSpaceService where
  listContainers parentId := .ok (listFixtureContainers session parentId)
  searchContainers parentId query := namedContainers py query (listFixtureContainers session parentId)
  listAssets q := .ok (listFixtureAssets py session q)

end

end Broker
