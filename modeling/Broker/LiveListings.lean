import Broker.Enumeration

/-!
# Listings of tenants

A client that follows continuations gets the whole listing of a live tenant that
tells the total, and of a fixture tenant (`find_enumerates`). A live tenant that
answers with bare lists of the rows asked for ends its listing with the first
page of assets (`bare_lists_agree_iff`).

What a live tenant holds is a list of records that have distinct references. A
record whose asset cannot be built, for a width that is no number, fails the page
that it is on (`malformed_record_fails`).
-/

namespace Broker

open Py

section

variable {py : Interpreter} {tenant : Tenant} {api : LiveApi} {scope : FindScope}

/-- The tenant answers a request for `n` rows of a listing from the `o`-th on. -/
def Lists (api : LiveApi) (search sort : String) (records : List Record)
    (answer : List Record → Json) : Prop :=
  ∀ o n : ℕ, 0 < n →
    api (listingParams search o n sort) = .ok (answer ((records.drop o).take n))

variable (py) in
/-- A live tenant holds the listing for the scope, and answers with its rows. -/
structure Holds (api : LiveApi) (scope : FindScope) (listing : LiveListing py)
    (answer : List Record → Json) : Prop where
  lists : Lists api (buildLiveSearchString py scope.query scope.containerId) scope.sort
    listing.records answer
  previews : FetchesPreviews py api scope.sort listing.records

/-- All that a listing shows can be written: the containers, and the assets of the records. -/
structure LiveListing.Renders (listing : LiveListing py) (containers : List Container) :
    Prop where
  containers : ∀ container ∈ containers, (Resource.container container).Renders py
  assets : ∀ record ∈ listing.records, ∀ asset, shownAsset py record = some asset →
    asset.Renders py

/-- The assets of the slots of a listing. -/
theorem LiveListing.Renders.slots {listing : LiveListing py} {containers : List Container}
    (renders : listing.Renders containers) :
    ∀ asset, some asset ∈ listing.records.map (shownAsset py) → asset.Renders py := by
  intro asset hasset
  obtain ⟨record, hrecord, hshown⟩ := List.mem_map.1 hasset
  exact renders.assets record hrecord asset hshown

/-- The rows that a live tenant is asked for. -/
def liveRows (n : ℕ) : ℕ := min n liveFindMaxLimit.toNat

/-- The values that a function has, of those it may have none for. -/
theorem reduceOption_map {α β : Type} (f : α → Option β) (l : List α) :
    (l.map f).reduceOption = l.filterMap f := List.filterMap_map

theorem reduceOption_window (records : List Record) (o n : ℕ) :
    (((records.map (shownAsset py)).drop o).take n).reduceOption =
      ((records.drop o).take n).filterMap (shownAsset py) := by
  rw [← List.map_drop, ← List.map_take, reduceOption_map]

/-- A live tenant answers with windows of its records. -/
theorem windows_live {listing : LiveListing py} {answer : List Record → Json} (total : ℕ → ℕ)
    (holds : Holds py api scope listing answer)
    (payload : ∀ rows, requireLiveSearchPayload (answer rows) = .ok ())
    (records : ∀ rows, liveSearchRecords (answer rows) = .ok ((total rows.length : ℕ), rows)) :
    Windows (liveService py tenant api) scope (listing.records.map (shownAsset py)) liveRows
      fun window => total window.length where
  pos n hn := lt_min hn (by decide)
  page o n hn := by
    have hoffset : max 0 (o : ℤ) = (o : ℕ) := by omega
    have hlimit : max 1 (min (n : ℤ) liveFindMaxLimit) = (liveRows n : ℕ) := by
      rw [liveRows, liveFindMaxLimit]
      omega
    have hlisted := holds.lists o (liveRows n) (lt_min hn (by decide))
    rw [← hoffset, ← hlimit] at hlisted
    have hpage := listLiveAssets_eq (q := scope.assetQuery o n) listing
      ((List.take_sublist _ _).trans (List.drop_sublist _ _)) hlisted (payload _) (records _)
      holds.previews
    rw [reduceOption_window, ← List.map_drop, ← List.map_take, List.length_map]
    exact hpage

variable (py scope) in
/-- The assets of the fixture data that the scope lists. -/
def fixtureListing (session : Session) : List FixtureAsset :=
  visibleFixtureAssets py session scope.query scope.containerId scope.sort

theorem length_fixtureListing (session : Session) :
    (fixtureListing py scope session).length ≤ Fixture.assets.length := by
  refine (List.length_filter_le _ _).trans ?_
  rw [Fixture.length_sortAssets]
  exact List.length_filter_le _ _

/-- A fixture tenant answers with windows of its assets. -/
theorem windows_fixture (session : Session) :
    Windows (fixtureService py session) scope
      ((fixtureListing py scope session).map fun asset => some (buildFixtureAsset asset))
      (fun n => n) fun _ => (fixtureListing py scope session).length where
  pos n hn := hn
  page o n hn := by
    have hslice := slice_window (fixtureListing py scope session) o n
    rw [← List.map_drop, ← List.map_take, List.length_map, ← hslice, reduceOption_map]
    change Except.ok (listFixtureAssets py session (scope.assetQuery o n)) = _
    rw [listFixtureAssets, List.length_map]
    congr 2
    exact congrFun List.filterMap_eq_map.symm _

/-- The containers of the fixture data can be written. -/
theorem renders_buildFixtureContainer (container : FixtureContainer) :
    (Resource.container (buildFixtureContainer container)).Renders py := by
  have hcount : (buildFixtureContainer container).numContainers < 10 ^ intMaxStrDigits :=
    calc (buildFixtureContainer container).numContainers
      _ ≤ Fixture.containers.length := List.length_filter_le _ _
      _ < 10 ^ 1 := by decide
      _ ≤ 10 ^ intMaxStrDigits := Nat.pow_le_pow_right (by decide) (by decide)
  have hshort := Nat.toDigits_length 10 _ intMaxStrDigits (by decide) hcount
  have hname : (buildFixtureContainer container).name = .str container.name := rfl
  have hdescription : ∃ path, (buildFixtureContainer container).description = some path := ⟨_, rfl⟩
  obtain ⟨path, hpath⟩ := hdescription
  simp [Resource.Renders, Resource.json, Container.json, hname, hpath, optionalStr, Json.dumpError?,
    Json.entriesError?, hshort]

/-- So can those that a fixture tenant lists. -/
theorem renders_fixture_containers {session : Session} {containers : List Container}
    (found : findContainers (fixtureService py session) scope = .ok containers) :
    ∀ container ∈ containers, (Resource.container container).Renders py := by
  have hlisted : ∀ parentId, ∀ container ∈ listFixtureContainers session parentId,
      (Resource.container container).Renders py := by
    intro parentId container h
    obtain ⟨fixture, -, rfl⟩ := List.mem_map.1 h
    exact renders_buildFixtureContainer fixture
  rw [findContainers] at found
  split_ifs at found
  · exact fun container h => hlisted _ container (subset_of_filterM found h)
  · cases found
    exact hlisted _
  · cases found
    exact fun _ h => absurd h List.not_mem_nil

/-- The assets of the fixture data can be written. -/
theorem renders_buildFixtureAsset {asset : FixtureAsset} (h : asset ∈ Fixture.assets) :
    (buildFixtureAsset asset).Renders py := by
  intro url
  simp only [Fixture.assets, List.mem_cons, List.not_mem_nil, or_false] at h
  rcases h with rfl | rfl | rfl | rfl | rfl | rfl <;> rfl

variable (scope) in
/-- What a listing shows of these assets: nothing, where the scope has no images. -/
def imagesIn (assets : List ListedAsset) : List ListedAsset :=
  if "IMAGE" ∈ scope.types then assets else []

variable (scope) in
/-- A client that starts without a continuation has a cursor of the scope. -/
theorem start_of : Continuation.start.Of scope 0 0 := ⟨rfl, rfl, fun h => by cases h⟩

theorem start_reads (depth : ℕ) : Continuation.decode depth .null = .ok (some .start) :=
  Continuation.decode_of_falsy depth rfl

variable {l : FindListing} {containers : List Container}

/-- The listing of a live tenant that tells the total. -/
theorem exhausts_live {tenant : Tenant} {api : LiveApi} {listing : LiveListing py}
    (ready : l.Ready containers) (service : l.service = liveService py tenant api)
    (renders : listing.Renders containers)
    (countable : listing.records.length < 10 ^ intMaxStrDigits)
    (holds : Holds py api l.request.scope listing (fullAnswer listing.records.length)) :
    ∃ shown, ImagesOf shown
        (imagesIn l.request.scope (listing.records.filterMap (shownAsset py))) ∧
      l.Exhausts py 0 .null (containers.map .container ++ shown) := by
  have hwindows := @windows_live _ tenant _ _ _ _ (fun _ => listing.records.length) holds
    (fun rows => (PageOf.full _ rows).payload) (liveSearchRecords_full listing.records.length)
  rw [← service, ← List.length_map (shownAsset py)] at hwindows
  have windowed : l.Over py containers (listing.records.map (shownAsset py)) liveRows _ :=
    { ready with
      windows := hwindows
      slotsCountable := by rwa [List.length_map]
      containersRender := renders.containers
      assetsRender := renders.slots }
  obtain ⟨shown, hshown, hexhausts⟩ := exhausts_from windowed
    (start_reads py.depth) (start_of _) (Nat.zero_le _) (Nat.zero_le _)
  refine ⟨shown, ?_, hexhausts⟩
  rw [List.drop_zero, FindScope.images, reduceOption_map] at hshown
  exact hshown

/-- The listing of a live tenant that answers with bare lists: of its assets, those on
    the first page of them. -/
theorem exhausts_live_bare {tenant : Tenant} {api : LiveApi} {listing : LiveListing py} {n : ℕ}
    (ready : l.Ready containers) (service : l.service = liveService py tenant api)
    (renders : listing.Renders containers)
    (countable : listing.records.length < 10 ^ intMaxStrDigits)
    (holds : Holds py api l.request.scope listing bareAnswer) (pos : 0 < n)
    (limit : ∀ i, intOr (l.limits i) 50 = .ok n) :
    ∃ shown, ImagesOf shown (imagesIn l.request.scope
        ((listing.records.take (liveRows (n - containers.length % n))).filterMap
          (shownAsset py))) ∧
      l.Exhausts py 0 .null (containers.map .container ++ shown) := by
  have hwindows : Windows (liveService py tenant api) l.request.scope _ _ _ :=
    windows_live (fun length => length) holds (fun rows => (PageOf.bare rows).payload)
      liveSearchRecords_bare
  rw [← service] at hwindows
  have windowed : l.Over py containers (listing.records.map (shownAsset py)) liveRows List.length :=
    { ready with
      windows := hwindows
      slotsCountable := by rwa [List.length_map]
      containersRender := renders.containers
      assetsRender := renders.slots }
  obtain ⟨shown, hshown, hexhausts⟩ := exhausts_bare_from windowed pos limit
    (start_reads py.depth) (start_of _) (Nat.zero_le _)
  refine ⟨shown, ?_, hexhausts⟩
  have hpage := @reduceOption_window py listing.records 0
    (liveRows (n - containers.length % n))
  rw [List.drop_zero, List.drop_zero] at hpage
  rw [Nat.sub_zero, FindScope.images, hpage] at hshown
  exact hshown

/-- The listing of a fixture tenant. -/
theorem exhausts_fixture {session : Session} (ready : l.Ready containers)
    (service : l.service = fixtureService py session) :
    ∃ shown, ImagesOf shown (imagesIn l.request.scope
        ((fixtureListing py l.request.scope session).map buildFixtureAsset)) ∧
      l.Exhausts py 0 .null (containers.map .container ++ shown) := by
  have hwindows : Windows (fixtureService py session) l.request.scope _ _ _ :=
    @windows_fixture py _ session
  rw [← service, ← List.length_map fun asset => some (buildFixtureAsset asset)] at hwindows
  have windowed : l.Over py containers ((fixtureListing py l.request.scope session).map
      fun asset => some (buildFixtureAsset asset)) (fun n => n) _ :=
    { ready with
      windows := hwindows
      slotsCountable := by
        rw [List.length_map]
        have hassets : Fixture.assets.length < 10 ^ 1 := by decide
        have hpow : 10 ^ 1 ≤ 10 ^ intMaxStrDigits := Nat.pow_le_pow_right (by decide) (by decide)
        exact lt_of_le_of_lt (length_fixtureListing session) (lt_of_lt_of_le hassets hpow)
      containersRender := renders_fixture_containers (service ▸ ready.found)
      assetsRender := by
        rintro _ hasset
        obtain ⟨asset, hmem, hshown⟩ := List.mem_map.1 hasset
        cases hshown
        exact renders_buildFixtureAsset (mem_assets_of_visible hmem) }
  obtain ⟨shown, hshown, hexhausts⟩ := exhausts_from windowed
    (start_reads py.depth) (start_of _) (Nat.zero_le _) (Nat.zero_le _)
  refine ⟨shown, ?_, hexhausts⟩
  rw [List.drop_zero, FindScope.images, reduceOption_map] at hshown
  rw [imagesIn, ← List.filterMap_eq_map]
  exact hshown

end

/-! ## The ids of a listing -/

/-- The id of a resource that is an asset. -/
def Resource.assetId? : Resource → Option String
  | .image response => some response.id
  | .container _ => none

/-- The ids of the assets among resources. -/
def assetIds (resources : List Resource) : List String := resources.filterMap Resource.assetId?

theorem assetIds_of_imagesOf (containers : List Container) {shown : List Resource}
    {assets : List ListedAsset} (h : ImagesOf shown assets) :
    assetIds (containers.map .container ++ shown) = assets.map (·.id) := by
  have hcontainers : assetIds (containers.map .container) = [] := by
    rw [assetIds, List.filterMap_map]
    exact List.filterMap_eq_nil_iff.2 fun _ _ => rfl
  have hshown : assetIds shown = assets.map (·.id) := by
    induction h with
    | nil => rfl
    | cons himage _ ih =>
      obtain ⟨url, rfl⟩ := himage
      exact congrArg (List.cons _) ih
  rw [assetIds, List.filterMap_append]
  exact (congrArg₂ _ hcontainers hshown).trans (List.nil_append _)

/-! ## Whole listings -/

/-- A client that follows continuations from none on comes to the end of a listing,
    with the containers of the scope and all assets of the tenant that are shown, each
    once and in its order. -/
theorem find_enumerates (py : Interpreter) {l : FindListing} {containers : List Container}
    (ready : l.Ready containers) :
    (∀ (tenant : Tenant) (api : LiveApi) (listing : LiveListing py),
      l.service = liveService py tenant api → listing.Renders containers →
      listing.records.length < 10 ^ intMaxStrDigits →
      Holds py api l.request.scope listing (fullAnswer listing.records.length) →
      ∃ shown, ImagesOf shown
          (imagesIn l.request.scope (listing.records.filterMap (shownAsset py))) ∧
        l.Exhausts py 0 .null (containers.map .container ++ shown)) ∧
    (∀ session : Session, l.service = fixtureService py session →
      ∃ shown, ImagesOf shown
          (imagesIn l.request.scope
            ((fixtureListing py l.request.scope session).map buildFixtureAsset)) ∧
        l.Exhausts py 0 .null (containers.map .container ++ shown)) :=
  ⟨fun _ _ _ service renders countable holds => exhausts_live ready service renders countable holds,
    fun _ service => exhausts_fixture ready service⟩

namespace Sample

/-- The integers of `fetchrows`. -/
def fetchrows (text : String) : ℕ × ℕ :=
  let parts := partition ',' text.toList
  (Nat.ofDigitChars 10 parts.1 0, Nat.ofDigitChars 10 parts.2.2 0)

theorem fetchrows_eq (o n : ℕ) :
    fetchrows (toString (o : ℤ) ++ "," ++ toString (n : ℤ)) = (o, n) := by
  have htext : ∀ k : ℕ, (toString (k : ℤ)).toList = Nat.toDigits 10 k := fun k => by
    change (toString k).toList = _
    exact String.toList_ofList
  have hfree : ',' ∉ Nat.toDigits 10 o := fun h => by cases isDigit_of_mem_toDigits h
  have hparts : partition ',' (toString (o : ℤ) ++ "," ++ toString (n : ℤ)).toList =
      (Nat.toDigits 10 o, true, Nat.toDigits 10 n) := by
    rw [String.toList_append, String.toList_append, htext, htext, List.append_assoc]
    exact partition_append hfree _
  rw [fetchrows, hparts]
  simp only [Nat.ofDigitChars_ten_toDigits]

/-- A live tenant that holds these records, with references of one digit. -/
def recordsApi (records : List Record) (answer : List Record → Json) : LiveApi := fun params =>
  if (params.lookup "getsizes").isSome then
    .ok (answer (records.filter fun record =>
      decide ((liveRef interpreter record).toList <:+: ((params.lookup "search").getD "").toList)))
  else
    let window := fetchrows ((params.lookup "fetchrows").getD "")
    .ok (answer ((records.drop window.1).take window.2))

theorem lists_recordsApi (search sort : String) (records : List Record)
    (answer : List Record → Json) :
    Lists (recordsApi records answer) search sort records answer := by
  intro o n _
  have hsizes : (listingParams search o n sort).lookup "getsizes" = none := rfl
  have hrows : (listingParams search o n sort).lookup "fetchrows" =
    some (toString (o : ℤ) ++ "," ++ toString (n : ℤ)) := rfl
  rw [recordsApi, hsizes, hrows]
  simp only [Option.isSome_none, Bool.false_eq_true, if_false, Option.getD_some, fetchrows_eq]

theorem recordsApi_previews {records rows : List Record} {answer : List Record → Json}
    (sort : String) (named : records.filter (fun record => decide
      ((liveRef interpreter record).toList <:+: (buildLivePreviewListSearch
        (rows.map (liveRef interpreter))).toList)) = rows) :
    recordsApi records answer (previewParams (rows.map (liveRef interpreter)) sort) =
      .ok (answer rows) :=
  congrArg (fun found => Except.ok (answer found)) named

/-- A record of a picture. -/
def picture (ref : ℤ) (title created : String) : Record :=
  [("ref", .int ref), ("field8", .str title), ("creation_date", .str created),
   ("file_extension", .str "jpg"), ("url_thm", .str "https://dam.example/thumbnail.jpg")]

def meadow : Record := picture 1 "Meadow" "2026-01-01"

def harbour : Record := picture 2 "Harbour" "2026-01-02"

def pictures : List Record := [meadow, harbour]

theorem fetchesPreviews_pictures {answer : List Record → Json} (sort : String)
    (answers : ∀ rows, PageOf (answer rows) rows) :
    FetchesPreviews interpreter (recordsApi pictures answer) sort pictures := by
  intro rows hrows hne
  have hfilter : pictures.filter (fun record => decide ((liveRef interpreter record).toList <:+:
      (buildLivePreviewListSearch (rows.map (liveRef interpreter))).toList)) = rows := by
    have hparts : rows ∈ [[], [meadow], [harbour], pictures] := by
      rw [← List.mem_sublists] at hrows
      exact hrows
    rw [List.mem_cons, List.mem_cons, List.mem_cons, List.mem_singleton] at hparts
    obtain rfl | rfl | rfl | rfl := hparts
    · exact absurd rfl hne
    · decide +kernel
    · decide +kernel
    · decide +kernel
  exact ⟨rows, answer rows, .refl rows, answers rows, recordsApi_previews sort hfilter⟩

def pictureListing : LiveListing interpreter where
  records := pictures
  refs := by decide +kernel
  distinct := by decide +kernel
  builds := by
    intro record hrecord _
    rw [pictures, List.mem_cons, List.mem_singleton] at hrecord
    obtain rfl | rfl := hrecord
    · exact ⟨_, rfl⟩
    · exact ⟨_, rfl⟩

theorem holds_pictures (scope : FindScope) {answer : List Record → Json}
    (answers : ∀ rows, PageOf (answer rows) rows) :
    Holds interpreter (recordsApi pictures answer) scope pictureListing answer where
  lists := lists_recordsApi _ _ _ _
  previews := fetchesPreviews_pictures _ answers

theorem renders_pictures : pictureListing.Renders [] where
  containers _ h := absurd h List.not_mem_nil
  assets record hrecord asset hasset url := by
    obtain ⟨-, hbuilt, -⟩ := shownAsset_eq_some.1 hasset
    obtain rfl | rfl := List.mem_pair.1 hrecord
    · cases hbuilt
      rfl
    · cases hbuilt
      rfl

theorem countable_pictures : pictures.length < 10 ^ intMaxStrDigits :=
  (by decide : pictures.length < 10 ^ 1).trans_le (Nat.pow_le_pow_right (by decide) (by decide))

/-- A listing of the images of a service, with the same limit for all pages. -/
def imageListing (service : ResourceSpaceService) (limit : ℤ) : FindListing where
  service
  grants _ _ _ := .ok "https://broker.example/public/assets/grant"
  request :=
    { types := some ["IMAGE"], query := none, sort := none, containerId := none, limit := .null
      continuation := .null }
  limits _ := .int limit

theorem limit_imageListing (service : ResourceSpaceService) {n : ℕ} (pos : 0 < n) (i : ℕ) :
    intOr ((imageListing service n).limits i) 50 = .ok n := by
  have htruthy : (Json.int n).truthy = true := decide_eq_true (Nat.cast_ne_zero.2 pos.ne')
  change intOr (.int n) 50 = _
  rw [intOr, Json.orElse, if_pos htruthy]
  rfl

theorem ready_imageListing (service : ResourceSpaceService) {n : ℕ} (pos : 0 < n) :
    (imageListing service n).Ready [] where
  found := rfl
  issues _ _ _ := ⟨_, rfl⟩
  limits i := ⟨n, limit_imageListing service pos i, pos⟩
  countable := Nat.pow_pos (by decide)

/-- The pictures of a tenant that tells their number, or of one that answers with bare
    lists. -/
def pictureService (answer : List Record → Json) : ResourceSpaceService :=
  liveService interpreter tenant (recordsApi pictures answer)

/-- A record of a picture whose width is not a number. -/
def malformed : Record := ("thumb_width", .str "wide") :: meadow

def malformedApi : LiveApi := recordsApi [malformed] (fullAnswer 1)

/-- The only picture of a tenant. -/
def malformedListing : FindListing := imageListing (liveService interpreter tenant malformedApi) 1

/-- A session of a fixture tenant. -/
def fixtureSession : Session where
  tenant := { tenant with id := "tenant_acme" }
  user := ⟨"user_alice", "alice", "Alice Admin", "admin", none⟩
  upstream := ⟨"fixture", none, "2026-01-01T00:00:00Z"⟩
  broker := none

end Sample

theorem find_enumerates_pictures :
    (∃ resources, (Sample.imageListing (Sample.pictureService (fullAnswer 2)) 1).Exhausts
        Sample.interpreter 0 .null resources ∧ assetIds resources = ["1", "2"]) ∧
      ∃ resources, (Sample.imageListing
        (fixtureService Sample.interpreter Sample.fixtureSession) 1).Exhausts
          Sample.interpreter 0 .null resources ∧
        assetIds resources = (fixtureListing Sample.interpreter
          ⟨none, "", "updated_desc", ["IMAGE"]⟩ Sample.fixtureSession).map (·.id) := by
  constructor
  · obtain ⟨shown, hshown, hexhausts⟩ :=
      (find_enumerates Sample.interpreter (Sample.ready_imageListing _ one_pos)).1 _ _
        Sample.pictureListing rfl Sample.renders_pictures Sample.countable_pictures
        (Sample.holds_pictures _ fun rows => .full 2 rows)
    refine ⟨_, hexhausts, (assetIds_of_imagesOf [] hshown).trans ?_⟩
    decide +kernel
  · obtain ⟨shown, hshown, hexhausts⟩ :=
      (find_enumerates Sample.interpreter (Sample.ready_imageListing _ one_pos)).2 _ rfl
    refine ⟨_, hexhausts, (assetIds_of_imagesOf [] hshown).trans ?_⟩
    exact List.map_map

/-- A tenant holds one record, of a supported type and with a thumbnail, and answers
    as it should; but its listing fails. -/
theorem malformed_record_fails :
    (∀ search sort, Lists Sample.malformedApi search sort [Sample.malformed] (fullAnswer 1)) ∧
      (∀ sort, FetchesPreviews Sample.interpreter Sample.malformedApi sort [Sample.malformed]) ∧
      supportedLiveRecord Sample.interpreter Sample.malformed = true ∧
      (Sample.malformed.field "url_thm").truthy = true ∧
      Sample.malformedListing.Ready [] ∧
      ∀ resources, ¬Sample.malformedListing.Exhausts Sample.interpreter 0 .null resources := by
  have hfind : find Sample.interpreter Sample.malformedListing.service
      (Sample.malformedListing.grants 0) (Sample.malformedListing.requestAt 0 .null) =
      .ok (.failed 200 "INTERNAL_ERROR") := by decide +kernel
  refine ⟨fun _ _ => Sample.lists_recordsApi _ _ _ _, fun sort rows hrows hne => ?_,
    by decide +kernel, by decide, Sample.ready_imageListing _ one_pos, fun resources h => ?_⟩
  · have hparts : rows ∈ [[], [Sample.malformed]] := by
      rw [← List.mem_sublists] at hrows
      exact hrows
    rw [List.mem_cons, List.mem_singleton] at hparts
    obtain rfl := hparts.resolve_left hne
    exact ⟨_, _, .refl _, .full 1 _, Sample.recordsApi_previews sort (by decide +kernel)⟩
  · cases h with
    | last found => cases hfind.symm.trans found
    | next found => cases hfind.symm.trans found

/-! ## Bare lists -/

/-- The listings of a tenant that tells the total, and of one that answers with bare
    lists, have the same assets exactly when no asset is shown past the first page of
    them: of that page the containers leave `n - containers.length % n` places. -/
theorem bare_lists_agree_iff {py : Interpreter} {tenant : Tenant} {apiFull apiBare : LiveApi}
    {l : FindListing} {containers : List Container} {n : ℕ} (listing : LiveListing py)
    (full : ({ l with service := liveService py tenant apiFull } : FindListing).Ready containers)
    (bare : ({ l with service := liveService py tenant apiBare } : FindListing).Ready containers)
    (holdsFull : Holds py apiFull l.request.scope listing (fullAnswer listing.records.length))
    (holdsBare : Holds py apiBare l.request.scope listing bareAnswer)
    (renders : listing.Renders containers)
    (countable : listing.records.length < 10 ^ intMaxStrDigits) (pos : 0 < n)
    (limit : ∀ i, intOr (l.limits i) 50 = .ok n) :
    ∃ whole listed,
      ({ l with service := liveService py tenant apiFull } : FindListing).Exhausts py 0 .null whole ∧
      ({ l with service := liveService py tenant apiBare } : FindListing).Exhausts py 0 .null listed ∧
      (assetIds listed = assetIds whole ↔ imagesIn l.request.scope
        ((listing.records.drop (liveRows (n - containers.length % n))).filterMap (shownAsset py)) =
          []) := by
  obtain ⟨whole, hwhole, hexhausts⟩ :=
    @exhausts_live _ _ _ tenant _ _ full rfl renders countable holdsFull
  obtain ⟨listed, hlisted, hexhausts'⟩ :=
    @exhausts_live_bare _ _ _ tenant _ _ _ bare rfl renders countable holdsBare pos limit
  refine ⟨_, _, hexhausts, hexhausts', ?_⟩
  have hsplit := List.take_append_drop (liveRows (n - containers.length % n)) listing.records
  rw [assetIds_of_imagesOf containers hwhole, assetIds_of_imagesOf containers hlisted]
  rw [imagesIn, imagesIn, imagesIn]
  split_ifs with himages
  · conv_lhs => rhs; rw [← hsplit, List.filterMap_append, List.map_append]
    rw [List.self_eq_append_right, List.map_eq_nil_iff]
  · exact iff_of_true rfl rfl

theorem bare_lists_agree_pictures :
    ∃ whole listed,
      (Sample.imageListing (Sample.pictureService (fullAnswer 2)) 2).Exhausts
        Sample.interpreter 0 .null whole ∧
      (Sample.imageListing (Sample.pictureService bareAnswer) 2).Exhausts
        Sample.interpreter 0 .null listed ∧ assetIds listed = assetIds whole := by
  obtain ⟨whole, listed, hwhole, hlisted, hagree⟩ :=
    bare_lists_agree_iff (l := Sample.imageListing (Sample.pictureService bareAnswer) 2)
      Sample.pictureListing (Sample.ready_imageListing _ two_pos)
      (Sample.ready_imageListing _ two_pos) (Sample.holds_pictures _ fun rows => .full 2 rows)
      (Sample.holds_pictures _ fun rows => .bare rows) Sample.renders_pictures Sample.countable_pictures two_pos
      (Sample.limit_imageListing _ two_pos)
  exact ⟨whole, listed, hwhole, hlisted, hagree.2 rfl⟩

/-- With pages of one asset, the second picture of a tenant that answers with bare
    lists is not listed. -/
theorem bare_list_loses_assets :
    ∃ whole listed,
      (Sample.imageListing (Sample.pictureService (fullAnswer 2)) 1).Exhausts
        Sample.interpreter 0 .null whole ∧
      (Sample.imageListing (Sample.pictureService bareAnswer) 1).Exhausts
        Sample.interpreter 0 .null listed ∧
      assetIds whole = ["1", "2"] ∧ assetIds listed = ["1"] := by
  obtain ⟨whole, hwhole, hexhausts⟩ := @exhausts_live _ _ _ _ _ Sample.pictureListing
    (Sample.ready_imageListing (Sample.pictureService (fullAnswer 2)) one_pos) rfl
    Sample.renders_pictures Sample.countable_pictures (Sample.holds_pictures _ fun rows => .full 2 rows)
  obtain ⟨listed, hlisted, hexhausts'⟩ := @exhausts_live_bare _ _ _ _ _ Sample.pictureListing _
    (Sample.ready_imageListing (Sample.pictureService bareAnswer) one_pos) rfl
    Sample.renders_pictures Sample.countable_pictures (Sample.holds_pictures _ fun rows => .bare rows) one_pos
    (Sample.limit_imageListing _ one_pos)
  refine ⟨_, _, hexhausts, hexhausts', ?_, ?_⟩
  · exact (assetIds_of_imagesOf [] hwhole).trans (by decide +kernel)
  · exact (assetIds_of_imagesOf [] hlisted).trans (by decide +kernel)

end Broker
