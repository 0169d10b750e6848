import Broker.Finder

/-!
# Pages of a live tenant

What `_list_live_assets` returns from a tenant that holds a list of records: of
the records in the window asked for, those that are shown, in the order in which
the tenant lists them (`listLiveAssets_eq`). A record is shown if its type is
supported and it has a thumbnail (`shownAsset`).
-/

namespace Broker

open Py

variable {py : Interpreter}

/-! ## Records that are shown -/

variable (py) in
/-- The reference of a record, as the id of its asset. -/
abbrev liveRef (record : Record) : String := str py (record.field "ref")

variable (py) in
/-- The asset that a record is shown as: none if its type is not supported, or if it
    has no thumbnail. -/
def shownAsset (record : Record) : Option ListedAsset :=
  if supportedLiveRecord py record then
    (buildLiveAsset py record).toOption.filter (·.thumbnailSource.isSome)
  else none

/-- What an asset keeps of its record. -/
theorem built {record : Record} {asset : ListedAsset} (h : buildLiveAsset py record = .ok asset) :
    asset.id = liveRef py record ∧ asset.mimeType = mimeTypeOf py (liveExtension py record) ∧
      asset.thumbnailSource.isSome = (record.field "url_thm").truthy := by
  obtain ⟨width, -, h⟩ := exists_ok_of_bind h
  obtain ⟨height, -, h⟩ := exists_ok_of_bind h
  obtain ⟨thumbnailSource, hthumbnail, h⟩ := exists_ok_of_bind h
  obtain ⟨previewSource, -, h⟩ := exists_ok_of_bind h
  obtain ⟨createdAt, -, h⟩ := exists_ok_of_bind h
  obtain ⟨updatedAt, -, h⟩ := exists_ok_of_bind h
  cases h
  refine ⟨rfl, rfl, ?_⟩
  rw [optionalSource] at hthumbnail
  split_ifs at hthumbnail with hurl
  · cases hsource : proxySource py record (record.field "url_thm") with
    | error e =>
      rw [hsource] at hthumbnail
      cases hthumbnail
    | ok source =>
      rw [hsource] at hthumbnail
      cases hthumbnail
      exact hurl.symm
  · cases hthumbnail
    exact (Bool.not_eq_true _ ▸ hurl).symm

theorem shownAsset_eq_some {record : Record} {asset : ListedAsset} :
    shownAsset py record = some asset ↔ supportedLiveRecord py record = true ∧
      buildLiveAsset py record = .ok asset ∧ (record.field "url_thm").truthy = true := by
  rw [shownAsset]
  split_ifs with hsupported
  · cases hbuild : buildLiveAsset py record with
    | error e => simp [Except.toOption]
    | ok built' =>
      have hthumbnail := (built hbuild).2.2
      simp only [Except.toOption, Option.filter_some, Option.ite_none_right_eq_some,
        Option.some.injEq, Except.ok.injEq, hsupported, true_and, ← hthumbnail]
      constructor
      · rintro ⟨h, rfl⟩
        exact ⟨rfl, h⟩
      · rintro ⟨rfl, h⟩
        exact ⟨h, rfl⟩
  · simp [hsupported]

theorem id_of_shownAsset {record : Record} {asset : ListedAsset}
    (h : shownAsset py record = some asset) : asset.id = liveRef py record :=
  (built (shownAsset_eq_some.1 h).2.1).1

/-- The ids of the assets shown are among the references, in their order. -/
theorem ids_sublist (rows : List Record) :
    ((rows.filterMap (shownAsset py)).map (·.id)).Sublist (rows.map (liveRef py)) := by
  induction rows with
  | nil => exact .slnil
  | cons record rows ih =>
    cases h : shownAsset py record with
    | none =>
      rw [List.filterMap_cons_none h]
      exact ih.cons _
    | some asset =>
      rw [List.filterMap_cons_some h, List.map_cons, id_of_shownAsset h]
      exact ih.cons_cons _

/-! ## The answers of a tenant -/

/-- The answer that tells how many records there are in all. -/
def fullAnswer (total : ℕ) (rows : List Record) : Json :=
  .dict [("total", .int total), ("data", .list (rows.map .dict))]

/-- The answer that is only a list of records. -/
def bareAnswer (rows : List Record) : Json := .list (rows.map .dict)

/-- An answer, of either shape, with these records. -/
inductive PageOf : Json → List Record → Prop
  | full (total : ℕ) (rows : List Record) : PageOf (fullAnswer total rows) rows
  | bare (rows : List Record) : PageOf (bareAnswer rows) rows

theorem recordsOf_dicts (rows : List Record) : recordsOf (rows.map .dict) = rows := by
  rw [recordsOf, List.filterMap_map]
  exact List.filterMap_some

theorem liveSearchRecords_full (total : ℕ) (rows : List Record) :
    liveSearchRecords (fullAnswer total rows) = .ok ((total : ℤ), rows) := by
  rw [fullAnswer, liveSearchRecords]
  simp [List.lookup_cons, Continuation.intOr_int, recordsOf_dicts, bind, Except.bind, pure, Except.pure]

theorem liveSearchRecords_bare (rows : List Record) :
    liveSearchRecords (bareAnswer rows) = .ok ((rows.length : ℤ), rows) := by
  rw [bareAnswer, liveSearchRecords, recordsOf_dicts, List.length_map]

theorem PageOf.payload {answer : Json} {rows : List Record} (h : PageOf answer rows) :
    requireLiveSearchPayload answer = .ok () := by
  cases h <;> rfl

theorem PageOf.records {answer : Json} {rows : List Record} (h : PageOf answer rows) :
    ∃ total, liveSearchRecords answer = .ok (total, rows) := by
  cases h with
  | full total => exact ⟨_, liveSearchRecords_full total rows⟩
  | bare => exact ⟨_, liveSearchRecords_bare rows⟩

/-! ## Previews -/

/-- The page of records whose assets can be built. -/
theorem normalizeLiveAssetPage_eq {answer : Json} {rows : List Record} (h : PageOf answer rows)
    (builds : ∀ record ∈ rows, ∃ asset, buildLiveAsset py record = .ok asset) :
    normalizeLiveAssetPage py answer = .ok (rows.filterMap (shownAsset py)) := by
  obtain ⟨total, hrecords⟩ := h.records
  have hassets : ∃ assets, rows.mapM (buildLiveAsset py) = .ok assets ∧
      (assets.filter fun asset => supportedImageMimeTypes.contains asset.mimeType &&
        asset.thumbnailSource.isSome) = rows.filterMap (shownAsset py) := by
    -- By the records of the page: each is built, and kept if it can be shown.
    clear h hrecords
    induction rows with
    | nil => exact ⟨[], rfl, rfl⟩
    | cons record rows ih =>
      rw [List.forall_mem_cons] at builds
      obtain ⟨⟨asset, hasset⟩, hrest⟩ := builds
      obtain ⟨assets, hassets, hshown⟩ := ih hrest
      refine ⟨asset :: assets, ?_, ?_⟩
      · rw [List.mapM_cons, hasset]
        simp only [bind, Except.bind, hassets]
        rfl
      · obtain ⟨-, hmime, -⟩ := built hasset
        rw [List.filter_cons, List.filterMap_cons, shownAsset, hasset, supportedLiveRecord, hmime,
          hshown]
        cases supportedImageMimeTypes.contains (mimeTypeOf py (liveExtension py record)) with
        | false => rfl
        | true =>
          cases hsource : asset.thumbnailSource.isSome <;>
            simp [Except.toOption, Option.filter_some, hsource]
  obtain ⟨assets, hassets, hshown⟩ := hassets
  rw [normalizeLiveAssetPage, hrecords]
  simp only [bind, Except.bind, hassets]
  exact congrArg Except.ok hshown

theorem get?_byId {assets : List ListedAsset} (h : (assets.map (·.id)).Nodup) {id : String}
    {asset : ListedAsset} : (byId assets).get? id = some asset ↔ asset ∈ assets ∧ asset.id = id := by
  have hentries := Dict.entries_foldl_set ListedAsset.id (fun asset => asset)
    (∅ : Dict String ListedAsset) h fun _ _ => rfl
  rw [← Dict.mem_entries_iff, byId, hentries]
  change (id, asset) ∈ [] ++ _ ↔ _
  simp only [List.nil_append, List.mem_map, Prod.mk.injEq]
  constructor
  · rintro ⟨_, hmem, rfl, rfl⟩
    exact ⟨hmem, rfl⟩
  · rintro ⟨hmem, rfl⟩
    exact ⟨asset, hmem, rfl, rfl⟩

/-- Among the assets of some records a reference finds that of its record. -/
theorem get?_byId_shown {rows : List Record} (distinct : (rows.map (liveRef py)).Nodup)
    {record : Record} (h : record ∈ rows) :
    (byId (rows.filterMap (shownAsset py))).get? (liveRef py record) = shownAsset py record := by
  have hnodup := distinct.sublist (ids_sublist rows)
  refine Option.ext fun asset => ?_
  rw [get?_byId hnodup, List.mem_filterMap]
  constructor
  · rintro ⟨⟨record', hmem, hshown⟩, hid⟩
    have href : liveRef py record' = liveRef py record := (id_of_shownAsset hshown).symm.trans hid
    rwa [← List.inj_on_of_nodup_map distinct hmem h href]
  · exact fun hshown => ⟨⟨record, h, hshown⟩, id_of_shownAsset hshown⟩

/-! ## Pages -/

variable (py) in
/-- The tenant fetches the previews of any records of a listing, in some order. -/
def FetchesPreviews (api : LiveApi) (sort : String) (records : List Record) : Prop :=
  ∀ rows, rows.Sublist records → rows ≠ [] → ∃ out answer, out.Perm rows ∧ PageOf answer out ∧
    api (previewParams (rows.map (liveRef py)) sort) = .ok answer

variable (py) in
/-- A listing of a tenant: its records have references, all distinct, and the assets
    of those of a supported type can be built. -/
structure LiveListing where
  records : List Record
  refs : ∀ record ∈ records, record.field "ref" ≠ .null
  distinct : (records.map (liveRef py)).Nodup
  builds : ∀ record ∈ records, supportedLiveRecord py record = true →
    ∃ asset, buildLiveAsset py record = .ok asset

/-- A page shows the assets of the rows that the tenant lists for it, in their order. -/
theorem listLiveAssets_eq {api : LiveApi} {q : AssetQuery} (listing : LiveListing py)
    {rows : List Record} (part : rows.Sublist listing.records) {answer : Json} {total : ℤ}
    (listed : api (listingParams (buildLiveSearchString py q.query q.containerId) (max 0 q.offset)
      (max 1 (min q.limit liveFindMaxLimit)) q.sort) = .ok answer)
    (payload : requireLiveSearchPayload answer = .ok ())
    (found : liveSearchRecords answer = .ok (total, rows))
    (previews : FetchesPreviews py api q.sort listing.records) :
    listLiveAssets py api q = .ok ⟨rows.filterMap (shownAsset py), total, some rows.length⟩ := by
  have hrefs : supportedRefs py rows =
      (rows.filter (supportedLiveRecord py)).map (liveRef py) := by
    rw [supportedRefs]
    congr 1
    refine List.filter_congr fun record hmem => ?_
    rw [decide_eq_true (listing.refs record (part.subset hmem)), Bool.true_and]
  have hshown : rows.filterMap (shownAsset py) =
      (rows.filter (supportedLiveRecord py)).filterMap (shownAsset py) := by
    rw [List.filterMap_filter]
    refine List.filterMap_congr fun record _ => ?_
    rw [shownAsset]
    split_ifs <;> rfl
  rw [listLiveAssets]
  simp only [bind, Except.bind, listed, payload, found]
  by_cases hempty : rows.filter (supportedLiveRecord py) = []
  · rw [hrefs, hshown, hempty]
    rfl
  -- The previews come in another order, and are looked up by their refs.
  · have hsublist : (rows.filter (supportedLiveRecord py)).Sublist listing.records :=
      List.filter_sublist.trans part
    obtain ⟨out, preview, hperm, hanswers, hpreview⟩ := previews _ hsublist hempty
    have hbuilds : ∀ record ∈ out, ∃ asset, buildLiveAsset py record = .ok asset := by
      intro record hmem
      have hmem := List.mem_filter.1 (hperm.subset hmem)
      exact listing.builds record (part.subset hmem.1) hmem.2
    have hdistinct : (out.map (liveRef py)).Nodup :=
      (hperm.map _).nodup_iff.2 (listing.distinct.sublist (hsublist.map _))
    have hne : (supportedRefs py rows).isEmpty = false := by
      rw [hrefs]
      simpa using hempty
    rw [if_neg (by rw [hne]; exact Bool.false_ne_true), hrefs, hpreview]
    simp only [hanswers.payload, normalizeLiveAssetPage_eq hanswers hbuilds]
    rw [hshown, List.filterMap_map]
    refine congrArg (fun items => Except.ok (AssetPage.mk items total (some rows.length))) ?_
    refine List.filterMap_congr fun record hmem => ?_
    exact get?_byId_shown hdistinct (hperm.symm.subset hmem)

end Broker
