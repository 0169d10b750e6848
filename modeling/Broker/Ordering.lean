import Broker.Lib.Sorting
import Broker.LiveListings

/-!
# The order of a listing

ResourceSpace is asked to order its records by a field and in a direction
(`orderBy`, `sortDirection`), while the fixture data are sorted by
`sort_assets`. For records with distinct titles and dates both give one order,
except for `name_asc`: there ResourceSpace is asked for descending titles, so
that its pages run opposite to the sorted ones (`live_order_iff`).
-/

namespace Broker

open Py

/-- What ResourceSpace orders records by. -/
structure RecordKeys where
  title : Record → String
  date : Record → String

namespace RecordKeys

variable (keys : RecordKeys)

/-- The key of a record for a value of `order_by`. -/
def key (field : String) : Record → String := if field = "title" then keys.title else keys.date

/-- `a` may be listed before `b`, for these values of `order_by` and `sort`. -/
def Before (field direction : String) (a b : Record) : Prop :=
  if direction = "asc" then keys.key field a ≤ keys.key field b
  else keys.key field b ≤ keys.key field a

/-- The records are listed in the order that ResourceSpace is asked for. -/
def Orders (sort : String) (listed : List Record) : Prop :=
  listed.Pairwise (keys.Before (orderBy sort) (sortDirection sort))

/-- The order that records have in `sort_assets`. -/
def sorted (records : List Record) (sort : String) : List Record :=
  Fixture.sortAssets keys.title keys.date records sort

variable {keys} {records listed : List Record} {sort : String}

/-- Records that are listed by the ascending keys are those sorted by them. -/
theorem eq_sorted_of_le {key : Record → String} (perm : listed.Perm records)
    (distinct : (records.map key).Nodup) (orders : listed.Pairwise fun a b => key a ≤ key b) :
    listed = records.mergeSort fun a b => decide (key a ≤ key b) :=
  eq_mergeSort (r := fun a b => key a ≤ key b) (fun _ _ _ => String.le_trans)
    (fun _ _ => String.le_total _ _)
    (fun _ ha _ hb hab hba => List.inj_on_of_nodup_map distinct ha hb (String.le_antisymm hab hba))
    perm orders

theorem eq_sorted_of_ge {key : Record → String} (perm : listed.Perm records)
    (distinct : (records.map key).Nodup) (orders : listed.Pairwise fun a b => key b ≤ key a) :
    listed = records.mergeSort fun a b => decide (key b ≤ key a) :=
  eq_mergeSort (r := fun a b => key b ≤ key a) (fun _ _ _ hab hbc => String.le_trans hbc hab)
    (fun _ _ => String.le_total _ _)
    (fun _ ha _ hb hab hba => List.inj_on_of_nodup_map distinct ha hb (String.le_antisymm hba hab))
    perm orders

/-- Sorted by the name, the records are listed from the last one on. -/
theorem eq_reverse_of_name (perm : listed.Perm records) (titles : (records.map keys.title).Nodup)
    (orders : keys.Orders "name_asc" listed) : listed = (keys.sorted records "name_asc").reverse := by
  have hsorted : listed.reverse.Pairwise fun a b => keys.title a ≤ keys.title b :=
    List.pairwise_reverse.2 orders
  have hreverse := eq_sorted_of_le ((List.reverse_perm listed).trans perm) titles hsorted
  rw [← listed.reverse_reverse, hreverse]
  rfl

/-- Otherwise they are listed as they are sorted. -/
theorem eq_sorted_of_date (perm : listed.Perm records) (dates : (records.map keys.date).Nodup)
    (orders : keys.Orders sort listed) (hsort : sort ≠ "name_asc") :
    listed = keys.sorted records sort := by
  have horder : orderBy sort = "date" := if_neg hsort
  rw [Orders, horder] at orders
  rw [sorted, Fixture.sortAssets, if_neg hsort]
  by_cases hasc : sort = "updated_asc"
  · have hdirection : sortDirection sort = "asc" := if_pos hasc
    rw [hdirection] at orders
    rw [if_pos hasc]
    exact eq_sorted_of_le perm dates orders
  · have hdirection : sortDirection sort = "desc" := if_neg hasc
    rw [hdirection] at orders
    rw [if_neg hasc]
    exact eq_sorted_of_ge perm dates orders

end RecordKeys

/-! ## The order of pages -/

section

variable {py : Interpreter} {api : LiveApi} {q : AssetQuery}

/-- The rows that a page is asked for. -/
def AssetQuery.rows (q : AssetQuery) (records : List Record) : List Record :=
  (records.drop (max 0 q.offset).toNat).take (max 1 (min q.limit liveFindMaxLimit)).toNat

/-- The page of a tenant shows the rows asked for. -/
theorem listLiveAssets_rows {listing : LiveListing py} {answer : List Record → Json}
    (lists : Lists api (buildLiveSearchString py q.query q.containerId) q.sort listing.records answer)
    (answers : ∀ rows, PageOf (answer rows) rows)
    (previews : FetchesPreviews py api q.sort listing.records) :
    ∃ total, listLiveAssets py api q =
      .ok ⟨(q.rows listing.records).filterMap (shownAsset py), total,
        some (q.rows listing.records).length⟩ := by
  have hoffset : ((max 0 q.offset).toNat : ℤ) = max 0 q.offset := Int.toNat_of_nonneg (le_max_left _ _)
  have hlimit : ((max 1 (min q.limit liveFindMaxLimit)).toNat : ℤ) =
      max 1 (min q.limit liveFindMaxLimit) :=
    Int.toNat_of_nonneg (zero_le_one.trans (le_max_left _ _))
  have hpos : 0 < (max 1 (min q.limit liveFindMaxLimit)).toNat := by omega
  have hlisted := lists (max 0 q.offset).toNat _ hpos
  rw [hoffset, hlimit] at hlisted
  obtain ⟨total, hrecords⟩ := (answers (q.rows listing.records)).records
  have hpart : (q.rows listing.records).Sublist listing.records :=
    (List.take_sublist _ _).trans (List.drop_sublist _ _)
  exact ⟨total, listLiveAssets_eq listing hpart hlisted (answers _).payload hrecords previews⟩

/-- The assets shown of some rows are in the opposite order of the listing exactly
    when there is at most one. -/
theorem sublist_reverse_iff {listing : LiveListing py} {rows : List Record}
    (part : rows.Sublist listing.records) :
    (rows.filterMap (shownAsset py)).Sublist
        (listing.records.reverse.filterMap (shownAsset py)) ↔
      rows.countP (fun record => (shownAsset py record).isSome) ≤ 1 := by
  have hnodup : (listing.records.filterMap (shownAsset py)).Nodup :=
    (listing.distinct.sublist (ids_sublist _)).of_map
  have hpart := part.filterMap (shownAsset py)
  rw [List.filterMap_reverse, ← List.length_filterMap_eq_countP]
  exact ⟨length_le_one_of_sublist_reverse hnodup hpart, sublist_reverse_of_length_le_one hpart⟩

end

/-- A live page is in the order of `sort_assets`, and the same page of the sorted
    records, unless it is sorted by the name and shows more than one asset. -/
theorem live_order_iff {py : Interpreter} {api : LiveApi} (q : AssetQuery) (keys : RecordKeys)
    {records : List Record} (listing : LiveListing py) {answer : List Record → Json}
    (perm : listing.records.Perm records) (titles : (records.map keys.title).Nodup)
    (dates : (records.map keys.date).Nodup) (orders : keys.Orders q.sort listing.records)
    (lists : Lists api (buildLiveSearchString py q.query q.containerId) q.sort listing.records answer)
    (answers : ∀ rows, PageOf (answer rows) rows)
    (previews : FetchesPreviews py api q.sort listing.records) :
    ∃ page, listLiveAssets py api q = .ok page ∧
      (q.sort ≠ "name_asc" →
        page.items = (q.rows (keys.sorted records q.sort)).filterMap (shownAsset py)) ∧
      (page.items.Sublist ((keys.sorted records q.sort).filterMap (shownAsset py)) ↔
        q.sort ≠ "name_asc" ∨
          (q.rows listing.records).countP (fun record => (shownAsset py record).isSome) ≤ 1) := by
  obtain ⟨total, hpage⟩ := listLiveAssets_rows lists answers previews
  have hpart : (q.rows listing.records).Sublist listing.records :=
    (List.take_sublist _ _).trans (List.drop_sublist _ _)
  refine ⟨_, hpage, fun hsort => ?_, ?_⟩
  · rw [← RecordKeys.eq_sorted_of_date perm dates orders hsort]
  · by_cases hsort : q.sort = "name_asc"
    · rw [hsort] at orders
      have hreverse := RecordKeys.eq_reverse_of_name perm titles orders
      rw [hsort, ← (keys.sorted records "name_asc").reverse_reverse, ← hreverse,
        sublist_reverse_iff hpart]
      exact (or_iff_right fun h => h rfl).symm
    · rw [← RecordKeys.eq_sorted_of_date perm dates orders hsort]
      exact iff_of_true (hpart.filterMap _) (.inl hsort)

namespace Sample

/-- The title of a picture, and when it was created. -/
def pictureKeys : RecordKeys where
  title record := str interpreter (record.field "field8")
  date record := str interpreter (record.field "creation_date")

/-- A request for the first pictures. -/
def pictureQuery (sort : String) : AssetQuery := ⟨"", none, 0, 50, sort⟩

end Sample

theorem live_order_pictures :
    ∃ page, listLiveAssets Sample.interpreter (Sample.recordsApi Sample.pictures (fullAnswer 2))
        (Sample.pictureQuery "updated_asc") = .ok page ∧
      page.items.Sublist ((Sample.pictureKeys.sorted Sample.pictures "updated_asc").filterMap
        (shownAsset Sample.interpreter)) := by
  obtain ⟨page, hpage, -, horder⟩ := live_order_iff (Sample.pictureQuery "updated_asc")
    Sample.pictureKeys Sample.pictureListing (.refl _) (by decide +kernel) (by decide +kernel)
    (List.pairwise_pair.2 (by decide +kernel : Sample.pictureKeys.date Sample.meadow ≤
      Sample.pictureKeys.date Sample.harbour))
    (Sample.lists_recordsApi _ _ _ _) (fun rows => .full 2 rows)
    (Sample.fetchesPreviews_pictures _ fun rows => .full 2 rows)
  exact ⟨page, hpage, horder.2 (.inl (by decide))⟩

/-- Two pictures in the order of descending titles, as ResourceSpace is asked for them:
    the page shows them in this order, and `sort_assets` gives the other one. -/
theorem name_asc_reversed :
    Sample.pictureKeys.Orders "name_asc" Sample.pictures ∧
      ∃ page, listLiveAssets Sample.interpreter (Sample.recordsApi Sample.pictures (fullAnswer 2))
          (Sample.pictureQuery "name_asc") = .ok page ∧
        page.items.map (·.id) = ["1", "2"] ∧
        ((Sample.pictureKeys.sorted Sample.pictures "name_asc").filterMap
          (shownAsset Sample.interpreter)).map (·.id) = ["2", "1"] := by
  have horders : Sample.pictureKeys.Orders "name_asc" Sample.pictures :=
    List.pairwise_pair.2 (by decide +kernel : Sample.pictureKeys.title Sample.harbour ≤
      Sample.pictureKeys.title Sample.meadow)
  have hreverse := RecordKeys.eq_reverse_of_name (.refl Sample.pictures) (by decide +kernel) horders
  obtain ⟨total, hpage⟩ := @listLiveAssets_rows _ _ (Sample.pictureQuery "name_asc")
    Sample.pictureListing _ (Sample.lists_recordsApi _ _ _ _)
    (fun rows => .full 2 rows) (Sample.fetchesPreviews_pictures _ fun rows => .full 2 rows)
  have hids : (((Sample.pictureQuery "name_asc").rows Sample.pictures).filterMap
      (shownAsset Sample.interpreter)).map (·.id) = ["1", "2"] := by decide +kernel
  refine ⟨horders, _, hpage, hids, ?_⟩
  rw [← List.reverse_eq_iff.2 hreverse]
  decide +kernel

end Broker
