import Broker.Paging
import Mathlib.Logic.Relation

/-!
# Browsing

A client browses the containers of a tenant from the top, by opening what it is shown. Of a live
tenant with a configured collection tree it comes to exactly the collections of the tree
(`browsing_shows_tree`), whatever ResourceSpace answers from call to call.
-/

namespace Broker

open Py

/-! ## Trees -/

/-- The collections that are configured inside of a collection. -/
def Tenant.children (tenant : Tenant) (ref : String) : List String := (tenant.collectionChildren.lookup ref).getD []

/-- The collection is one of the roots, or is inside of one that is in the tree. -/
def Tenant.InTree (tenant : Tenant) (ref : String) : Prop :=
  ∃ root ∈ tenant.rootCollections,
    Relation.ReflTransGen (fun parent child => child ∈ tenant.children parent) root ref

/-- The collections of a level: the roots at the top, and otherwise what is inside of the parent. -/
def Tenant.level (tenant : Tenant) (parent : Option String) : List String :=
  parent.elim tenant.rootCollections tenant.children

/-- `_encode_collection_container_id`, of the text of a reference. -/
def collectionId (ref : String) : String := "collection:" ++ ref

/-- At one of the calls a container with the id is shown inside of the parent. -/
def Shows (services : ℕ → ResourceSpaceService) (parentId : Option String) (id : String) : Prop :=
  ∃ n containers, (services n).listContainers parentId = .ok containers ∧ id ∈ containers.map Container.id

/-- A client comes to the container from the top. -/
def Browsed (services : ℕ → ResourceSpaceService) (id : String) : Prop :=
  ∃ top, Shows services none top ∧
    Relation.ReflTransGen (fun parent child => Shows services (some parent) child) top id

theorem decode_collectionId (ref : String) : decodeCollectionContainerId (some (collectionId ref)) = some ref := by
  have hsplit : (collectionId ref).toList = "collection:".toList ++ ref.toList := String.toList_append
  have hstarts : startsWith ("collection:".toList ++ ref.toList) "collection:".toList = true :=
    List.isPrefixOf_iff_prefix.2 (List.prefix_append _ _)
  rw [decodeCollectionContainerId, decodeContainerId, Option.bind_some, hsplit, if_pos hstarts]
  have hdrop : ("collection:".toList ++ ref.toList).drop "collection:".length = ref.toList := List.drop_left' rfl
  rw [hdrop, String.ofList_toList]

/-! ## Levels -/

section Levels

variable {py : Interpreter} {tenant : Tenant}

/-- The record that is found for a collection, or made up for it, is one of the collection. -/
theorem ref_of_lookup (collections : List Record) (ref : String) :
    str py (Record.field (((collections.foldl (fun (d : Dict String Record) collection =>
      d.set (str py (collection.field "ref")) collection) ∅).get? ref).getD
        [("ref", .str ref), ("name", .str ("Collection " ++ ref))]) "ref") = ref := by
  have hget := Dict.get?_foldl_set (fun collection : Record => str py (collection.field "ref"))
    (fun collection => collection) collections ∅ ref
  rw [hget, Dict.get?_empty, Option.or_none, Option.map_id']
  cases hfound : collections.reverse.find? fun collection => str py (collection.field "ref") = ref with
  | none => rfl
  | some collection =>
    rw [Option.getD_some]
    simpa using List.find?_some hfound

/-- What is shown of a configured level are its collections, in its order. -/
theorem refs_applyConfiguredCollectionTree (configured : tenant.rootCollections ≠ []) (collections : List Record)
    (parent : Option String) :
    (applyConfiguredCollectionTree py tenant collections parent).map (fun collection =>
      str py (collection.field "ref")) = tenant.level parent := by
  have hroots : (!tenant.rootCollections.isEmpty) = true := by simpa using configured
  have hrefs : ∀ refs : List String, (refs.map fun ref => (((collections.foldl (fun (d : Dict String Record)
      collection => d.set (str py (collection.field "ref")) collection) ∅).get? ref).getD
        [("ref", .str ref), ("name", .str ("Collection " ++ ref))])).map (fun collection =>
          str py (Record.field collection "ref")) = refs := by
    intro refs
    rw [List.map_map]
    exact (List.map_congr_left fun ref _ => ref_of_lookup collections ref).trans (List.map_id' refs)
  cases parent with
  | none =>
    rw [applyConfiguredCollectionTree, if_pos hroots]
    exact hrefs _
  | some parent =>
    rw [applyConfiguredCollectionTree, if_pos hroots]
    exact hrefs _

/-- The containers of a level are those of its collections, in some order, and each of them says how many
    are inside of it. -/
theorem containers_of_level (configured : tenant.rootCollections ≠ []) {api : LiveApi} {parentId : Option String}
    {containers : List Container} (h : (liveService py tenant api).listContainers parentId = .ok containers) :
    (containers.map Container.id).Perm
        ((tenant.level (decodeCollectionContainerId parentId)).map collectionId) ∧
      ∀ container ∈ containers, ∃ ref, container.id = collectionId ref ∧
        container.numContainers = (tenant.children ref).length := by
  obtain ⟨response, -, h⟩ := exists_ok_of_bind h
  have hlisted : ∃ collections, containers = (sortCollections py (applyConfiguredCollectionTree py tenant
      collections (decodeCollectionContainerId parentId))).map (buildLiveCollectionContainer py tenant) := by
    cases response with
    | list items =>
      obtain ⟨collections, -, h⟩ := exists_ok_of_bind h
      exact ⟨collections, (Except.ok.inj h).symm⟩
    | _ => exact ⟨[], (Except.ok.inj h).symm⟩
  obtain ⟨collections, rfl⟩ := hlisted
  refine ⟨?_, fun container hcontainer => ?_⟩
  · rw [← refs_applyConfiguredCollectionTree configured collections, List.map_map, List.map_map]
    exact (List.mergeSort_perm _ _).map _
  · obtain ⟨collection, -, rfl⟩ := List.mem_map.1 hcontainer
    exact ⟨_, rfl, rfl⟩

variable {apis : ℕ → LiveApi} {parentId : Option String}

theorem level_of_shows (configured : tenant.rootCollections ≠ []) {id : String}
    (h : Shows (fun n => liveService py tenant (apis n)) parentId id) :
    ∃ ref ∈ tenant.level (decodeCollectionContainerId parentId), collectionId ref = id := by
  obtain ⟨n, containers, hcontainers, hid⟩ := h
  exact List.mem_map.1 ((containers_of_level configured hcontainers).1.mem_iff.1 hid)

theorem shows_of_level (configured : tenant.rootCollections ≠ [])
    (answered : ∃ n containers, (liveService py tenant (apis n)).listContainers parentId = .ok containers)
    {ref : String} (h : ref ∈ tenant.level (decodeCollectionContainerId parentId)) :
    Shows (fun n => liveService py tenant (apis n)) parentId (collectionId ref) := by
  obtain ⟨n, containers, hcontainers⟩ := answered
  exact ⟨n, containers, hcontainers,
    (containers_of_level configured hcontainers).1.mem_iff.2 (List.mem_map_of_mem h)⟩

end Levels

/-- A client that browses a live tenant with a configured collection tree comes to collections of the tree
    only, whatever is answered from call to call, and to all of them if every level is answered once. Of
    each container that it is shown it is told how many it will be shown inside of it. -/
theorem browsing_shows_tree {py : Interpreter} {tenant : Tenant} (configured : tenant.rootCollections ≠ [])
    (apis : ℕ → LiveApi) :
    (∀ id, Browsed (fun n => liveService py tenant (apis n)) id →
      ∃ ref, tenant.InTree ref ∧ collectionId ref = id) ∧
    ((∀ parentId, ∃ n containers,
        (liveService py tenant (apis n)).listContainers parentId = .ok containers) →
      ∀ ref, tenant.InTree ref → Browsed (fun n => liveService py tenant (apis n)) (collectionId ref)) ∧
    ∀ n m parentId containers container inside,
      (liveService py tenant (apis n)).listContainers parentId = .ok containers → container ∈ containers →
      (liveService py tenant (apis m)).listContainers (some container.id) = .ok inside →
      container.numContainers = inside.length := by
  refine ⟨?_, ?_, fun n m parentId containers container inside hcontainers hmem hinside => ?_⟩
  · rintro id ⟨top, htop, hpath⟩
    induction hpath with
    | refl =>
      obtain ⟨root, hroot, rfl⟩ := level_of_shows configured htop
      exact ⟨root, ⟨root, hroot, .refl⟩, rfl⟩
    | tail _ hshown ih =>
      obtain ⟨ref, ⟨root, hroot, hpath⟩, rfl⟩ := ih
      obtain ⟨child, hchild, rfl⟩ := level_of_shows configured hshown
      rw [decode_collectionId] at hchild
      exact ⟨child, ⟨root, hroot, hpath.tail hchild⟩, rfl⟩
  · rintro answers ref ⟨root, hroot, hpath⟩
    refine ⟨collectionId root, shows_of_level configured (answers none) hroot, ?_⟩
    refine hpath.lift collectionId fun parent child hchild => shows_of_level configured (answers _) ?_
    rw [decode_collectionId]
    exact hchild
  · obtain ⟨ref, hid, hcount⟩ := (containers_of_level configured hcontainers).2 container hmem
    have hlength := (containers_of_level configured hinside).1.length_eq
    rw [hid, decode_collectionId, List.length_map, List.length_map] at hlength
    rw [hcount, hlength]
    rfl

namespace Sample

/-- A tenant with a collection inside of another. -/
def treeTenant : Tenant where
  id := "tenant_dam"
  slug := some "dam"
  name := some "DAM"
  baseUrl := "https://dam.example"
  apiUrl := none
  rootCollections := ["7"]
  collectionChildren := [("7", ["9"])]

end Sample

/-- The inner collection is found, although the user has no collections in ResourceSpace. -/
theorem browsing_shows_tree_inner :
    Browsed (fun _ => liveService Sample.interpreter Sample.treeTenant fun _ => .ok (.list [])) "collection:9" := by
  have hinner : Sample.treeTenant.InTree "9" :=
    ⟨"7", List.mem_singleton_self _, .single (List.mem_singleton_self _)⟩
  exact (browsing_shows_tree (by decide) fun _ _ => .ok (.list [])).2.1 (fun parentId => ⟨0, _, rfl⟩) "9" hinner

end Broker
