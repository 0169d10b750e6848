import Broker.Fixtures
import Broker.LivePages
import Broker.Paging

/-!
# Following a listing to its end

A client that starts without a continuation and follows the ones it receives
(`Exhausts`), with any limits of at least one, gets the containers of the scope
and then its assets, each once (`exhausts_from`). The service may hold its
assets in any way that answers a request for a page with a window of one list,
as the live and the fixture tenants do.

A live tenant may answer with a bare list, whose total is taken to be its length:
then the listing ends with the first page of assets (`exhausts_bare_from`).
-/

namespace Broker

open Py

/-! ## Listings to their end -/

/-- A listing: what all its requests have in common, and the limit of each. -/
structure FindListing where
  service : ResourceSpaceService
  grants : ℕ → PreviewGrants
  request : FindRequest
  limits : ℕ → Json

namespace FindListing

variable (py : Interpreter) (l : FindListing)

/-- The `i`-th request of a listing. -/
def requestAt (i : ℕ) (continuation : Json) : FindRequest :=
  { l.request with limit := l.limits i, continuation }

/-- From the `i`-th request on, which carries this continuation, a client that
    follows continuations comes to the end of the listing with these resources. -/
inductive Exhausts : ℕ → Json → List Resource → Prop
  | last {i : ℕ} {continuation : Json} {resources : List Resource}
    (found : find py l.service (l.grants i) (l.requestAt i continuation) =
      .ok (.success resources none)) : Exhausts i continuation resources
  | next {i : ℕ} {continuation : Json} {resources rest : List Resource} {text : String}
    (found : find py l.service (l.grants i) (l.requestAt i continuation) =
      .ok (.success resources (some text)))
    (follow : Exhausts (i + 1) (.str text) rest) : Exhausts i continuation (resources ++ rest)

/-- A client comes to one end only. -/
theorem Exhausts.unique {py : Interpreter} {l : FindListing} {i : ℕ} {continuation : Json}
    {resources resources' : List Resource} (h : l.Exhausts py i continuation resources)
    (h' : l.Exhausts py i continuation resources') : resources = resources' := by
  induction h generalizing resources' with
  | last found =>
    cases h' with
    | last found' =>
      cases found.symm.trans found'
      rfl
    | next found' => cases found.symm.trans found'
  | next found follow ih =>
    cases h' with
    | last found' => cases found.symm.trans found'
    | next found' follow' =>
      cases found.symm.trans found'
      rw [ih follow']

end FindListing

/-- The resources are the images of these assets, each with the URL of a grant. -/
def ImagesOf : List Resource → List ListedAsset → Prop :=
  List.Forall₂ fun resource asset => ∃ url, resource = .image (buildImageResponse asset url)

/-- All grants are created. -/
def IssuesAll (grants : PreviewGrants) : Prop := ∀ i request, ∃ url, grants i request = .ok url

theorem showAssets_of_issuesAll {grants : PreviewGrants} (h : IssuesAll grants) (i : ℕ)
    (assets : List ListedAsset) :
    ∃ images, showAssets grants i assets = .ok images ∧ ImagesOf images assets := by
  induction assets generalizing i with
  | nil => exact ⟨[], rfl, .nil⟩
  | cons asset assets ih =>
    obtain ⟨url, hurl⟩ := h i (previewRequest asset)
    obtain ⟨images, himages, hshown⟩ := ih (i + 1)
    refine ⟨.image (buildImageResponse asset url) :: images, ?_, .cons ⟨url, rfl⟩ hshown⟩
    rw [showAssets, hurl]
    simp only [bind, Except.bind, himages]
    rfl

/-! ## Windows -/

/-- The service answers a request for assets with a window of these slots, each of
    which shows an asset or none. Of the `n` rows asked for it takes `rows n`, and
    the total it tells is `total` of the window. -/
structure Windows (service : ResourceSpaceService) (scope : FindScope)
    (slots : List (Option ListedAsset)) (rows : ℕ → ℕ)
    (total : List (Option ListedAsset) → ℕ) : Prop where
  pos : ∀ n, 0 < n → 0 < rows n
  page : ∀ o n : ℕ, 0 < n → service.listAssets (scope.assetQuery o n) =
    .ok ⟨((slots.drop o).take (rows n)).reduceOption, total ((slots.drop o).take (rows n)),
      some ((slots.drop o).take (rows n)).length⟩

/-- A listing whose containers are found, whose grants are created, and whose limits
    are at least one. -/
structure FindListing.Ready (l : FindListing) (containers : List Container) : Prop where
  found : findContainers l.service l.request.scope = .ok containers
  issues : ∀ i, IssuesAll (l.grants i)
  limits : ∀ i, ∃ n : ℕ, intOr (l.limits i) 50 = .ok n ∧ 0 < n
  /-- Python writes the number of containers. -/
  countable : containers.length < 10 ^ intMaxStrDigits

/-- A listing over windows, all of which can be shown. -/
structure FindListing.Over (py : Interpreter) (l : FindListing) (containers : List Container)
    (slots : List (Option ListedAsset)) (rows : ℕ → ℕ)
    (total : List (Option ListedAsset) → ℕ) : Prop extends l.Ready containers where
  windows : Windows l.service l.request.scope slots rows total
  slotsCountable : slots.length < 10 ^ intMaxStrDigits
  containersRender : ∀ container ∈ containers, (Resource.container container).Renders py
  assetsRender : ∀ asset, some asset ∈ slots → asset.Renders py

/-- What a listing shows of these slots: nothing, where the scope has no images. -/
def FindScope.images (scope : FindScope) (slots : List (Option ListedAsset)) : List ListedAsset :=
  if "IMAGE" ∈ scope.types then slots.reduceOption else []

/-- A cursor of the scope that is written and read as it is. -/
structure Continuation.Of (cursor : Continuation) (scope : FindScope) (c a : ℕ) : Prop where
  containers : cursor.containerOffset = c
  assets : cursor.assetOffset = a
  accepted : cursor.scopeKey.truthy = true → cursor.scopeKey = .str (Broker.scopeKey scope)

section

variable {py : Interpreter} {l : FindListing} {containers : List Container}
  {slots : List (Option ListedAsset)} {rows : ℕ → ℕ} {total : List (Option ListedAsset) → ℕ}

theorem isShort_of_lt {n : ℕ} (h : n < 10 ^ intMaxStrDigits) : Continuation.isShort n = true :=
  decide_eq_true (Nat.toDigits_length 10 n intMaxStrDigits (by decide) h)

/-- The response to a request whose page is found. -/
theorem find_of_findPage {i : ℕ} {continuation : Json} {cursor : Continuation} {n c a c' a' : ℕ}
    {resources : List Resource} {more : Bool}
    (reads : Continuation.decode py.depth continuation = .ok (some cursor))
    (of : cursor.Of l.request.scope c a) (limit : intOr (l.limits i) 50 = .ok n)
    (found : findPage l.service (l.grants i) l.request.scope n c a = .ok ⟨resources, c', a', more⟩)
    (containersShort : Continuation.isShort c' = true) (assetsShort : Continuation.isShort a' = true)
    (renders : ∀ resource ∈ resources, resource.Renders py) :
    (more = false → find py l.service (l.grants i) (l.requestAt i continuation) =
      .ok (.success resources none)) ∧
    (more = true → ∃ text cursor', find py l.service (l.grants i) (l.requestAt i continuation) =
      .ok (.success resources (some text)) ∧
      Continuation.decode py.depth (.str text) = .ok (some cursor') ∧
      cursor'.Of l.request.scope c' a') := by
  -- The continuation is of this scope, so the page is answered.
  have hfind : find py l.service (l.grants i) (l.requestAt i continuation) =
      .ok (answerFind py l.service (l.grants i) l.request.scope n cursor) := by
    have hcond : ¬((cursor.scopeKey.truthy &&
        decide (cursor.scopeKey ≠ .str (scopeKey l.request.scope))) = true) := by
      simpa using of.accepted
    have hlimit : (l.requestAt i continuation).pageLimit = .ok n := limit
    have hscope : (l.requestAt i continuation).scope = l.request.scope := rfl
    rw [find, show (l.requestAt i continuation).continuation = continuation from rfl, reads]
    simp only [bind, Except.bind, hlimit, hscope, if_neg hcond, pure, Except.pure]
  constructor
  · rintro rfl
    rw [hfind, answerFind, of.containers, of.assets, found]
    simp only [bind, Except.bind, Bool.false_eq_true, if_false, renderPage_iff.2 ⟨renders, rfl⟩]
  · rintro rfl
    obtain ⟨text, hencode⟩ : ∃ text,
        Continuation.encode (scopeKey l.request.scope) c' a' = .ok text := by
      rw [Continuation.encode, if_pos (by rw [containersShort, assetsShort]; rfl)]
      exact ⟨_, rfl⟩
    refine ⟨text, _, ?_, Continuation.decode_encode py.depth hencode, rfl, rfl, fun _ => rfl⟩
    rw [hfind, answerFind_iff.2 ⟨_, by rw [of.containers, of.assets, found], rfl, rfl, hencode, renders⟩]

/-- The offset after a window, which moves over it, or else to the total. -/
def offsetAfter (a : ℕ) (window : List (Option ListedAsset)) (total : ℕ) : ℕ :=
  if window.length = 0 then max a total else a + window.length

theorem advanceAssetOffset_window (a total : ℕ) (window : List (Option ListedAsset)) :
    advanceAssetOffset a ⟨window.reduceOption, total, some window.length⟩ total =
      offsetAfter a window total := by
  rw [advanceAssetOffset, offsetAfter]
  dsimp only
  split_ifs <;> omega

/-- A page from the containers and the images it takes. -/
theorem findPage_of (windowed : l.Over py containers slots rows total) {i n c a a' t : ℕ}
    {taken : List Container} {shown : List Resource} (htaken : (containers.drop c).take n = taken)
    (finds : FindsImages l.service (l.grants i) l.request.scope ((n : ℤ) - taken.length) a
      (shown, (a' : ℤ), (t : ℤ))) :
    findPage l.service (l.grants i) l.request.scope n c a =
      .ok ⟨taken.map .container ++ shown, (c + taken.length : ℕ), a',
        decide (c + taken.length < containers.length) || decide (a' < t)⟩ := by
  have hslice : slice containers c ((c : ℤ) + n) = taken := (slice_window containers c n).trans htaken
  refine findPage_iff.2 ⟨containers, shown, a', t, windowed.found, ?_, ?_⟩
  · rwa [hslice]
  · rw [hslice]
    norm_cast

/-- A page whose containers leave room for images. -/
theorem findPage_room (windowed : l.Over py containers slots rows total) (i : ℕ) {n c : ℕ} (a : ℕ)
    (images : "IMAGE" ∈ l.request.scope.types) (le : c ≤ containers.length)
    (room : containers.length < c + n) {window : List (Option ListedAsset)}
    (hwindow : (slots.drop a).take (rows (n - (containers.length - c))) = window) :
    ∃ shown, ImagesOf shown window.reduceOption ∧
      findPage l.service (l.grants i) l.request.scope n c a =
        .ok ⟨(containers.drop c).map .container ++ shown, containers.length,
          offsetAfter a window (total window),
          decide (offsetAfter a window (total window) < total window)⟩ := by
  obtain ⟨shown, hshown, himages⟩ := showAssets_of_issuesAll (windowed.issues i) 0 window.reduceOption
  have hpage := windowed.windows.page a (n - (containers.length - c)) (by omega)
  rw [hwindow] at hpage
  have htaken : (containers.drop c).take n = containers.drop c :=
    List.take_of_length_le (by rw [List.length_drop]; omega)
  have hlength : c + (containers.drop c).length = containers.length := by
    rw [List.length_drop]
    omega
  have hremaining : (n : ℤ) - (containers.drop c).length =
      ((n - (containers.length - c) : ℕ) : ℤ) := by omega
  have hroom : 0 < n - (containers.length - c) := by omega
  have hfinds : FindsImages l.service (l.grants i) l.request.scope
      (n - (containers.length - c) : ℕ) a _ := .listed images (Nat.cast_pos.2 hroom) hpage hshown
  rw [advanceAssetOffset_window, ← hremaining] at hfinds
  have hfound := findPage_of windowed htaken hfinds
  rw [hlength, decide_eq_false (lt_irrefl _), Bool.false_or] at hfound
  exact ⟨shown, himages, hfound⟩

/-- A page that its containers fill. -/
theorem findPage_full (windowed : l.Over py containers slots rows total) (i : ℕ) {n c : ℕ} (a : ℕ)
    (images : "IMAGE" ∈ l.request.scope.types) (full : c + n ≤ containers.length) :
    findPage l.service (l.grants i) l.request.scope n c a =
      .ok ⟨((containers.drop c).take n).map .container, (c + n : ℕ), a,
        decide (c + n < containers.length) || decide (a < total (slots.take (rows 1)))⟩ := by
  have hpage := windowed.windows.page 0 1 one_pos
  have hlength : ((containers.drop c).take n).length = n := by
    rw [List.length_take, List.length_drop]
    omega
  have hfinds : FindsImages l.service (l.grants i) l.request.scope
      ((n : ℤ) - ((containers.drop c).take n).length) a _ := .full images (by omega) hpage
  have hfound := findPage_of windowed rfl hfinds
  rw [hlength, List.append_nil] at hfound
  exact hfound

/-- A page without images. -/
theorem findPage_none (windowed : l.Over py containers slots rows total) (i : ℕ) {n c : ℕ} (a : ℕ)
    (images : "IMAGE" ∉ l.request.scope.types) :
    findPage l.service (l.grants i) l.request.scope n c a =
      .ok ⟨((containers.drop c).take n).map .container,
        (c + ((containers.drop c).take n).length : ℕ), a,
        decide (c + ((containers.drop c).take n).length < containers.length)⟩ := by
  have hfinds : FindsImages l.service (l.grants i) l.request.scope
      ((n : ℤ) - ((containers.drop c).take n).length) a _ := .none images
  have hfound := findPage_of windowed (t := 0) rfl hfinds
  rw [List.append_nil, decide_eq_false (Nat.not_lt_zero a), Bool.or_false] at hfound
  exact hfound

/-! ## The whole listing -/

/-- The containers of a page are shown. -/
theorem renders_containers (windowed : l.Over py containers slots rows total) {taken : List Container}
    (part : taken ⊆ containers) : ∀ resource ∈ taken.map Resource.container, resource.Renders py := by
  intro resource hresource
  obtain ⟨container, hcontainer, rfl⟩ := List.mem_map.1 hresource
  exact windowed.containersRender container (part hcontainer)

/-- The images of a page are shown. -/
theorem renders_images (windowed : l.Over py containers slots rows total)
    {window : List (Option ListedAsset)} (part : window ⊆ slots) {shown : List Resource}
    (images : ImagesOf shown window.reduceOption) : ∀ resource ∈ shown, resource.Renders py := by
  intro resource hresource
  obtain ⟨asset, hasset, url, rfl⟩ := exists_of_forall₂ images.flip hresource
  obtain ⟨slot, hslot, hshows⟩ := List.mem_filterMap.1 hasset
  obtain rfl : slot = some asset := hshows
  exact windowed.assetsRender asset (part hslot) url

/-- From a page on: it is the last one, or there is a cursor after it. -/
theorem exhausts_of_findPage {i : ℕ} {continuation : Json} {cursor : Continuation}
    {n c a c' a' : ℕ} {resources : List Resource} {more : Bool} {p : List Resource → Prop}
    (windowed : l.Over py containers slots rows total)
    (reads : Continuation.decode py.depth continuation = .ok (some cursor))
    (of : cursor.Of l.request.scope c a) (limit : intOr (l.limits i) 50 = .ok n)
    (found : findPage l.service (l.grants i) l.request.scope n c a = .ok ⟨resources, c', a', more⟩)
    (containersLe : c' ≤ containers.length) (assetsLe : a' ≤ slots.length)
    (renders : ∀ resource ∈ resources, resource.Renders py)
    (last : more = false → p [])
    (next : more = true → ∀ continuation' cursor',
      Continuation.decode py.depth continuation' = .ok (some cursor') →
      cursor'.Of l.request.scope c' a' → ∃ rest, p rest ∧ l.Exhausts py (i + 1) continuation' rest) :
    ∃ rest, p rest ∧ l.Exhausts py i continuation (resources ++ rest) := by
  obtain ⟨hlast, hnext⟩ := find_of_findPage reads of limit found
    (isShort_of_lt (lt_of_le_of_lt containersLe windowed.countable))
    (isShort_of_lt (lt_of_le_of_lt assetsLe windowed.slotsCountable)) renders
  cases more with
  | false =>
    refine ⟨[], last rfl, ?_⟩
    rw [List.append_nil]
    exact .last (hlast rfl)
  | true =>
    obtain ⟨text, cursor', hfind, hreads, hof⟩ := hnext rfl
    obtain ⟨rest, hrest, hexhausts⟩ := next rfl _ cursor' hreads hof
    exact ⟨rest, hrest, .next hfind hexhausts⟩

/-- A list is a part taken from it and what comes after it. -/
theorem take_append_drop_length {α : Type} (xs : List α) (n : ℕ) :
    xs.take n ++ xs.drop (xs.take n).length = xs :=
  List.prefix_iff_eq_append.1 (List.take_prefix n xs)

theorem offsetAfter_window {a n : ℕ} (assetsLe : a ≤ slots.length) (pos : 0 < n) :
    offsetAfter a ((slots.drop a).take n) slots.length = a + ((slots.drop a).take n).length ∧
      (a < slots.length → 0 < ((slots.drop a).take n).length) ∧
      a + ((slots.drop a).take n).length ≤ slots.length := by
  rw [offsetAfter, List.length_take, List.length_drop]
  split_ifs <;> omega

theorem images_append (scope : FindScope) (slots slots' : List (Option ListedAsset)) :
    scope.images (slots ++ slots') = scope.images slots ++ scope.images slots' := by
  rw [FindScope.images, FindScope.images, FindScope.images]
  split_ifs
  · exact List.filterMap_append
  · rfl

theorem images_nil (scope : FindScope) : scope.images [] = [] := by
  rw [FindScope.images]
  split_ifs <;> rfl

/-- From a page that its containers fill, a client gets them, and then what it gets
    from the cursor after it. -/
theorem exhausts_full (windowed : l.Over py containers slots rows total) {i n c a : ℕ}
    {continuation : Json} {cursor : Continuation} {p : List Resource → Prop}
    (reads : Continuation.decode py.depth continuation = .ok (some cursor))
    (of : cursor.Of l.request.scope c a) (assetsLe : a ≤ slots.length)
    (limit : intOr (l.limits i) 50 = .ok n) (images : "IMAGE" ∈ l.request.scope.types)
    (full : c + n ≤ containers.length) (last : total (slots.take (rows 1)) ≤ a → p [])
    (next : ∀ continuation' cursor',
      Continuation.decode py.depth continuation' = .ok (some cursor') →
      cursor'.Of l.request.scope (c + n) a → ∃ shown, p shown ∧
        l.Exhausts py (i + 1) continuation' ((containers.drop (c + n)).map .container ++ shown)) :
    ∃ shown, p shown ∧ l.Exhausts py i continuation ((containers.drop c).map .container ++ shown) := by
  have hfound := findPage_full windowed i a images full
  have hpart : (containers.drop c).take n ⊆ containers :=
    List.Subset.trans (List.take_subset _ _) (List.drop_subset _ _)
  have hnext : ∃ rest, (∃ shown, p shown ∧ rest = (containers.drop (c + n)).map .container ++ shown) ∧
      l.Exhausts py i continuation (((containers.drop c).take n).map .container ++ rest) := by
    refine exhausts_of_findPage windowed reads of limit hfound full assetsLe
      (renders_containers windowed hpart) (fun hmore => ?_)
      fun _ continuation' cursor' reads' of' => ?_
    · rw [Bool.or_eq_false_iff, decide_eq_false_iff_not, decide_eq_false_iff_not] at hmore
      refine ⟨[], last (not_lt.1 hmore.2), ?_⟩
      rw [List.drop_eq_nil_of_le (not_lt.1 hmore.1)]
      rfl
    · obtain ⟨shown, hshown, hexhausts⟩ := next continuation' cursor' reads' of'
      exact ⟨_, ⟨shown, hshown, rfl⟩, hexhausts⟩
  obtain ⟨_, ⟨shown, hshown, rfl⟩, hexhausts⟩ := hnext
  refine ⟨shown, hshown, ?_⟩
  have htaken := List.take_append_drop n (containers.drop c)
  rw [List.drop_drop] at htaken
  rwa [← List.append_assoc, ← List.map_append, htaken] at hexhausts

/-- Without images a client gets the containers. -/
theorem exhausts_none (windowed : l.Over py containers slots rows total) {i c a : ℕ}
    {continuation : Json} {cursor : Continuation}
    (reads : Continuation.decode py.depth continuation = .ok (some cursor))
    (of : cursor.Of l.request.scope c a) (containersLe : c ≤ containers.length)
    (assetsLe : a ≤ slots.length) (images : "IMAGE" ∉ l.request.scope.types) :
    l.Exhausts py i continuation ((containers.drop c).map .container) := by
  -- By induction on the containers that are left, of which every page takes some.
  induction hleft : containers.length - c using Nat.strong_induction_on
    generalizing i c continuation cursor with
  | h left ih =>
    obtain ⟨n, hlimit, hn⟩ := windowed.limits i
    have hfound := findPage_none windowed i (n := n) (c := c) a images
    have hpart : (containers.drop c).take n ⊆ containers :=
      List.Subset.trans (List.take_subset _ _) (List.drop_subset _ _)
    have hlength : c + ((containers.drop c).take n).length ≤ containers.length ∧
        (c < containers.length → 0 < ((containers.drop c).take n).length) := by
      rw [List.length_take, List.length_drop]
      omega
    have hnext : ∃ rest,
        rest = (containers.drop (c + ((containers.drop c).take n).length)).map Resource.container ∧
          l.Exhausts py i continuation (((containers.drop c).take n).map .container ++ rest) := by
      refine exhausts_of_findPage windowed reads of hlimit hfound hlength.1 assetsLe
        (renders_containers windowed hpart) (fun hmore => ?_) fun hmore continuation' cursor' reads' of' => ?_
      · rw [List.drop_eq_nil_of_le (not_lt.1 (of_decide_eq_false hmore))]
        rfl
      · have hmore := of_decide_eq_true hmore
        have hless := hlength.2 (by omega)
        exact ⟨_, rfl, ih _ (by omega) reads' of' hlength.1 rfl⟩
    obtain ⟨_, rfl, hexhausts⟩ := hnext
    have htaken := take_append_drop_length (containers.drop c) n
    rw [List.drop_drop] at htaken
    rwa [← List.map_append, htaken] at hexhausts

/-- From a cursor on, a client gets the containers and the assets that it has not
    gone through. -/
theorem exhausts_from (windowed : l.Over py containers slots rows fun _ => slots.length) {i c a : ℕ}
    {continuation : Json} {cursor : Continuation}
    (reads : Continuation.decode py.depth continuation = .ok (some cursor))
    (of : cursor.Of l.request.scope c a) (containersLe : c ≤ containers.length)
    (assetsLe : a ≤ slots.length) :
    ∃ shown, ImagesOf shown (l.request.scope.images (slots.drop a)) ∧
      l.Exhausts py i continuation ((containers.drop c).map .container ++ shown) := by
  by_cases himages : "IMAGE" ∉ l.request.scope.types
  · refine ⟨[], ?_, ?_⟩
    · rw [FindScope.images, if_neg himages]
      exact .nil
    · rw [List.append_nil]
      exact exhausts_none windowed reads of containersLe assetsLe himages
  rw [not_not] at himages
  -- By induction on what is left of either list: every page takes some of it.
  induction hleft : containers.length - c + (slots.length - a) using Nat.strong_induction_on
    generalizing i c a continuation cursor with
  | h left ih =>
    obtain ⟨n, hlimit, hn⟩ := windowed.limits i
    by_cases hroom : containers.length < c + n
    · obtain ⟨shown, hshown, hfound⟩ := findPage_room windowed i a himages containersLe hroom rfl
      obtain ⟨hoffset, hpos, hle⟩ := offsetAfter_window assetsLe
        (windowed.windows.pos _ (by omega : 0 < n - (containers.length - c)))
      have hwindow := take_append_drop_length (slots.drop a) (rows (n - (containers.length - c)))
      rw [List.drop_drop] at hwindow
      have hrenders := List.forall_mem_append.2
        ⟨renders_containers windowed (List.drop_subset c containers),
          renders_images windowed
            (List.Subset.trans (List.take_subset _ _) (List.drop_subset a slots)) hshown⟩
      generalize (slots.drop a).take (rows (n - (containers.length - c))) = window at *
      rw [hoffset] at hfound
      have hnext : ∃ rest, ImagesOf rest (l.request.scope.images (slots.drop (a + window.length))) ∧
          l.Exhausts py i continuation ((containers.drop c).map .container ++ shown ++ rest) := by
        refine exhausts_of_findPage windowed reads of hlimit hfound le_rfl hle hrenders
          (fun hmore => ?_) fun hmore continuation' cursor' reads' of' => ?_
        · rw [List.drop_eq_nil_of_le (not_lt.1 (of_decide_eq_false hmore)), images_nil]
          exact .nil
        · have hmore := of_decide_eq_true hmore
          have hless := hpos (by omega)
          obtain ⟨rest, hrest, hexhausts⟩ := ih _ (by omega) reads' of' le_rfl hle rfl
          rw [List.drop_length] at hexhausts
          exact ⟨rest, hrest, hexhausts⟩
      obtain ⟨rest, hrest, hexhausts⟩ := hnext
      rw [List.append_assoc] at hexhausts
      refine ⟨shown ++ rest, ?_, hexhausts⟩
      rw [← hwindow, images_append]
      refine List.rel_append ?_ hrest
      rwa [FindScope.images, if_pos himages]
    · refine exhausts_full windowed reads of assetsLe hlimit himages (not_lt.1 hroom) (fun htotal => ?_)
        fun continuation' cursor' reads' of' => ?_
      · rw [List.drop_eq_nil_of_le htotal, images_nil]
        exact .nil
      · exact ih _ (by omega) reads' of' (not_lt.1 hroom) assetsLe rfl

/-! ## Bare lists -/

/-- Where the total of a window is its length, the first page of assets is the last
    one, when all pages have the same limit. -/
theorem exhausts_bare_from (windowed : l.Over py containers slots rows List.length) {n : ℕ} (pos : 0 < n)
    (limit : ∀ i, intOr (l.limits i) 50 = .ok n) {i c : ℕ} {continuation : Json}
    {cursor : Continuation}
    (reads : Continuation.decode py.depth continuation = .ok (some cursor))
    (of : cursor.Of l.request.scope c 0) (containersLe : c ≤ containers.length) :
    ∃ shown, ImagesOf shown (l.request.scope.images
        (slots.take (rows (n - (containers.length - c) % n)))) ∧
      l.Exhausts py i continuation ((containers.drop c).map .container ++ shown) := by
  by_cases himages : "IMAGE" ∉ l.request.scope.types
  · refine ⟨[], ?_, ?_⟩
    · rw [FindScope.images, if_neg himages]
      exact .nil
    · rw [List.append_nil]
      exact exhausts_none windowed reads of containersLe (Nat.zero_le _) himages
  rw [not_not] at himages
  -- By induction on the containers that are left: a page without room takes some.
  induction hleft : containers.length - c using Nat.strong_induction_on
    generalizing i c continuation cursor with
  | h left ih =>
    by_cases hroom : containers.length < c + n
    · obtain ⟨shown, hshown, hfound⟩ := findPage_room windowed i 0 himages containersLe hroom rfl
      rw [Nat.mod_eq_of_lt (by omega), ← hleft, FindScope.images, if_pos himages]
      rw [List.drop_zero] at hshown hfound
      have hle : (slots.take (rows (n - (containers.length - c)))).length ≤ slots.length :=
        List.length_take_le' _ _
      have hrenders := List.forall_mem_append.2
        ⟨renders_containers windowed (List.drop_subset c containers),
          renders_images windowed (List.take_subset _ slots) hshown⟩
      generalize slots.take (rows (n - (containers.length - c))) = window at *
      have hoffset : offsetAfter 0 window window.length = window.length := by
        rw [offsetAfter]
        split_ifs <;> omega
      rw [hoffset] at hfound
      have hlast : ∃ rest, rest = [] ∧
          l.Exhausts py i continuation ((containers.drop c).map .container ++ shown ++ rest) :=
        exhausts_of_findPage windowed reads of (limit i) hfound le_rfl hle hrenders
          (fun _ => rfl) fun hmore => absurd (of_decide_eq_true hmore) (lt_irrefl _)
      obtain ⟨_, rfl, hexhausts⟩ := hlast
      rw [List.append_nil] at hexhausts
      exact ⟨shown, hshown, hexhausts⟩
    · refine exhausts_full windowed reads of (Nat.zero_le _) (limit i) himages (not_lt.1 hroom)
        (fun htotal => ?_) fun continuation' cursor' reads' of' => ?_
      · have hslots : slots = [] := by
          have hpos := windowed.windows.pos 1 one_pos
          rw [List.length_take] at htotal
          exact List.length_eq_zero_iff.1 (by omega)
        rw [hslots, List.take_nil, images_nil]
        exact .nil
      · rw [Nat.mod_eq_sub_mod (by omega : n ≤ left)]
        exact ih (left - n) (by omega) reads' of' (not_lt.1 hroom) (by omega)

end

end Broker
