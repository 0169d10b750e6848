import Broker.Finder

/-!
# Progress of paging

What a client gets that follows continuations, each request carrying the one of
the last response (`Following`). A request makes progress if the continuation of
its response counts more containers and assets than its own. One does not if its
limit, which the route takes as it is, leaves no room on the page while the
listing is not at its end (`Stalls`): this is exactly when the client receives a
cursor again (`find_progress_iff`).
-/

namespace Broker

open Py

/-! ## Pages -/

section Pages

variable {py : Interpreter} {service : ResourceSpaceService} {grants : PreviewGrants}
  {scope : FindScope}

/-- A page is written if all its resources are. -/
theorem renderPage_iff {resources : List Resource} {continuation : Option String}
    {response : FindResponse} :
    renderPage py resources continuation = .ok response ↔
      (∀ resource ∈ resources, resource.Renders py) ∧ .success resources continuation = response := by
  have hbody : (pageBody resources continuation).dumpError? (py.dumpsDepth + 4) =
      Json.itemsError? (py.dumpsDepth + 2) (resources.map Resource.json) := by
    have hrest : ∀ error : Option Json.DumpError,
        (error <|> Json.entriesError? (py.dumpsDepth + 3)
          (continuation.elim [] fun text => [("continuation", .str text)])) = error := by
      intro error
      cases continuation <;> cases error <;> rfl
    exact hrest _
  rw [renderPage, hbody]
  cases herror : Json.itemsError? (py.dumpsDepth + 2) (resources.map Resource.json) with
  | none =>
    rw [Json.itemsError?_eq_none, List.forall_mem_map] at herror
    dsimp only
    rw [Except.ok.injEq, iff_and_self]
    exact fun _ => herror
  | some error =>
    have hnot : ¬∀ resource ∈ resources, resource.Renders py := by
      intro h
      have hnone := Json.itemsError?_eq_none.2 (List.forall_mem_map.2 h)
      cases herror.symm.trans hnone
    cases error <;> simp [hnot]

/-- The cases of the images of a page. -/
inductive FindsImages (service : ResourceSpaceService) (grants : PreviewGrants) (scope : FindScope)
    (remaining a : ℤ) : List Resource × ℤ × ℤ → Prop
  | listed {page : AssetPage} {images : List Resource} (images? : "IMAGE" ∈ scope.types)
    (room : 0 < remaining) (page? : service.listAssets (scope.assetQuery a remaining) = .ok page)
    (shown : showAssets grants 0 page.items = .ok images) :
    FindsImages service grants scope remaining a
      (images, advanceAssetOffset a page page.total, page.total)
  | full {page : AssetPage} (images? : "IMAGE" ∈ scope.types) (room : remaining ≤ 0)
    (page? : service.listAssets (scope.assetQuery 0 1) = .ok page) :
    FindsImages service grants scope remaining a ([], a, page.total)
  | none (images? : "IMAGE" ∉ scope.types) : FindsImages service grants scope remaining a ([], a, 0)

theorem findImages_iff {remaining a : ℤ} {found : List Resource × ℤ × ℤ} :
    findImages service grants scope remaining a = .ok found ↔
      FindsImages service grants scope remaining a found := by
  constructor
  · intro h
    rw [findImages] at h
    split_ifs at h with himages hroom
    · rw [List.contains_iff_mem] at himages
      obtain ⟨page, hpage, h⟩ := exists_ok_of_bind h
      obtain ⟨images, hshown, h⟩ := exists_ok_of_bind h
      cases h
      exact .listed himages hroom hpage hshown
    · rw [List.contains_iff_mem] at himages
      obtain ⟨page, hpage, h⟩ := exists_ok_of_bind h
      cases h
      exact .full himages (not_lt.1 hroom) hpage
    · cases h
      exact .none fun hmem => himages (List.contains_iff_mem.2 hmem)
  · intro h
    rw [findImages]
    cases h with
    | listed himages hroom hpage hshown =>
      rw [if_pos (List.contains_iff_mem.2 himages), if_pos hroom, hpage]
      simp only [bind, Except.bind, hshown]
      rfl
    | full himages hroom hpage =>
      rw [if_pos (List.contains_iff_mem.2 himages), if_neg (not_lt.2 hroom), hpage]
      rfl
    | none himages => rw [if_neg fun hmem => himages (List.contains_iff_mem.1 hmem)]

/-- A page is found from the containers and the images of it. -/
theorem findPage_iff {limit c a : ℤ} {page : FindPage} :
    findPage service grants scope limit c a = .ok page ↔
      ∃ containers images a' total, findContainers service scope = .ok containers ∧
        FindsImages service grants scope
          (limit - (slice containers c (c + limit)).length) a (images, a', total) ∧
        page = ⟨(slice containers c (c + limit)).map .container ++ images,
          c + (slice containers c (c + limit)).length, a',
          decide (c + (slice containers c (c + limit)).length < containers.length) ||
            decide (a' < total)⟩ := by
  constructor
  · intro h
    obtain ⟨containers, hcontainers, h⟩ := exists_ok_of_bind h
    obtain ⟨⟨images, a', total⟩, himages, h⟩ := exists_ok_of_bind h
    cases h
    exact ⟨containers, images, a', total, hcontainers, findImages_iff.1 himages, rfl⟩
  · rintro ⟨containers, images, a', total, hcontainers, himages, rfl⟩
    rw [findPage, hcontainers]
    simp only [bind, Except.bind, findImages_iff.2 himages]
    rfl

theorem le_advanceAssetOffset (a : ℤ) (page : AssetPage) (total : ℤ) :
    a ≤ advanceAssetOffset a page total := by
  rw [advanceAssetOffset]
  split_ifs <;> omega

/-- The offset moves unless it is past the total. -/
theorem lt_of_advanceAssetOffset_lt {a total : ℤ} {page : AssetPage}
    (h : advanceAssetOffset a page total < total) : a < advanceAssetOffset a page total := by
  rw [advanceAssetOffset] at h ⊢
  split_ifs at h ⊢ <;> omega

theorem FindsImages.le {remaining a a' total : ℤ} {images : List Resource}
    (h : FindsImages service grants scope remaining a (images, a', total)) : a ≤ a' := by
  cases h with
  | listed _ _ _ _ => exact le_advanceAssetOffset _ _ _
  | full _ _ _ => exact le_refl a
  | none _ => exact le_refl a

/-- What a response with a continuation says of its page. -/
theorem answerFind_iff {limit : ℤ} {cursor : Continuation} {resources : List Resource}
    {text : String} :
    answerFind py service grants scope limit cursor = .success resources (some text) ↔
      ∃ page, findPage service grants scope limit cursor.containerOffset cursor.assetOffset = .ok page ∧
        page.more = true ∧ page.resources = resources ∧
        Continuation.encode (scopeKey scope) page.containerOffset page.assetOffset = .ok text ∧
        ∀ resource ∈ resources, resource.Renders py := by
  rw [answerFind]
  cases hpage : findPage service grants scope limit cursor.containerOffset cursor.assetOffset with
  | error e => simp [bind, Except.bind]
  | ok page =>
    have hrender := fun continuation response =>
      @renderPage_iff py page.resources continuation response
    cases hmore : page.more with
    | false =>
      simp only [bind, Except.bind, hmore, Bool.false_eq_true, if_false]
      cases hwritten : renderPage py page.resources none with
      | error e => simp [hmore]
      | ok response =>
        obtain ⟨-, rfl⟩ := (hrender none response).1 hwritten
        simp [hmore]
    | true =>
      cases hencode : Continuation.encode (scopeKey scope) page.containerOffset page.assetOffset with
      | error e => simp [bind, Except.bind, hmore, hencode]
      | ok text' =>
        simp only [bind, Except.bind, hmore, if_true, hencode]
        cases hwritten : renderPage py page.resources (some text') with
        | error e =>
          have hnot : ¬∀ resource ∈ page.resources, resource.Renders py := fun h => by
            cases hwritten.symm.trans ((hrender (some text') _).2 ⟨h, rfl⟩)
          simp only [reduceCtorEq, false_iff]
          rintro ⟨_, hsame, -, rfl, -, hrenders⟩
          cases hsame
          exact hnot hrenders
        | ok response =>
          obtain ⟨hrenders, rfl⟩ := (hrender (some text') response).1 hwritten
          constructor
          · rintro h
            cases h
            exact ⟨page, rfl, hmore, rfl, hencode, hrenders⟩
          · rintro ⟨_, hsame, -, rfl, hencode', -⟩
            cases hsame
            cases hencode.symm.trans hencode'
            rfl

end Pages

/-! ## Progress -/

/-- A request, with the service and the grants it meets with. -/
structure FindStep where
  service : ResourceSpaceService
  grants : PreviewGrants
  request : FindRequest

/-- How much of the listing a cursor has gone through. -/
def Continuation.consumed (cursor : Continuation) : ℤ := cursor.containerOffset + cursor.assetOffset

section Steps

variable (py : Interpreter)

namespace FindStep

variable (s : FindStep)

/-- The continuation that a request receives. -/
def received : Option String :=
  match find py s.service s.grants s.request with
  | .ok (.success _ continuation) => continuation
  | _ => none

/-- The cursor of a request, when it is one of the scope. -/
def Reads (cursor : Continuation) : Prop :=
  Continuation.decode py.depth s.request.continuation = .ok (some cursor)

/-- The continuation received, if any, is past the one of the request. -/
def Progresses : Prop :=
  ∀ cursor text, s.Reads py cursor → s.received py = some text →
    ∃ after, Continuation.decode py.depth (.str text) = .ok (some after) ∧
      cursor.consumed < after.consumed

/-- The listing is not at its end, as far as a full page tells. -/
def Left (cursor : Continuation) (containers : List Container) : Prop :=
  if "IMAGE" ∈ s.request.scope.types then
    ∃ page, s.service.listAssets (s.request.scope.assetQuery 0 1) = .ok page ∧
      (cursor.containerOffset < containers.length ∨ cursor.assetOffset < page.total)
  else cursor.containerOffset < containers.length

/-- The request leaves no room on its page, takes no container, and the listing is
    not at its end. -/
structure StallsAt (cursor : Continuation) (limit : ℤ) (containers : List Container) : Prop where
  reads : s.Reads py cursor
  accepted : cursor.scopeKey.truthy = true → cursor.scopeKey = .str (scopeKey s.request.scope)
  asked : s.request.pageLimit = .ok limit
  room : limit ≤ 0
  found : findContainers s.service s.request.scope = .ok containers
  taken : slice containers cursor.containerOffset (cursor.containerOffset + limit) = []
  left : s.Left cursor containers

def Stalls : Prop := ∃ cursor limit containers, s.StallsAt py cursor limit containers

end FindStep

/-- A cursor as continuations have it. -/
structure Continuation.Issued (cursor : Continuation) : Prop where
  containers : 0 ≤ cursor.containerOffset
  assets : 0 ≤ cursor.assetOffset
  containersShort : isShort cursor.containerOffset = true
  assetsShort : isShort cursor.assetOffset = true

theorem issued_zero (key : Json) : (⟨0, 0, key⟩ : Continuation).Issued := by
  have hshort : Continuation.isShort 0 = true := by decide
  exact ⟨le_refl 0, le_refl 0, hshort, hshort⟩

variable {py} {s : FindStep}

/-- What a request that receives a continuation has found. -/
theorem received_iff {cursor : Continuation} {text : String} (reads : s.Reads py cursor) :
    s.received py = some text ↔
      ∃ limit page, s.request.pageLimit = .ok limit ∧
        (cursor.scopeKey.truthy = true → cursor.scopeKey = .str (scopeKey s.request.scope)) ∧
        findPage s.service s.grants s.request.scope limit cursor.containerOffset cursor.assetOffset =
          .ok page ∧ page.more = true ∧
        Continuation.encode (scopeKey s.request.scope) page.containerOffset page.assetOffset =
          .ok text ∧ ∀ resource ∈ page.resources, resource.Renders py := by
  have hreads : Continuation.decode py.depth s.request.continuation = .ok (some cursor) := reads
  rw [FindStep.received, find, hreads]
  cases hlimit : s.request.pageLimit with
  | error e => simp [bind, Except.bind]
  | ok limit =>
    -- A continuation of another scope is refused, and none is handed out.
    by_cases hscope : cursor.scopeKey.truthy = true → cursor.scopeKey = .str (scopeKey s.request.scope)
    · have hcond : ¬((cursor.scopeKey.truthy &&
          decide (cursor.scopeKey ≠ .str (scopeKey s.request.scope))) = true) := by
        simpa using hscope
      simp only [bind, Except.bind, if_neg hcond, pure, Except.pure]
      constructor
      · intro h
        split at h
        · rename_i resources continuation hanswer
          subst h
          obtain ⟨page, hpage, hmore, rfl, hencode, hrenders⟩ :=
            answerFind_iff.1 (Except.ok.inj hanswer)
          exact ⟨limit, page, rfl, hscope, hpage, hmore, hencode, hrenders⟩
        · cases h
      · rintro ⟨limit', page, hlimit', -, hpage, hmore, hencode, hrenders⟩
        cases hlimit'
        rw [answerFind_iff.2 ⟨page, hpage, hmore, rfl, hencode, hrenders⟩]
    · have hcond : (cursor.scopeKey.truthy &&
          decide (cursor.scopeKey ≠ .str (scopeKey s.request.scope))) = true := by
        simpa [Classical.not_imp] using hscope
      simp only [bind, Except.bind, if_pos hcond, pure, Except.pure]
      constructor
      · intro h
        cases h
      · rintro ⟨_, _, _, hscope', _⟩
        exact absurd hscope' hscope

/-- The cursor received is issued, and not before the one of the request. -/
theorem issued_of_received {cursor : Continuation} {text : String} (reads : s.Reads py cursor)
    (issued : cursor.Issued) (received : s.received py = some text) :
    ∃ after, Continuation.decode py.depth (.str text) = .ok (some after) ∧ after.Issued := by
  obtain ⟨limit, page, -, -, hpage, -, hencode, -⟩ := (received_iff reads).1 received
  obtain ⟨containers, images, a', total, -, himages, rfl⟩ := findPage_iff.1 hpage
  refine ⟨_, Continuation.decode_encode py.depth hencode, ?_, ?_, ?_, ?_⟩
  · have := issued.containers
    dsimp only
    omega
  · exact le_trans issued.assets himages.le
  all_goals
    rw [Continuation.encode] at hencode
    split_ifs at hencode with hshort
    rw [Bool.and_eq_true] at hshort
  · exact hshort.1
  · exact hshort.2

/-- A request that stalls receives the cursor that it has sent. -/
theorem received_of_stallsAt {cursor : Continuation} {limit : ℤ} {containers : List Container}
    (stalls : s.StallsAt py cursor limit containers) (issued : cursor.Issued) :
    ∃ text, Continuation.encode (scopeKey s.request.scope) cursor.containerOffset
      cursor.assetOffset = .ok text ∧ s.received py = some text := by
  obtain ⟨total, himages, hmore⟩ : ∃ total, FindsImages s.service s.grants s.request.scope limit
      cursor.assetOffset ([], cursor.assetOffset, total) ∧
      (cursor.containerOffset < containers.length ∨ cursor.assetOffset < total) := by
    have hleft := stalls.left
    rw [FindStep.Left] at hleft
    split_ifs at hleft with himages
    · obtain ⟨page, hpage, hmore⟩ := hleft
      exact ⟨_, .full himages stalls.room hpage, hmore⟩
    · exact ⟨0, .none himages, .inl hleft⟩
  have hencode : ∃ text, Continuation.encode (scopeKey s.request.scope) cursor.containerOffset
      cursor.assetOffset = .ok text := by
    rw [Continuation.encode, if_pos (by rw [issued.containersShort, issued.assetsShort]; rfl)]
    exact ⟨_, rfl⟩
  obtain ⟨text, htext⟩ := hencode
  have hpage : findPage s.service s.grants s.request.scope limit cursor.containerOffset
      cursor.assetOffset = .ok ⟨[], cursor.containerOffset, cursor.assetOffset, true⟩ := by
    refine findPage_iff.2 ⟨containers, [], cursor.assetOffset, total, stalls.found, ?_, ?_⟩
    · rwa [stalls.taken, List.length_nil, Nat.cast_zero, sub_zero]
    · rw [stalls.taken, List.length_nil, Nat.cast_zero, add_zero]
      simpa using hmore
  exact ⟨text, htext, (received_iff stalls.reads).2
    ⟨limit, _, stalls.asked, stalls.accepted, hpage, rfl, htext, fun _ h => absurd h List.not_mem_nil⟩⟩

/-- A request on an issued cursor makes progress unless it stalls. -/
theorem progresses_iff {cursor : Continuation} (reads : s.Reads py cursor) (issued : cursor.Issued) :
    s.Progresses py ↔ ¬s.Stalls py := by
  constructor
  · rintro progresses ⟨cursor', limit, containers, stalls⟩
    obtain rfl := Option.some.inj (Except.ok.inj (reads.symm.trans stalls.reads))
    obtain ⟨text, hencode, received⟩ := received_of_stallsAt stalls issued
    obtain ⟨after, hafter, hlt⟩ := progresses cursor text reads received
    have hsame := Continuation.decode_encode py.depth hencode
    obtain rfl := Option.some.inj (Except.ok.inj (hsame.symm.trans hafter))
    exact lt_irrefl _ hlt
  · intro h cursor' text reads' received
    obtain rfl := Option.some.inj (Except.ok.inj (reads.symm.trans reads'))
    obtain ⟨limit, page, hlimit, haccepted, hpage, hmore, hencode, -⟩ := (received_iff reads).1 received
    obtain ⟨containers, images, a', total, hcontainers, himages, rfl⟩ := findPage_iff.1 hpage
    refine ⟨_, Continuation.decode_encode py.depth hencode, ?_⟩
    rw [Continuation.consumed, Continuation.consumed]
    dsimp only
    by_contra hnot
    have hle := himages.le
    -- Neither offset has moved, so the page has taken no container.
    have htaken : slice containers cursor.containerOffset (cursor.containerOffset + limit) = [] := by
      rw [← List.length_eq_zero_iff]
      omega
    have hsame : a' = cursor.assetOffset := by omega
    rw [htaken, List.length_nil, Nat.cast_zero, sub_zero] at himages
    rw [htaken, List.length_nil, Nat.cast_zero, add_zero, Bool.or_eq_true, decide_eq_true_eq,
      decide_eq_true_eq] at hmore
    have hpast : 0 < limit → (containers.length : ℤ) ≤ cursor.containerOffset := by
      intro hroom
      have hstart := Int.toNat_of_nonneg issued.containers
      have hcount := Int.toNat_of_nonneg hroom.le
      rw [← hstart, ← hcount] at htaken
      have := length_le_of_slice_eq_nil (by omega) htaken
      omega
    have hstalls : limit ≤ 0 → s.Left cursor containers → False := fun hroom hleft =>
      h ⟨cursor, limit, containers, reads, haccepted, hlimit, hroom, hcontainers, htaken, hleft⟩
    cases himages with
    | listed _ hroom _ _ =>
      rcases hmore with hmore | hmore
      · have := hpast hroom
        omega
      · have := lt_of_advanceAssetOffset_lt hmore
        omega
    | full himages hroom hpreview =>
      exact hstalls hroom (by rw [FindStep.Left, if_pos himages]; exact ⟨_, hpreview, hmore⟩)
    | none himages =>
      have hassets := issued.assets
      have hmore : cursor.containerOffset < containers.length := by omega
      refine hstalls ?_ (by rw [FindStep.Left, if_neg himages]; exact hmore)
      by_contra hroom
      have := hpast (not_le.1 hroom)
      omega

/-! ## Following continuations -/

variable (py) in
/-- The requests of a client that follows continuations, the first of which carries
    this one. -/
inductive Following : Json → List FindStep → Prop
  | nil (continuation : Json) : Following continuation []
  | last {s : FindStep} {continuation : Json} (carries : s.request.continuation = continuation) :
    Following continuation [s]
  | next {s : FindStep} {continuation : Json} {text : String} {steps : List FindStep}
    (carries : s.request.continuation = continuation) (received : s.received py = some text)
    (rest : Following (.str text) steps) : Following continuation (s :: steps)

/-- Along a run every request has an issued cursor. -/
theorem Following.issued {continuation : Json} {steps : List FindStep}
    (h : Following py continuation steps) {cursor : Continuation}
    (reads : Continuation.decode py.depth continuation = .ok (some cursor)) (issued : cursor.Issued) :
    ∀ s ∈ steps, ∃ cursor : Continuation, s.Reads py cursor ∧ cursor.Issued := by
  induction h generalizing cursor with
  | nil => exact fun s hs => absurd hs List.not_mem_nil
  | last carries =>
    intro s hs
    obtain rfl := List.mem_singleton.1 hs
    exact ⟨cursor, by rwa [FindStep.Reads, carries], issued⟩
  | @next s _ text steps carries received rest ih =>
    have hreads : s.Reads py cursor := by rwa [FindStep.Reads, carries]
    obtain ⟨after, hafter, hissued⟩ := issued_of_received hreads issued received
    rw [List.forall_mem_cons]
    exact ⟨⟨cursor, hreads, issued⟩, ih hafter hissued⟩

/-- Where every request makes progress, every continuation received is past the
    cursor of the first request, and no two are the same. -/
theorem Following.distinct {continuation : Json} {steps : List FindStep}
    (h : Following py continuation steps) {cursor : Continuation}
    (reads : Continuation.decode py.depth continuation = .ok (some cursor))
    (progress : ∀ s ∈ steps, s.Progresses py) :
    (∀ text ∈ steps.filterMap (FindStep.received py), ∃ after,
      Continuation.decode py.depth (.str text) = .ok (some after) ∧
        cursor.consumed < after.consumed) ∧
      (steps.filterMap (FindStep.received py)).Nodup := by
  -- What a continuation has consumed grows along the listing, so none comes twice.
  induction h generalizing cursor with
  | nil => exact ⟨fun _ h => absurd h List.not_mem_nil, List.nodup_nil⟩
  | @last s _ carries =>
    have hreads : s.Reads py cursor := by rwa [FindStep.Reads, carries]
    have hprogress := progress s List.mem_cons_self cursor
    cases hreceived : s.received py with
    | none => simp [hreceived]
    | some text => simpa [hreceived] using hprogress text hreads hreceived
  | @next s _ text steps carries received rest ih =>
    have hreads : s.Reads py cursor := by rwa [FindStep.Reads, carries]
    obtain ⟨after, hafter, hlt⟩ := progress s List.mem_cons_self cursor text hreads received
    obtain ⟨hpast, hnodup⟩ := ih hafter fun s' hs' => progress s' (List.mem_cons_of_mem s hs')
    rw [List.filterMap_cons_some received, List.forall_mem_cons, List.nodup_cons]
    refine ⟨⟨⟨after, hafter, hlt⟩, fun t ht => ?_⟩, fun hmem => ?_, hnodup⟩
    · obtain ⟨after', hafter', hlt'⟩ := hpast t ht
      exact ⟨after', hafter', hlt.trans hlt'⟩
    · obtain ⟨after', hafter', hlt'⟩ := hpast text hmem
      obtain rfl := Option.some.inj (Except.ok.inj (hafter.symm.trans hafter'))
      exact lt_irrefl _ hlt'

end Steps

/-- A client that follows continuations gets ahead with every request exactly when
    none of its requests stalls; it never receives a continuation twice then. -/
theorem find_progress_iff (py : Interpreter) {continuation : Json} {steps : List FindStep}
    (start : continuation.truthy = false) (run : Following py continuation steps) :
    ((∀ s ∈ steps, s.Progresses py) ↔ ∀ s ∈ steps, ¬s.Stalls py) ∧
      ((∀ s ∈ steps, ¬s.Stalls py) → (steps.filterMap (FindStep.received py)).Nodup) := by
  have hreads := Continuation.decode_of_falsy py.depth start
  have hissued : Continuation.start.Issued := issued_zero .null
  have hiff : (∀ s ∈ steps, s.Progresses py) ↔ ∀ s ∈ steps, ¬s.Stalls py := by
    refine forall₂_congr fun s hs => ?_
    obtain ⟨cursor, hcursor, hissued⟩ := run.issued hreads hissued s hs
    exact progresses_iff hcursor hissued
  exact ⟨hiff, fun h => (run.distinct hreads (hiff.2 h)).2⟩

/-- A request for at least one item does not stall. -/
theorem not_stalls_of_limit {py : Interpreter} {s : FindStep} {limit : ℤ}
    (asked : s.request.pageLimit = .ok limit) (room : 0 < limit) : ¬s.Stalls py := by
  rintro ⟨_, limit', _, stalls⟩
  obtain rfl := Except.ok.inj (asked.symm.trans stalls.asked)
  exact absurd stalls.room (not_le.2 room)

namespace Sample

/-- An interpreter that knows ASCII only. -/
def interpreter : Interpreter where
  unicode := .ascii
  isDigit := isDigit
  repr _ := "0.0"
  depth := 900
  dumpsDepth := 900
  isoDate _ := .ok none

/-- A live tenant that has three assets, and answers with these rows. -/
def countingApi (rows : List Json) : LiveApi := fun _ =>
  .ok (.dict [("total", .int 3), ("data", .list rows)])

/-- A request for so many images of a tenant. -/
def stepOf (api : LiveApi) (limit continuation : Json) : FindStep where
  service := liveService interpreter ⟨"tenant_dam", none, none, "https://dam.example", none, [], []⟩
    api
  grants _ _ := .ok "https://broker.example/public/assets/grant"
  request :=
    { types := some ["IMAGE"], query := none, sort := none, containerId := none, limit
      continuation }

/-- A request for so many images of the tenant that lists none. -/
def findStep : (limit continuation : Json) → FindStep := stepOf (countingApi [])

/-- A request for two images of a tenant that lists one row at a time, whose type is not shown. -/
def scanStep (continuation : Json) : FindStep :=
  stepOf (countingApi [.dict [("ref", .int 1), ("file_extension", .str "tif")]]) (.int 2) continuation

theorem received_first : ((scanStep .null).received interpreter).isSome = true := by decide +kernel

/-- The continuation of the first page. -/
def secondContinuation : String := ((scanStep .null).received interpreter).get received_first

theorem received_second : ((scanStep (.str secondContinuation)).received interpreter).isSome = true := by
  decide +kernel

end Sample

theorem find_progress_pages :
    ∃ text text', (Sample.scanStep .null).received Sample.interpreter = some text ∧
      (Sample.scanStep (.str text)).received Sample.interpreter = some text' ∧ text ≠ text' ∧
      (Sample.scanStep .null).Progresses Sample.interpreter ∧
      (Sample.scanStep (.str text)).Progresses Sample.interpreter := by
  have hfirst := (Option.some_get Sample.received_first).symm
  have hsecond := (Option.some_get Sample.received_second).symm
  obtain ⟨hprogresses, hdistinct⟩ := find_progress_iff Sample.interpreter rfl
    (.next (s := Sample.scanStep .null) rfl hfirst
      (.last (s := Sample.scanStep (.str Sample.secondContinuation)) rfl))
  have hstalls : ∀ s ∈ [Sample.scanStep .null, Sample.scanStep (.str Sample.secondContinuation)],
      ¬s.Stalls Sample.interpreter := by
    rw [List.forall_mem_cons, List.forall_mem_singleton]
    exact ⟨not_stalls_of_limit rfl two_pos, not_stalls_of_limit rfl two_pos⟩
  have hpages := hprogresses.2 hstalls
  have hnodup := hdistinct hstalls
  rw [List.forall_mem_cons, List.forall_mem_singleton] at hpages
  rw [List.filterMap_cons_some hfirst, List.filterMap_cons_some hsecond, List.filterMap_nil] at hnodup
  exact ⟨_, _, hfirst, hsecond, by simpa using hnodup, hpages.1, hpages.2⟩

/-- A request with a negative limit receives a cursor that it receives again on
    following it. -/
theorem negative_limit_repeats :
    ∃ text, (Sample.findStep (.int (-1)) .null).received Sample.interpreter = some text ∧
      (Sample.findStep (.int (-1)) (.str text)).received Sample.interpreter = some text ∧
      ¬(Sample.findStep (.int (-1)) .null).Progresses Sample.interpreter := by
  have hstalls : ∀ {continuation key}, Continuation.decode 900 continuation = .ok (some ⟨0, 0, key⟩) →
      (key.truthy = true → key = .str (scopeKey ⟨none, "", "updated_desc", ["IMAGE"]⟩)) →
      (Sample.findStep (.int (-1)) continuation).StallsAt Sample.interpreter ⟨0, 0, key⟩ (-1) [] :=
    fun reads accepted =>
      { reads, accepted, asked := rfl, room := by decide, found := rfl, taken := rfl
        left := ⟨⟨[], 3, some 0⟩, rfl, .inr three_pos⟩ }
  have hstart : (Sample.findStep (.int (-1)) .null).StallsAt Sample.interpreter ⟨0, 0, .null⟩ (-1) [] :=
    hstalls rfl fun h => by cases h
  obtain ⟨text, hencode, hreceived⟩ := received_of_stallsAt hstart (issued_zero _)
  have hagain := hstalls (Continuation.decode_encode 900 hencode) fun _ => rfl
  obtain ⟨text', hencode', hreceived'⟩ := received_of_stallsAt hagain (issued_zero _)
  obtain rfl := Except.ok.inj (hencode.symm.trans hencode')
  exact ⟨text, hreceived, hreceived', fun progresses =>
    (progresses_iff hstart.reads (issued_zero _)).1 progresses ⟨_, _, _, hstart⟩⟩

end Broker
