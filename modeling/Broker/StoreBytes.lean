import Broker.JsonStore
import Broker.Lib.Quoting

/-!
# The bytes of the store file

A store file may hold any bytes. One that is not a store is meant to be left alone by an update,
and to be read as the initial state by a lenient read (`Protects`). So it is, unless its bytes
are not UTF-8 or `json.loads` raises something else than a `JSONDecodeError` on their text: that
is not caught (`protects_iff`).
-/

namespace Broker

open Py Crash Files

/-! ## Bytes -/

/-- The known buckets. -/
inductive StoreBucket
  | authorizationCodes
  | accessTokens
  | refreshTokens
  | assetGrants
  | pendingSsoStates
  deriving DecidableEq

/-- The key of a bucket. -/
def StoreBucket.key : StoreBucket → String
  | authorizationCodes => "authorizationCodes"
  | accessTokens => "accessTokens"
  | refreshTokens => "refreshTokens"
  | assetGrants => "assetGrants"
  | pendingSsoStates => "pendingSsoStates"

/-- The records of a bucket. -/
def Buckets.bucket (state : Buckets) : StoreBucket → List (String × Json)
  | .authorizationCodes => state.authorizationCodes
  | .accessTokens => state.accessTokens
  | .refreshTokens => state.refreshTokens
  | .assetGrants => state.assetGrants
  | .pendingSsoStates => state.pendingSsoStates

/-- A `JsonStoreLoadError`. -/
def StoreError.IsLoadError : StoreError → Prop
  | .unreadable | .rootNotObject | .bucketNull _ | .bucketNotObject _ => True
  | _ => False

namespace JsonStore

variable (store : JsonStore)

/-- `_load` of a store file with these bytes. A `UnicodeDecodeError` is a `ValueError`. A carriage
    return is read as a line feed, which is as good a blank, and may not stand in a string either. -/
def loadBytes (strict : Bool) (bytes : List UInt8) : Except StoreError Buckets :=
  match Url.decodeUtf8 bytes with
  | none => .error .valueError
  | some text => store.parse strict text

/-- `update` and `update_strict` of a store file with these bytes: the outcome, and the bytes
    afterwards. -/
def updateBytes {α : Type} (updater : Buckets → Except PyError (α × Buckets)) (bytes : List UInt8) :
    Except StoreError α × List UInt8 :=
  match store.loadBytes true bytes with
  | .error e => (.error e, bytes)
  | .ok state =>
    match updater state with
    | .error e => (.error (.raised e), bytes)
    | .ok (result, state') => (.ok result, Url.utf8 (store.dumps state'))

/-! ## Protection -/

/-- The bytes are those of a JSON object whose known buckets are objects. -/
def IsStore (bytes : List UInt8) : Prop :=
  ∃ text entries, Url.decodeUtf8 bytes = some text ∧
    Json.loads (store.depth + 2) text = .ok (.dict entries) ∧
    ∀ (b : StoreBucket) v, entries.lookup b.key = some v → ∃ records, v = .dict records

/-- The bytes are UTF-8, and `json.loads` reads their text or raises a `JSONDecodeError`: it meets
    neither an integer of too many digits nor too deep a value. -/
def ReadsCleanly (bytes : List UInt8) : Prop :=
  ∃ text, Url.decodeUtf8 bytes = some text ∧
    Json.loads (store.depth + 2) text ≠ .error .digits ∧
    Json.loads (store.depth + 2) text ≠ .error .recursion

/-- The records of a state can be written and read back. -/
def Rereads (state : Buckets) : Prop :=
  ∀ b, ((state.bucket b).map Prod.fst).Nodup ∧
    ∀ e ∈ state.bucket b, Json.Reread store.repr store.depth e.2

/-- The records of a state after an update are old ones, or can be written and read back. -/
def Writes (state state' : Buckets) : Prop :=
  ∀ b, ((state'.bucket b).map Prod.fst).Nodup ∧
    ∀ e ∈ state'.bucket b, e ∈ state.bucket b ∨ Json.Reread store.repr store.depth e.2

/-- What the store owes to a file with these bytes. -/
structure Protects (bytes : List UInt8) : Prop where
  /-- No update overwrites what is not a store. -/
  refuses : ¬store.IsStore bytes → ∀ (α : Type) (updater : Buckets → Except PyError (α × Buckets)),
    ∃ e, store.updateBytes updater bytes = (.error e, bytes) ∧ e.IsLoadError
  /-- A lenient read returns some state. -/
  lenient : ¬store.IsStore bytes → ∃ state, store.loadBytes false bytes = .ok state
  /-- An update keeps the records that its updater does not touch. -/
  keeps : store.IsStore bytes → ∀ (α : Type) (updater : Buckets → Except PyError (α × Buckets)),
    ∃ state, store.loadBytes true bytes = .ok state ∧
      (∀ e, updater state = .error e → store.updateBytes updater bytes = (.error (.raised e), bytes)) ∧
      ∀ a state', updater state = .ok (a, state') → store.Writes state state' →
        ∃ bytes' after, store.updateBytes updater bytes = (.ok a, bytes') ∧
          store.loadBytes true bytes' = .ok after ∧
          ∀ b key, (state'.bucket b).lookup key = (state.bucket b).lookup key →
            (after.bucket b).lookup key = (state.bucket b).lookup key

/-! ## Merging -/

theorem mergeBucket_lenient (entries : List (String × Json)) (key : String) :
    ∃ records, mergeBucket entries false key = .ok records := by
  rw [mergeBucket]
  split
  · exact ⟨_, rfl⟩
  · exact ⟨_, rfl⟩
  · exact ⟨_, rfl⟩
  · exact ⟨_, rfl⟩

theorem mergeBucket_strict_iff {entries : List (String × Json)} {key : String} :
    (∃ records, mergeBucket entries true key = .ok records) ↔
      ∀ v, entries.lookup key = some v → ∃ records, v = .dict records := by
  rw [mergeBucket]
  split
  · rename_i hnone
    exact iff_of_true ⟨_, rfl⟩ fun v hv => by cases hnone.symm.trans hv
  · rename_i hnull
    refine iff_of_false (fun ⟨_, h⟩ => (by cases h)) fun h => ?_
    obtain ⟨records, hrecords⟩ := h _ hnull
    cases hrecords
  · rename_i records hdict
    exact iff_of_true ⟨_, rfl⟩ fun v hv => ⟨records, (Option.some.inj (hdict.symm.trans hv)).symm⟩
  · rename_i v hnull hdict hlookup
    refine iff_of_false (fun ⟨_, h⟩ => (by cases h)) fun h => ?_
    obtain ⟨records, hrecords⟩ := h v hlookup
    exact hdict records hrecords

theorem mergeBucket_error {entries : List (String × Json)} {key : String} {e : StoreError}
    (h : mergeBucket entries true key = .error e) : e.IsLoadError := by
  rw [mergeBucket] at h
  split at h
  · cases h
  · cases h
    exact trivial
  · cases h
  · cases h
    exact trivial

/-- The state that is merged, bucket by bucket. -/
theorem mergeStore_ok_iff {entries : List (String × Json)} {strict : Bool} {s : Buckets} :
    mergeStore (.dict entries) strict = .ok s ↔
      ∀ b : StoreBucket, mergeBucket entries strict b.key = .ok (s.bucket b) := by
  constructor
  · intro h
    obtain ⟨_, hcodes, h⟩ := exists_ok_of_bind h
    obtain ⟨_, haccess, h⟩ := exists_ok_of_bind h
    obtain ⟨_, hrefresh, h⟩ := exists_ok_of_bind h
    obtain ⟨_, hgrants, h⟩ := exists_ok_of_bind h
    obtain ⟨_, hpending, h⟩ := exists_ok_of_bind h
    obtain rfl := Except.ok.inj h
    intro b
    cases b with
    | authorizationCodes => exact hcodes
    | accessTokens => exact haccess
    | refreshTokens => exact hrefresh
    | assetGrants => exact hgrants
    | pendingSsoStates => exact hpending
  · intro h
    have hcodes := h .authorizationCodes
    have haccess := h .accessTokens
    have hrefresh := h .refreshTokens
    have hgrants := h .assetGrants
    have hpending := h .pendingSsoStates
    simp only [StoreBucket.key, Buckets.bucket] at hcodes haccess hrefresh hgrants hpending
    rw [mergeStore, hcodes, haccess, hrefresh, hgrants, hpending]
    rfl

theorem mergeStore_error {parsed : Json} : ∀ e, mergeStore parsed true = .error e → e.IsLoadError := by
  cases parsed with
  | dict entries =>
    have hbucket : ∀ key e, mergeBucket entries true key = .error e → e.IsLoadError :=
      fun _ _ => mergeBucket_error
    exact forall_error_of_bind (hbucket _) fun _ => forall_error_of_bind (hbucket _) fun _ =>
      forall_error_of_bind (hbucket _) fun _ => forall_error_of_bind (hbucket _) fun _ =>
      forall_error_of_bind (hbucket _) fun _ _ h => by cases h
  | _ =>
    intro e h
    cases h
    exact trivial

theorem mergeStore_lenient (parsed : Json) : ∃ s, mergeStore parsed false = .ok s := by
  cases parsed with
  | dict entries =>
    choose records hrecords using mergeBucket_lenient entries
    exact ⟨⟨_, _, _, _, _⟩, mergeStore_ok_iff.2 fun b => by cases b <;> exact hrecords _⟩
  | _ => exact ⟨_, rfl⟩

/-! ## Loading -/

variable {store} {bytes : List UInt8}

theorem loadBytes_ok_iff {s : Buckets} :
    store.loadBytes true bytes = .ok s ↔ ∃ text entries, Url.decodeUtf8 bytes = some text ∧
      Json.loads (store.depth + 2) text = .ok (.dict entries) ∧
      ∀ b : StoreBucket, mergeBucket entries true b.key = .ok (s.bucket b) := by
  constructor
  · intro h
    rw [loadBytes] at h
    split at h
    · cases h
    · rename_i text hdecode
      rw [parse] at h
      split at h
      · rename_i parsed hloads
        cases parsed with
        | dict entries => exact ⟨text, entries, hdecode, hloads, mergeStore_ok_iff.1 h⟩
        | _ => cases h
      · cases h
      · cases h
      · cases h
  · rintro ⟨text, entries, hdecode, hloads, hbuckets⟩
    rw [loadBytes, hdecode]
    dsimp only
    rw [parse, hloads]
    exact mergeStore_ok_iff.2 hbuckets

/-- The stores are the files that a strict load reads. -/
theorem isStore_iff : store.IsStore bytes ↔ ∃ s, store.loadBytes true bytes = .ok s := by
  constructor
  · rintro ⟨text, entries, hdecode, hloads, hbuckets⟩
    choose records hrecords using fun b : StoreBucket => mergeBucket_strict_iff.2 (hbuckets b)
    let s : Buckets := ⟨records .authorizationCodes, records .accessTokens, records .refreshTokens,
      records .assetGrants, records .pendingSsoStates⟩
    refine ⟨s, loadBytes_ok_iff.2 ⟨text, entries, hdecode, hloads, fun b => ?_⟩⟩
    cases b <;> exact hrecords _
  · rintro ⟨s, hs⟩
    obtain ⟨text, entries, hdecode, hloads, hbuckets⟩ := loadBytes_ok_iff.1 hs
    exact ⟨text, entries, hdecode, hloads, fun b => mergeBucket_strict_iff.1 ⟨_, hbuckets b⟩⟩

theorem IsStore.readsCleanly (h : store.IsStore bytes) : store.ReadsCleanly bytes := by
  obtain ⟨text, entries, hdecode, hloads, -⟩ := h
  exact ⟨text, hdecode, by simp [hloads], by simp [hloads]⟩

/-- What a load of other bytes raises is no load error, in either mode. -/
theorem loadBytes_of_not_readsCleanly (h : ¬store.ReadsCleanly bytes) (strict : Bool) :
    store.loadBytes strict bytes = .error .valueError ∨
      store.loadBytes strict bytes = .error .recursionError := by
  rw [loadBytes]
  cases hdecode : Url.decodeUtf8 bytes with
  | none => exact .inl rfl
  | some text =>
    dsimp only
    rw [parse]
    cases hloads : Json.loads (store.depth + 2) text with
    | ok parsed => exact absurd ⟨text, hdecode, by simp [hloads], by simp [hloads]⟩ h
    | error e =>
      cases e with
      | value => exact absurd ⟨text, hdecode, by simp [hloads], by simp [hloads]⟩ h
      | digits => exact .inl rfl
      | recursion => exact .inr rfl

/-- What clean bytes say, or that they are no JSON. -/
theorem loadBytes_of_readsCleanly (h : store.ReadsCleanly bytes) (strict : Bool) :
    (∃ parsed, store.loadBytes strict bytes = mergeStore parsed strict) ∨
      store.loadBytes strict bytes = if strict then .error .unreadable else .ok .initial := by
  obtain ⟨text, hdecode, hdigits, hrecursion⟩ := h
  rw [loadBytes, hdecode]
  dsimp only
  rw [parse]
  cases hloads : Json.loads (store.depth + 2) text with
  | ok parsed => exact .inl ⟨parsed, rfl⟩
  | error e =>
    cases e with
    | value => exact .inr rfl
    | digits => exact absurd hloads hdigits
    | recursion => exact absurd hloads hrecursion

/-! ## Records -/

/-- The records of a bucket that is merged are those of a known bucket. -/
theorem eq_nil_or_mem_of_mergeBucket {entries records : List (String × Json)} {key : String}
    (h : mergeBucket entries true key = .ok records) :
    records = [] ∨ (key, .dict records) ∈ entries := by
  rw [mergeBucket] at h
  split at h
  · exact .inl (Except.ok.inj h).symm
  · cases h
  · rename_i bucket hlookup
    obtain rfl := Except.ok.inj h
    obtain ⟨before, after, rfl, -⟩ := List.lookup_eq_some_iff.1 hlookup
    exact .inr (by simp)
  · cases h

/-- The records that are loaded can be written. -/
theorem written_of_loadBytes {s : Buckets} (h : store.loadBytes true bytes = .ok s)
    (b : StoreBucket) : ((s.bucket b).map Prod.fst).Nodup ∧
      ∀ e ∈ s.bucket b, Json.Written (fun _ => True) store.depth e.2 := by
  obtain ⟨text, entries, -, hloads, hbuckets⟩ := loadBytes_ok_iff.1 h
  obtain hnil | hmem := eq_nil_or_mem_of_mergeBucket (hbuckets b)
  · rw [hnil]
    exact ⟨List.nodup_nil, fun e he => absurd he List.not_mem_nil⟩
  · have hwritten := (Json.writtenEntries_iff.1 (Json.written_of_loads hloads).2) _ hmem
    exact ⟨hwritten.1, Json.writtenEntries_iff.1 hwritten.2⟩

/-- A text is loaded from its bytes. -/
theorem loadBytes_utf8 (strict : Bool) (text : List Char) :
    store.loadBytes strict (Url.utf8 text) = store.parse strict text := by
  rw [loadBytes, Url.decodeUtf8_utf8]

/-- What is loaded can be written and read back, as long as its floats are. -/
theorem rereads_of_loadBytes {s : Buckets} (h : store.loadBytes true bytes = .ok s)
    (floats : ∀ b, ∀ e ∈ s.bucket b, Json.AllFloats (Json.FloatReread store.repr) e.2) :
    store.Rereads s := fun b =>
  ⟨(written_of_loadBytes h b).1,
    fun e he => .of_allFloats e.2 ((written_of_loadBytes h b).2 e he) (floats b e he)⟩

/-- A state whose records can be written and read back is loaded from what is saved of it. -/
theorem loadBytes_dumps {s : Buckets} (h : store.Rereads s) :
    store.loadBytes true (Url.utf8 (store.dumps s)) = .ok s := by
  have hbucket : ∀ b, Json.Reread store.repr (store.depth + 1) (.dict (s.bucket b)) := fun b =>
    ⟨(h b).1, Json.writtenEntries_iff.2 (h b).2⟩
  have hkeys : ["authorizationCodes", "accessTokens", "refreshTokens", "assetGrants",
      "pendingSsoStates"].Nodup := by decide
  have hstate : Json.Reread store.repr (store.depth + 2) s.toJson :=
    ⟨hkeys, hbucket .authorizationCodes, hbucket .accessTokens, hbucket .refreshTokens,
      hbucket .assetGrants, hbucket .pendingSsoStates, trivial⟩
  rw [loadBytes_utf8, parse, dumps, Json.loads_dumpsIndent_of_reread _ _ hstate]
  rfl

/-- An update whose state can be written and read back. -/
theorem keeps_of_writes {s s' : Buckets} (hload : store.loadBytes true bytes = .ok s)
    (floats : ∀ b, ∀ e ∈ s.bucket b, Json.AllFloats (Json.FloatReread store.repr) e.2)
    (writes : store.Writes s s') :
    store.loadBytes true (Url.utf8 (store.dumps s')) = .ok s' := by
  refine loadBytes_dumps fun b => ⟨(writes b).1, fun e he => ?_⟩
  obtain hold | hnew := (writes b).2 e he
  · exact (rereads_of_loadBytes hload floats b).2 e hold
  · exact hnew

/-! ## Steps in the file system -/

/-- A load, all of whose commands are carried out, is one of the bytes of the file. -/
theorem eval_load_eq_loadBytes {d : Disk} (frame : store.Framed d) {text : List Char}
    (present : d.text store.filePath = some text) (strict : Bool) :
    (eval exec (store.load strict) d).1 = store.loadBytes strict (Url.utf8 text) := by
  rw [eval_load frame, present, loadBytes_utf8]
  rfl

/-- A run of an update, up to some point, leaves the bytes of the file, or those of the update. -/
theorem bytes_of_update {α : Type} {updater : Buckets → Except PyError (α × Buckets)} {d d' : Disk}
    {t : List (Command × Bool)} (frame : store.Framed d) {text : List Char}
    (present : d.text store.filePath = some text) (h : Cut exec (store.update updater) d t d') :
    ∃ text', d'.text store.filePath = some text' ∧
      (text' = text ∨ Url.utf8 text' = (store.updateBytes updater (Url.utf8 text)).2) := by
  rcases cut_update frame h with hensured | ⟨s, a, s', hparse, hupdater, -, -, hnew⟩
  · cases hensured with
    | kept _ _ htext => exact ⟨text, htext.trans present, .inl rfl⟩
    | created _ _ missing _ => cases present.symm.trans missing
    | torn _ _ missing _ => cases present.symm.trans missing
  · rw [present, Option.getD_some] at hparse
    refine ⟨_, hnew, .inr ?_⟩
    rw [updateBytes, loadBytes_utf8, hparse]
    dsimp only
    rw [hupdater]

end JsonStore

/-- Every file that is not a store is left alone by updates, and read as some state, and the
    records of a store are kept, exactly if the bytes of the file read cleanly. -/
theorem protects_iff (store : JsonStore) (bytes : List UInt8)
    (floats : ∀ s, store.loadBytes true bytes = .ok s →
      ∀ b, ∀ e ∈ s.bucket b, Json.AllFloats (Json.FloatReread store.repr) e.2) :
    store.Protects bytes ↔ store.ReadsCleanly bytes := by
  constructor
  · intro protects
    by_contra hclean
    have hstore : ¬store.IsStore bytes := fun h => hclean h.readsCleanly
    -- What is not read cleanly raises on its own, and no update refuses it.
    obtain ⟨e, hupdate, hload⟩ := protects.refuses hstore Unit fun s => .ok ((), s)
    rw [JsonStore.updateBytes] at hupdate
    obtain hraised | hraised := JsonStore.loadBytes_of_not_readsCleanly hclean true
    · rw [hraised] at hupdate
      cases hupdate
      exact hload
    · rw [hraised] at hupdate
      cases hupdate
      exact hload
  · intro hclean
    refine ⟨fun hstore α updater => ?_, fun _ => ?_, fun hstore α updater => ?_⟩
    -- A file that is no store is refused; read leniently it is taken for an empty one; a
    -- store is kept but for what an update writes.
    · cases hload : store.loadBytes true bytes with
      | ok s => exact absurd (JsonStore.isStore_iff.2 ⟨s, hload⟩) hstore
      | error e =>
        refine ⟨e, by rw [JsonStore.updateBytes, hload], ?_⟩
        obtain ⟨parsed, hparsed⟩ | hunreadable := JsonStore.loadBytes_of_readsCleanly hclean true
        · exact JsonStore.mergeStore_error e (hparsed.symm.trans hload)
        · cases hload.symm.trans hunreadable
          exact trivial
    · obtain ⟨parsed, hparsed⟩ | hunreadable := JsonStore.loadBytes_of_readsCleanly hclean false
      · rw [hparsed]
        exact JsonStore.mergeStore_lenient parsed
      · exact ⟨_, hunreadable⟩
    · obtain ⟨s, hload⟩ := JsonStore.isStore_iff.1 hstore
      refine ⟨s, hload, fun e hupdater => ?_, fun a s' hupdater writes => ?_⟩
      · rw [JsonStore.updateBytes, hload]
        dsimp only
        rw [hupdater]
      · refine ⟨_, s', ?_, JsonStore.keeps_of_writes hload (floats s hload) writes, fun _ _ => id⟩
        rw [JsonStore.updateBytes, hload]
        dsimp only
        rw [hupdater]

namespace Sample

open JsonStore

/-- A state with an access token. -/
def savedBuckets : Buckets :=
  { Buckets.initial with accessTokens := [("token", .dict [("clientId", .str "canva")])] }

theorem protects_saved : dataStore.Protects (Url.utf8 (dataStore.dumps savedBuckets)) := by
  have hrecords : ∀ b, ((savedBuckets.bucket b).map Prod.fst).Nodup ∧
      ∀ e ∈ savedBuckets.bucket b, e = ("token", .dict [("clientId", .str "canva")]) := by
    intro b
    cases b <;> simp [savedBuckets, Buckets.initial, Buckets.bucket]
  have hload : dataStore.loadBytes true (Url.utf8 (dataStore.dumps savedBuckets)) =
      .ok savedBuckets := by
    refine loadBytes_dumps fun b => ⟨(hrecords b).1, fun e he => ?_⟩
    rw [(hrecords b).2 e he]
    exact ⟨List.nodup_singleton _, trivial, trivial⟩
  refine (protects_iff dataStore _ fun s hs b e he => ?_).2
    (isStore_iff.2 ⟨_, hload⟩).readsCleanly
  obtain rfl := Except.ok.inj (hload.symm.trans hs)
  rw [(hrecords b).2 e he]
  exact ⟨trivial, trivial⟩

theorem decodeUtf8_byte : Url.decodeUtf8 [0xff] = none := by decide +kernel

/-- A byte that is not UTF-8: updates and lenient reads raise a `UnicodeDecodeError`. -/
theorem undecodable_raises :
    (∀ (α : Type) (updater : Buckets → Except PyError (α × Buckets)),
      dataStore.updateBytes updater [0xff] = (.error .valueError, [0xff])) ∧
    dataStore.loadBytes false [0xff] = .error .valueError ∧
    ¬dataStore.IsStore [0xff] ∧ ¬dataStore.Protects [0xff] := by
  have hload : ∀ strict, dataStore.loadBytes strict [0xff] = .error .valueError := fun strict => by
    rw [loadBytes, decodeUtf8_byte]
  have hstore : ¬dataStore.IsStore [0xff] := fun ⟨_, _, hdecode, _⟩ => by
    cases decodeUtf8_byte.symm.trans hdecode
  refine ⟨fun α updater => by rw [updateBytes, hload], hload false, hstore, fun protects => ?_⟩
  obtain ⟨s, hs⟩ := protects.lenient hstore
  cases (hload false).symm.trans hs

end Sample

end Broker
