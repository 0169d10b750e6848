import Broker.AssetService
import Broker.StoreBytes
import Broker.StoreModes
import Broker.World

/-!
# Crash consistency

Runs of a store that constructs, reads and updates its file, each operation up to its
end or cut at some point. The next strict load finds the state before the operation or
the one after it, unless the first creation of the store file is cut: the file is empty
then (`crash_consistent_iff`).

An update is that of any updater which makes of records that can be written and read
back such records again, as the one of `_create_grant` (`createGrantStateUpdater`).
-/

namespace Broker

open Py Crash Files

/-- An updater that keeps the records of a store readable. -/
structure StateUpdater (store : JsonStore) (α : Type) where
  run : Buckets → Except PyError (α × Buckets)
  rereads : ∀ s a s', store.Rereads s → run s = .ok (a, s') → store.Rereads s'

/-- What is done with a store. -/
inductive StoreOperation (store : JsonStore) (α : Type)
  | construct
  | read
  | update (updater : StateUpdater store α)

/-- The state `s'` is the one after the operation, whose state before was `s`. -/
def StoreOperation.Leads {store : JsonStore} {α : Type} :
    StoreOperation store α → Buckets → Buckets → Prop
  | update updater, s, s' => ∃ a, updater.run s = .ok (a, s')
  | _, s, s' => s' = s

namespace JsonStore

variable (store : JsonStore) {α : Type}

/-- The operation runs up to some point. -/
def Runs (operation : StoreOperation store α) (d : Disk) (t : List (Command × Bool))
    (d' : Disk) : Prop :=
  match operation with
  | .construct => Cut exec store.ensureFile d t d'
  | .read => Cut exec (store.load false) d t d'
  | .update updater => Cut exec (store.update updater.run) d t d'

/-- The disk holds a valid store file, or none. What Python writes for the floats in it is
    read back. -/
structure Sound (d : Disk) : Prop where
  frame : store.Framed d
  valid : ∀ text, d.text store.filePath = some text → ∃ s, store.parse true text = .ok s
  floats : ∀ text s, d.text store.filePath = some text → store.parse true text = .ok s →
    ∀ b, ∀ e ∈ s.bucket b, Json.AllFloats (Json.FloatReread store.repr) e.2

/-- The next strict load finds the state before the operation, or the one after it. -/
def Consistent (operation : StoreOperation store α) (d d' : Disk) : Prop :=
  ∃ s s', store.strictLoad d = .ok s ∧ store.strictLoad d' = .ok s' ∧
    (s' = s ∨ operation.Leads s s')

/-! ## One operation -/

variable {store}

theorem parse_dumps_of_rereads {s : Buckets} (h : store.Rereads s) :
    store.parse true (store.dumps s) = .ok s :=
  (loadBytes_utf8 true _).symm.trans (loadBytes_dumps h)

theorem rereads_initial : store.Rereads .initial := by
  intro b
  cases b <;> exact ⟨List.nodup_nil, fun _ h => absurd h List.not_mem_nil⟩

/-- The state that a sound disk holds. -/
theorem Sound.rereads {d : Disk} (sound : store.Sound d) :
    ∃ s, store.parse true ((d.text store.filePath).getD (store.dumps .initial)) = .ok s ∧
      store.Rereads s := by
  cases htext : d.text store.filePath with
  | none => exact ⟨_, parse_dumps_of_rereads rereads_initial, rereads_initial⟩
  | some text =>
    obtain ⟨s, hs⟩ := sound.valid text htext
    have hload : store.loadBytes true (Url.utf8 text) = .ok s := (loadBytes_utf8 true text).trans hs
    exact ⟨s, hs, rereads_of_loadBytes hload (sound.floats text s htext hs)⟩

/-- A disk with the text of such a state is sound. -/
theorem sound_of_dumps {d : Disk} {s : Buckets} (frame : store.Framed d) (h : store.Rereads s)
    (text : d.text store.filePath = some (store.dumps s)) : store.Sound d where
  frame
  valid t ht := by
    obtain rfl := Option.some.inj (text.symm.trans ht)
    exact ⟨s, parse_dumps_of_rereads h⟩
  floats t s' ht hs' b e he := by
    obtain rfl := Option.some.inj (text.symm.trans ht)
    obtain rfl := Except.ok.inj ((parse_dumps_of_rereads h).symm.trans hs')
    exact Json.Written.allFloats e.2 ((h b).2 e he)

/-- A disk with the same store file is sound. -/
theorem Sound.of_text {d d' : Disk} (sound : store.Sound d) (frame : store.Framed d')
    (text : d'.text store.filePath = d.text store.filePath) : store.Sound d' where
  frame
  valid t ht := sound.valid t (text.symm.trans ht)
  floats t s ht := sound.floats t s (text.symm.trans ht)

/-- An operation that runs up to some point without tearing the store file leaves
    it sound and consistent; if it tears it, it does not. -/
theorem consistent_iff_of_runs {operation : StoreOperation store α} {d d' : Disk}
    {t : List (Command × Bool)} (sound : store.Sound d) (runs : store.Runs operation d t d') :
    (store.Consistent operation d d' ↔ store.torn t = false) ∧
      (store.torn t = false → store.Sound d') := by
  have hinitial := parse_dumps_of_rereads (@rereads_initial store)
  obtain ⟨s, hs, hrereads⟩ := sound.rereads
  have hload := (strictLoad_eq sound.frame).trans hs
  -- A run that leaves the store as it was, or only creates it, is torn if the file is
  -- left empty.
  have hensured : store.Ensured d t d' → (store.Consistent operation d d' ↔ store.torn t = false) ∧
      (store.torn t = false → store.Sound d') := by
    intro h
    cases h with
    | kept frame whole text =>
      have hload' := strictLoad_eq frame
      rw [text, hs] at hload'
      exact ⟨iff_of_true ⟨s, s, hload, hload', .inl rfl⟩ whole, fun _ => sound.of_text frame text⟩
    | created frame whole missing text =>
      rw [missing] at hs
      have hload' := strictLoad_eq frame
      rw [text] at hload'
      exact ⟨iff_of_true ⟨s, s, hload, hload'.trans hs, .inl rfl⟩ whole,
        fun _ => sound_of_dumps frame rereads_initial text⟩
    -- An empty file is no JSON: nobody loads it.
    | torn frame torn missing text =>
      have hload' := strictLoad_eq frame
      rw [text, Option.getD_some, parse_nil] at hload'
      refine ⟨iff_of_false ?_ (by simp [torn]), fun whole => by cases torn.symm.trans whole⟩
      rintro ⟨_, s', -, hs', -⟩
      cases hload'.symm.trans hs'
  cases operation with
  | construct => exact hensured (cut_ensureFile sound.frame runs)
  | read => exact hensured (cut_load sound.frame runs)
  | update updater =>
    rcases cut_update sound.frame runs with h | ⟨s₀, a, s', hparse, hupdater, frame, whole, text⟩
    · exact hensured h
    · obtain rfl := Except.ok.inj (hs.symm.trans hparse)
      -- The update has replaced the file, with text that reads back.
      have hrereads' := updater.rereads s a s' hrereads hupdater
      have hload' := strictLoad_eq frame
      rw [text] at hload'
      exact ⟨iff_of_true ⟨s, s', hload, hload'.trans (parse_dumps_of_rereads hrereads'),
        .inr ⟨a, hupdater⟩⟩ whole, fun _ => sound_of_dumps frame hrereads' text⟩

/-! ## Runs -/

/-- An operation of a run, and how far it ran. -/
structure Episode (store : JsonStore) (α : Type) where
  operation : StoreOperation store α
  before : Disk
  trace : List (Command × Bool)
  after : Disk

/-- A run of operations, each up to its end or cut, on the disk the last one has left. -/
inductive History (store : JsonStore) {α : Type} : Disk → List (store.Episode α) → Prop
  | nil (d : Disk) : History store d []
  | cons {operation : StoreOperation store α} {d d' : Disk} {t : List (Command × Bool)}
    {episodes : List (store.Episode α)} (runs : store.Runs operation d t d')
    (rest : History store d' episodes) : History store d (⟨operation, d, t, d'⟩ :: episodes)

end JsonStore

/-! ## An updater of the broker -/

/-- `record[key]`. -/
def recordItem (record : Json) (key : String) : Except PyError Json :=
  match record with
  | .dict entries => (entries.lookup key).elim (.error .keyError) .ok
  | _ => .error .typeError

/-- `value <= n`. -/
def atMost (value : Json) (n : ℤ) : Except PyError Bool :=
  match value with
  | .bool b => .ok ((if b then 1 else 0) ≤ n)
  | .int m => .ok (m ≤ n)
  | .float (.finite q) => .ok (q ≤ n)
  | .float (.infinite negative) => .ok negative
  | .float .nan => .ok false
  | _ => .error .typeError

/-- `_prune_expired_grants` of the records. -/
def pruneGrantRecords (records : List (String × Json)) (current : ℤ) :
    Except PyError (List (String × Json)) :=
  records.filterM fun entry => do
    let expiresAt ← recordItem entry.2 "expiresAt"
    let expired ← atMost expiresAt current
    return !expired

/-- What a grant is asked for, with the values of a listing. -/
structure GrantOptions where
  pathPrefix : String
  source : Json
  mimeType : Json
  filename : Json

namespace AssetService

variable (service : AssetService) (now : ℕ → ℤ) (rand : Rand) (session : Session)
  (options : GrantOptions)

/-- The time at which the grant expires. -/
def grantExpiry : ℤ := now 1 + service.config.oauth.signedUrlTtlSeconds * 1000

/-- The record of a grant. -/
def grantRecord : Json :=
  .dict [("grantId", .str (randomToken "grant" (rand.token 0))), ("userId", .str session.user.id),
    ("tenantId", .str session.tenant.id), ("expiresAt", .int (service.grantExpiry now)),
    ("source", options.source),
    ("integration", (brokerIntegrationFromSession session).elim .null .str),
    ("mimeType", options.mimeType), ("filename", options.filename)]

/-- The updater of `_create_grant`, on the JSON of the state. -/
def createGrantJson (state : Buckets) : Except PyError (GrantResponse × Buckets) := do
  let kept ← pruneGrantRecords state.assetGrants (now 0)
  let grantId := randomToken "grant" (rand.token 0)
  let expiresAt := service.grantExpiry now
  let signature := createSignature grantId expiresAt service.config.signing.assetSecret
  let query := Url.urlencode [("expires", toString expiresAt), ("sig", signature)]
  let expires ← isoFromMs expiresAt
  return ({ grantId
            url := service.config.baseUrl ++ options.pathPrefix ++ "/" ++ grantId ++ "?" ++
              String.ofList query
            expiresAt := expires },
    { state with
      assetGrants := Json.ofPairs (kept ++ [(grantId, service.grantRecord now rand session options)]) })

/-- The updater keeps the records readable, if the record of the grant is. -/
def createGrantStateUpdater (store : JsonStore)
    (rereads : Json.Reread store.repr store.depth (service.grantRecord now rand session options)) :
    StateUpdater store GrantResponse where
  run := service.createGrantJson now rand session options
  rereads s a s' hs h := by
    obtain ⟨kept, hkept, h⟩ := exists_ok_of_bind h
    obtain ⟨expires, -, h⟩ := exists_ok_of_bind h
    cases h
    intro b
    cases b with
    | assetGrants =>
      refine ⟨Json.nodup_ofPairs _, fun e he => ?_⟩
      rcases List.mem_append.1 (Json.ofPairs_subset e he) with hold | hnew
      · exact (hs .assetGrants).2 e (subset_of_filterM hkept hold)
      · obtain rfl := List.mem_singleton.1 hnew
        exact rereads
    | authorizationCodes => exact hs .authorizationCodes
    | accessTokens => exact hs .accessTokens
    | refreshTokens => exact hs .refreshTokens
    | pendingSsoStates => exact hs .pendingSsoStates

end AssetService

/-- A store is consistent under crashes as long as no run tears the store file,
    between its creation and the writing of the initial state. -/
theorem crash_consistent_iff (store : JsonStore) {α : Type} {d : Disk} (sound : store.Sound d)
    (episodes : List (store.Episode α)) (history : store.History d episodes) :
    (∀ e ∈ episodes, store.Consistent e.operation e.before e.after) ↔
      ∀ e ∈ episodes, store.torn e.trace = false := by
  induction history with
  | nil d => simp
  | cons runs rest ih =>
    obtain ⟨hiff, hsound⟩ := JsonStore.consistent_iff_of_runs sound runs
    rw [List.forall_mem_cons, List.forall_mem_cons]
    constructor
    · rintro ⟨hconsistent, hrest⟩
      have hwhole := hiff.1 hconsistent
      exact ⟨hwhole, (ih (hsound hwhole)).1 hrest⟩
    · rintro ⟨hwhole, hrest⟩
      exact ⟨hiff.2 hwhole, (ih (hsound hwhole)).2 hrest⟩

namespace JsonStore

/-- A store file that is there is not torn. -/
theorem whole_of_present {store : JsonStore} {α : Type} {operation : StoreOperation store α}
    {d d' : Disk} {t : List (Command × Bool)} {text : List Char} (frame : store.Framed d)
    (present : d.text store.filePath = some text) (runs : store.Runs operation d t d') :
    store.torn t = false := by
  have hensured : store.Ensured d t d' → store.torn t = false := by
    intro h
    cases h with
    | kept _ whole _ => exact whole
    | created _ whole _ _ => exact whole
    | torn _ _ missing _ => cases present.symm.trans missing
  cases operation with
  | construct => exact hensured (cut_ensureFile frame runs)
  | read => exact hensured (cut_load frame runs)
  | update updater =>
    rcases cut_update frame runs with h | ⟨_, _, _, _, _, _, whole, _⟩
    · exact hensured h
    · exact whole

/-- A disk with a store file of this text, and this temporary file. -/
def savedDisk (text : List Char) (tmp : Option File) : Disk :=
  ((emptyDisk.setDir [".data"] 0o700).setFile dataStore.tmpPath tmp).setFile dataStore.filePath
    (some ⟨text, 0o600⟩)

theorem setTmp_savedDisk (text : List Char) (tmp tmp' : Option File) :
    (savedDisk text tmp).setFile dataStore.tmpPath tmp' = savedDisk text tmp' := by
  rw [savedDisk, Disk.setFile_comm _ dataStore.tmpPath_ne, Disk.setFile_setFile,
    Disk.setFile_comm _ dataStore.tmpPath_ne.symm]
  rfl

theorem text_savedDisk (text : List Char) (tmp : Option File) :
    (savedDisk text tmp).text dataStore.filePath = some text := Disk.text_setFile_self _ _ _

theorem framed_savedDisk (text : List Char) (tmp : Option File) :
    dataStore.Framed (savedDisk text tmp) := by
  refine ⟨?_, ?_⟩
  · rw [savedDisk, Disk.files_setFile_of_ne _ (by decide), Disk.files_setFile_of_ne _ (by decide)]
    rfl
  · rw [savedDisk, Disk.dirs_setFile, Disk.dirs_setFile, Disk.dirs_setDir_of_ne _ (by decide)]
    rfl

section

variable {text : List Char} {tmp : Option File} {s s' : Buckets}

/-- On such a disk, `_ensure_file` changes nothing. -/
theorem takes_ensureFile : Takes exec dataStore.ensureFile (savedDisk text tmp) ensured (.pure ())
    (savedDisk text tmp) := by
  have hmkdir : exec (.mkdir [".data"] 0o700) (savedDisk text tmp) =
      some ((), savedDisk text tmp) := rfl
  have hexist : exec (.exist dataStore.filePath) (savedDisk text tmp) =
      some (true, savedDisk text tmp) := rfl
  have hisFile : exec (.isDir dataStore.filePath) (savedDisk text tmp) =
      some (false, savedDisk text tmp) := rfl
  have hfile : exec (.chmod dataStore.filePath 0o600) (savedDisk text tmp) =
      some ((), savedDisk text tmp) := by
    rw [exec, savedDisk, Disk.files_setFile_self]
    dsimp only
    rw [Disk.setFile_setFile]
  have hisDir : exec (.isDir [".data"]) (savedDisk text tmp) = some (true, savedDisk text tmp) := rfl
  have hdir : exec (.chmod [".data"] 0o700) (savedDisk text tmp) =
      some ((), savedDisk text tmp) := by
    change some ((), (savedDisk text tmp).setDir [".data"] 0o700) = _
    rw [savedDisk, Disk.setDir_setFile, Disk.setDir_setFile, Disk.setDir_setDir]
  exact .done hmkdir (.done hexist (.done hisFile (.done hfile (.done hisDir (.done hdir (.nil _ _))))))

/-- The commands of `_save` before the temporary file replaces the store file. -/
def writing (s : Buckets) : List (Command × Bool) :=
  ensured ++ [(.create dataStore.tmpPath, true), (.write dataStore.tmpPath (dataStore.dumps s), true),
    (.isDir dataStore.tmpPath, true), (.chmod dataStore.tmpPath 0o600, true)]

theorem takes_writing (s' : Buckets) :
    Takes exec (dataStore.save s') (savedDisk text tmp) (writing s')
      (issue (.replace dataStore.tmpPath dataStore.filePath))
      (savedDisk text (some ⟨dataStore.dumps s', 0o600⟩)) := by
  obtain ⟨mode, hcreate⟩ : ∃ mode, exec (.create dataStore.tmpPath) (savedDisk text tmp) =
      some ((), savedDisk text (some ⟨[], mode⟩)) :=
    ⟨_, congrArg (fun d => some ((), d)) (setTmp_savedDisk text tmp _)⟩
  have hfiles : ∀ file, (savedDisk text (some file)).files dataStore.tmpPath = some file := fun file => by
    rw [← setTmp_savedDisk text none, Disk.files_setFile_self]
  have hwrite : exec (.write dataStore.tmpPath (dataStore.dumps s')) (savedDisk text (some ⟨[], mode⟩)) =
      some ((), savedDisk text (some ⟨dataStore.dumps s', mode⟩)) := by
    rw [exec, hfiles, Option.map_some, setTmp_savedDisk]
  have hisFile : exec (.isDir dataStore.tmpPath) (savedDisk text (some ⟨dataStore.dumps s', mode⟩)) =
      some (false, savedDisk text (some ⟨dataStore.dumps s', mode⟩)) := rfl
  have hchmod : exec (.chmod dataStore.tmpPath 0o600)
      (savedDisk text (some ⟨dataStore.dumps s', mode⟩)) =
      some ((), savedDisk text (some ⟨dataStore.dumps s', 0o600⟩)) := by
    rw [exec, hfiles]
    dsimp only
    rw [setTmp_savedDisk]
  exact takes_ensureFile.bind
    (.done hcreate (.done hwrite (.done hisFile (.done hchmod (.nil _ _)))))

theorem takes_replace (s' : Buckets) :
    Takes exec (issue (.replace dataStore.tmpPath dataStore.filePath))
      (savedDisk text (some ⟨dataStore.dumps s', 0o600⟩))
      [(.replace dataStore.tmpPath dataStore.filePath, true)] (.pure ())
      (savedDisk (dataStore.dumps s') none) := by
  have hfiles : (savedDisk text (some ⟨dataStore.dumps s', 0o600⟩)).files dataStore.tmpPath =
      some ⟨dataStore.dumps s', 0o600⟩ := by
    rw [← setTmp_savedDisk text none, Disk.files_setFile_self]
  have hdir : (savedDisk text (some ⟨dataStore.dumps s', 0o600⟩)).dirs dataStore.filePath = none :=
    (framed_savedDisk text _).file
  have hreplace : exec (.replace dataStore.tmpPath dataStore.filePath)
      (savedDisk text (some ⟨dataStore.dumps s', 0o600⟩)) =
      some ((), savedDisk (dataStore.dumps s') none) := by
    rw [exec, hdir, hfiles, Option.map_some, setTmp_savedDisk, savedDisk, Disk.setFile_setFile]
    rfl
  exact .done hreplace (.nil _ _)

/-- The commands of `_load`. -/
def loading : List (Command × Bool) := ensured ++ [(.read dataStore.filePath, true)]

theorem takes_loading (h : dataStore.parse true text = .ok s) :
    Takes exec (dataStore.load true) (savedDisk text tmp) loading (.pure s) (savedDisk text tmp) := by
  have hdone : exec (.read dataStore.filePath) (savedDisk text tmp) = some (text, savedDisk text tmp) := by
    rw [exec, text_savedDisk, Option.map_some]
  refine takes_ensureFile.bind (.done hdone ?_)
  rw [Option.elim_some, h]
  exact .nil _ _

variable {α : Type} {updater : StateUpdater dataStore α} {a : α}

variable (tmp) in
/-- An update that is cut before it replaces the store file. -/
theorem runs_cut (load : dataStore.parse true text = .ok s) (run : updater.run s = .ok (a, s')) :
    dataStore.Runs (.update updater) (savedDisk text tmp) (loading ++ writing s')
      (savedDisk text (some ⟨dataStore.dumps s', 0o600⟩)) := by
  refine ⟨issue (.replace dataStore.tmpPath dataStore.filePath) >>= fun _ => .pure a,
    (takes_loading load).bind ?_⟩
  rw [run]
  exact (takes_writing s').within _

variable (tmp) in
/-- An update that runs to its end. -/
theorem runs_update (load : dataStore.parse true text = .ok s) (run : updater.run s = .ok (a, s')) :
    dataStore.Runs (.update updater) (savedDisk text tmp)
      (loading ++ (writing s' ++ [(.replace dataStore.tmpPath dataStore.filePath, true)]))
      (savedDisk (dataStore.dumps s') none) := by
  refine ⟨.pure a, (takes_loading load).bind ?_⟩
  rw [run]
  exact ((takes_writing s').trans (takes_replace s')).within _

end

end JsonStore

namespace Sample

open JsonStore

def grantOptions : GrantOptions where
  pathPrefix := AssetService.previewPath
  source := .dict [("kind", .str "proxy"), ("url", .str "https://dam.example/preview.jpg")]
  mimeType := .str "image/jpeg"
  filename := .str "meadow.jpg"

/-- The record of the grant. -/
def grantJson : Json :=
  AssetService.grantRecord ⟨config⟩ (fun _ => 1000) ⟨fun _ => "a", fun _ => 0⟩ session grantOptions

theorem rereads_grantJson : Json.Reread dataStore.repr dataStore.depth grantJson := by
  refine ⟨by decide, trivial, trivial, trivial, ?_, ⟨by decide, trivial, trivial, trivial⟩, trivial,
    trivial, trivial, trivial⟩
  change (Nat.toDigits 10 301000).length ≤ intMaxStrDigits
  decide

/-- The update that creates the grant. -/
def grantUpdate : StateUpdater dataStore GrantResponse :=
  AssetService.createGrantStateUpdater ⟨config⟩ (fun _ => 1000) ⟨fun _ => "a", fun _ => 0⟩ session
    grantOptions dataStore rereads_grantJson

/-- The state with the grant. -/
def grantedBuckets : Buckets := { Buckets.initial with assetGrants := [("grant_a", grantJson)] }

theorem run_grantUpdate : ∃ response, grantUpdate.run .initial = .ok (response, grantedBuckets) := by
  have hexpires : (isoFromMs 301000).toOption.isSome = true := by decide +kernel
  cases hiso : isoFromMs 301000 with
  | error e =>
    rw [hiso] at hexpires
    cases hexpires
  | ok expires =>
    have hexpiry : AssetService.grantExpiry ⟨config⟩ (fun _ => 1000) = 301000 := rfl
    have hupdate : grantUpdate.run = AssetService.createGrantJson ⟨config⟩ (fun _ => 1000)
      ⟨fun _ => "a", fun _ => 0⟩ session grantOptions := rfl
    rw [hupdate, AssetService.createGrantJson, hexpiry]
    dsimp only
    rw [hiso]
    exact ⟨_, rfl⟩

end Sample

/-- An update that creates a grant, cut before the new text is in place, and then run to its end. -/
theorem crash_consistent_grant :
    JsonStore.dataStore.Consistent (.update Sample.grantUpdate)
        (JsonStore.savedDisk (JsonStore.dataStore.dumps .initial) none)
        (JsonStore.savedDisk (JsonStore.dataStore.dumps .initial)
          (some ⟨JsonStore.dataStore.dumps Sample.grantedBuckets, 0o600⟩)) ∧
      JsonStore.dataStore.Consistent (.update Sample.grantUpdate)
        (JsonStore.savedDisk (JsonStore.dataStore.dumps .initial)
          (some ⟨JsonStore.dataStore.dumps Sample.grantedBuckets, 0o600⟩))
        (JsonStore.savedDisk (JsonStore.dataStore.dumps Sample.grantedBuckets) none) ∧
      JsonStore.dataStore.strictLoad
        (JsonStore.savedDisk (JsonStore.dataStore.dumps Sample.grantedBuckets) none) =
          .ok Sample.grantedBuckets := by
  obtain ⟨response, hrun⟩ := Sample.run_grantUpdate
  have hinitial := JsonStore.parse_dumps_of_rereads (@JsonStore.rereads_initial JsonStore.dataStore)
  have hsound : JsonStore.dataStore.Sound
      (JsonStore.savedDisk (JsonStore.dataStore.dumps .initial) none) :=
    JsonStore.sound_of_dumps (JsonStore.framed_savedDisk _ _) JsonStore.rereads_initial
      (JsonStore.text_savedDisk _ _)
  have hcut := JsonStore.runs_cut none hinitial hrun
  have hupdate := JsonStore.runs_update
    (some ⟨JsonStore.dataStore.dumps Sample.grantedBuckets, 0o600⟩) hinitial hrun
  have hconsistent := (crash_consistent_iff JsonStore.dataStore hsound _
    (.cons hcut (.cons hupdate (.nil _)))).2
  simp only [List.forall_mem_cons, List.not_mem_nil, false_implies, implies_true, and_true]
    at hconsistent
  obtain ⟨hfirst, hsecond⟩ := hconsistent
    ⟨JsonStore.whole_of_present (JsonStore.framed_savedDisk _ _) (JsonStore.text_savedDisk _ _) hcut,
      JsonStore.whole_of_present (JsonStore.framed_savedDisk _ _) (JsonStore.text_savedDisk _ _) hupdate⟩
  refine ⟨hfirst, hsecond, ?_⟩
  have hrereads := Sample.grantUpdate.rereads _ _ _ JsonStore.rereads_initial hrun
  rw [JsonStore.strictLoad_eq (JsonStore.framed_savedDisk _ _), JsonStore.text_savedDisk, Option.getD_some]
  exact JsonStore.parse_dumps_of_rereads hrereads

namespace JsonStore

/-- The disk on which the store file has been created. -/
def createdDisk : Disk :=
  (emptyDisk.setDir [".data"] 0o700).setFile dataStore.filePath (some ⟨[], 0o644⟩)

/-- The first construction, up to the creation of the store file. -/
def creation : List (Command × Bool) :=
  [(.mkdir [".data"] 0o700, true), (.exist dataStore.filePath, true),
    (.create dataStore.filePath, true)]

theorem sound_emptyDisk (store : JsonStore) : store.Sound emptyDisk :=
  ⟨⟨rfl, rfl⟩, fun _ h => (by cases h), fun _ _ h => by cases h⟩

theorem runs_creation : dataStore.Runs (.construct : StoreOperation dataStore Unit) emptyDisk creation
    createdDisk :=
  ⟨_, .done rfl (.done rfl (.done rfl (.nil _ _)))⟩

theorem framed_createdDisk : dataStore.Framed createdDisk := by
  refine ⟨?_, ?_⟩
  · rw [createdDisk, Disk.files_setFile_of_ne _ (by decide)]
    rfl
  · rw [createdDisk, Disk.dirs_setFile, Disk.dirs_setDir_of_ne _ (by decide)]
    rfl

end JsonStore

/-- Cut after the creation of the store file, the first construction leaves a
    file that does not load. -/
theorem creation_torn :
    JsonStore.dataStore.Sound JsonStore.emptyDisk ∧
      JsonStore.dataStore.Runs (.construct : StoreOperation JsonStore.dataStore Unit) JsonStore.emptyDisk
        JsonStore.creation JsonStore.createdDisk ∧
      JsonStore.dataStore.strictLoad JsonStore.createdDisk = .error .unreadable ∧
      ¬ JsonStore.dataStore.Consistent (.construct : StoreOperation JsonStore.dataStore Unit) JsonStore.emptyDisk
        JsonStore.createdDisk := by
  have hload : JsonStore.dataStore.strictLoad JsonStore.createdDisk = .error .unreadable := by
    rw [JsonStore.strictLoad_eq JsonStore.framed_createdDisk, JsonStore.createdDisk,
      Disk.text_setFile_self, Option.getD_some, JsonStore.parse_nil]
  refine ⟨JsonStore.sound_emptyDisk _, JsonStore.runs_creation, hload, ?_⟩
  rintro ⟨_, s', -, hs', -⟩
  cases hload.symm.trans hs'

end Broker
