import Broker.JsonStore

/-!
# Modes of the store files

Who may read the files of a store, between any two steps in the file system. The
temporary file is written before it is restricted: the records are in a file of the mode that
the `umask` gives until then (`record_exposed`). They are private all along as long as the
temporary file is opened with the right mode, as one that is there or as a new one
(`records_private`).
-/

namespace Broker

open Py Crash Files

/-! ## Texts without records -/

/-- What is written for an object is longer if it has entries. -/
theorem length_dumpsIndent_dict (repr : Json → String) (indent column : ℕ)
    (entries : List (String × Json)) :
    2 ≤ ((Json.dict entries).dumpsIndent repr indent column).length ∧
      (((Json.dict entries).dumpsIndent repr indent column).length = 2 → entries = []) := by
  cases entries with
  | nil => simp [Json.dumpsIndent]
  | cons entry entries =>
    simp only [Json.dumpsIndent, Json.newline, List.length_cons, List.length_append]
    constructor
    · omega
    · intro h
      omega

namespace JsonStore

variable (store : JsonStore)

/-- The text is one of a state with a record. -/
def HasRecord (text : List Char) : Prop := ∃ state ≠ Buckets.initial, text = store.dumps state

variable {store}

theorem dumps_ne_nil (state : Buckets) : store.dumps state ≠ [] := by
  simp [dumps, Buckets.toJson, Json.dumpsIndent]

theorem not_hasRecord_nil : ¬store.HasRecord [] := by
  rintro ⟨state, -, htext⟩
  exact dumps_ne_nil state htext.symm

/-- The text of the initial state is the shortest one. -/
theorem not_hasRecord_initial : ¬store.HasRecord (store.dumps .initial) := by
  rintro ⟨⟨b₁, b₂, b₃, b₄, b₅⟩, hne, htext⟩
  have h₁ := length_dumpsIndent_dict store.repr 2 2 b₁
  have h₂ := length_dumpsIndent_dict store.repr 2 2 b₂
  have h₃ := length_dumpsIndent_dict store.repr 2 2 b₃
  have h₄ := length_dumpsIndent_dict store.repr 2 2 b₄
  have h₅ := length_dumpsIndent_dict store.repr 2 2 b₅
  have hlength := congrArg List.length htext
  simp only [dumps, Buckets.toJson, Buckets.initial, Json.dumpsIndent, Json.indentEntries,
    Json.newline, Nat.zero_add, List.length_cons, List.length_append, List.length_nil] at hlength
  refine hne ?_
  rw [h₁.2 (by omega), h₂.2 (by omega), h₃.2 (by omega), h₄.2 (by omega), h₅.2 (by omega)]
  rfl

/-! ## Private records -/

variable (store) in
/-- The files of the store, and the temporary one, whose text has a record are for the user only. -/
def Private (d : Disk) : Prop :=
  ∀ path, path = store.filePath ∨ path = store.tmpPath → ∀ file, d.files path = some file →
    store.HasRecord file.text → file.mode = 0o600

variable (store) in
/-- The mode that the temporary file gets when it is opened. -/
def openedMode (created : ℕ) (d : Disk) : ℕ := ((d.files store.tmpPath).map File.mode).getD created

/-- Private records on a well-formed disk, on which the temporary file is opened with the right mode
    provided that `opens`. -/
structure Guarded (store : JsonStore) (created : ℕ) (opens : Prop) (d : Disk) : Prop where
  wellFormed : d.WellFormed
  isPrivate : store.Private d
  opened : opens → store.openedMode created d = 0o600

/-- A command that writes a record to the temporary file only provided that `opens`. -/
def Allowed (store : JsonStore) (opens : Prop) (c : Command) : Prop :=
  ∀ text, c = .write store.tmpPath text → store.HasRecord text → opens

section Commands

variable {created : ℕ} {opens : Prop} {d d' : Disk} {path : Path}

theorem Private.setFile (h : store.Private d) {file : Option File}
    (hfile : ∀ f, file = some f → store.HasRecord f.text → f.mode = 0o600) :
    store.Private (d.setFile path file) := by
  intro q hq f hf hrecord
  by_cases hpath : q = path
  · subst hpath
    rw [Disk.files_setFile_self] at hf
    exact hfile f hf hrecord
  · rw [Disk.files_setFile_of_ne d hpath] at hf
    exact h q hq f hf hrecord

/-- Nothing is said of the temporary file any more. -/
theorem Guarded.weaken (h : store.Guarded created opens d) : store.Guarded created False d :=
  ⟨h.wellFormed, h.isPrivate, False.elim⟩

theorem openedMode_setFile_of_ne (h : path ≠ store.tmpPath) (file : Option File) :
    store.openedMode created (d.setFile path file) = store.openedMode created d := by
  rw [openedMode, Disk.files_setFile_of_ne d h.symm, openedMode]

theorem openedMode_setTmp (file : File) :
    store.openedMode created (d.setFile store.tmpPath (some file)) = file.mode := by
  rw [openedMode, Disk.files_setFile_self, Option.map_some, Option.getD_some]

theorem Guarded.setDir (h : store.Guarded created opens d) (free : d.files path = none) (mode : ℕ) :
    store.Guarded created opens (d.setDir path mode) :=
  ⟨h.wellFormed.setDir free mode, h.isPrivate, h.opened⟩

/-- A file gets another text or another mode. -/
theorem Guarded.setFile (h : store.Guarded created opens d) {file : File}
    (free : d.dirs path = none) (hfile : store.HasRecord file.text → file.mode = 0o600)
    (hopens : opens → path = store.tmpPath → file.mode = 0o600) :
    store.Guarded created opens (d.setFile path (some file)) where
  wellFormed := h.wellFormed.setFile (.inr free)
  isPrivate := h.isPrivate.setFile fun f hf => by
    obtain rfl := Option.some.inj hf
    exact hfile
  opened := by
    intro ho
    by_cases hpath : path = store.tmpPath
    · subst hpath
      rw [openedMode_setTmp]
      exact hopens ho rfl
    · rw [openedMode_setFile_of_ne hpath]
      exact h.opened ho

end Commands

/-! ## Operations -/

section Programs

variable {created : ℕ} {opens : Prop}

/-- A run of the program keeps the records private, and the temporary file opens as it did. -/
def Keeps (store : JsonStore) (created : ℕ) (opens : Prop) {α : Type} (prog : Program StoreError α) :
    Prop :=
  Reaches (execAs created) (store.Allowed opens) (store.Guarded created opens)
    (store.Guarded created opens) prog

theorem Keeps.bind {α β : Type} {prog : Program StoreError α} {f : α → Program StoreError β}
    (h : store.Keeps created opens prog) (hf : ∀ a, store.Keeps created opens (f a)) :
    store.Keeps created opens (prog >>= f) :=
  Reaches.bind h hf fun _ => id

theorem keeps_ofExcept {α : Type} (r : Except StoreError α) : store.Keeps created opens (.ofExcept r) :=
  reaches_ofExcept r fun _ => id

theorem keeps_issue {c : Command}
    (done : ∀ d reply d', store.Allowed opens c → store.Guarded created opens d →
      execAs created c d = some (reply, d') → store.Guarded created opens d') :
    store.Keeps created opens (issue c) :=
  Reaches.perform (fun _ => id) done

theorem keeps_mkdir (path : Path) (mode : ℕ) : store.Keeps created opens (issue (.mkdir path mode)) := by
  refine keeps_issue fun d reply d' _ hd hdone => ?_
  rw [execAs, exec] at hdone
  · split_ifs at hdone with hfile hdir
    · cases hdone
      exact hd
    · cases hdone
      exact hd.setDir (Option.not_isSome_iff_eq_none.1 hfile) mode
  · simp

/-- A text without records may be written to the store file, and any to the temporary file. -/
theorem keeps_writeText {path : Path} {text : List Char}
    (h : path = store.filePath ∧ ¬store.HasRecord text ∨ path = store.tmpPath) :
    store.Keeps created opens (writeText path text) := by
  refine Keeps.bind (keeps_issue fun d reply d' _ hd hdone => ?_) fun _ =>
    keeps_issue fun d reply d' hallowed hd hdone => ?_
  · rw [execAs] at hdone
    split_ifs at hdone with hdir
    cases hdone
    rw [Bool.or_eq_true, not_or] at hdir
    refine hd.setFile (Option.not_isSome_iff_eq_none.1 hdir.1)
      (fun hrecord => absurd hrecord not_hasRecord_nil) fun ho hpath => ?_
    subst hpath
    exact hd.opened ho
  · obtain ⟨file, hfile, hdone⟩ := Option.map_eq_some_iff.1 hdone
    cases hdone
    have hopened : opens → path = store.tmpPath → file.mode = 0o600 := by
      rintro ho rfl
      have hmode := hd.opened ho
      rwa [openedMode, hfile] at hmode
    refine hd.setFile (hd.wellFormed.dirs_of_files hfile) (fun hrecord => ?_) hopened
    rcases h with ⟨-, hblank⟩ | rfl
    · exact absurd hrecord hblank
    · exact hopened (hallowed text rfl hrecord) rfl

theorem keeps_restrictPerms (path : Path) (fatal : Bool) :
    store.Keeps created opens (restrictPerms path fatal) := by
  have hrefused : store.Keeps created opens
      (if fatal then .raise .runtimeError else .pure () : Program StoreError Unit) := by
    cases fatal
    · exact keeps_ofExcept (.ok ())
    · exact keeps_ofExcept (.error .runtimeError)
  refine Reaches.command (fun _ => id) (fun dir => ?_) hrefused
  -- The mode is chosen by the reply, which tells files from directories.
  have hreply : ∀ d', (∃ d, store.Allowed opens (.isDir path) ∧ store.Guarded created opens d ∧
      execAs created (.isDir path) d = some (dir, d')) →
      store.Guarded created opens d' ∧ dir = (d'.dirs path).isSome := by
    rintro d' ⟨d, -, hd, hdone⟩
    cases hdone
    exact ⟨hd, rfl⟩
  refine Reaches.command (fun d' h => (hreply d' h).1) (fun reply => ?_) fun d t p d' takes hallowed h =>
    hrefused d t p d' takes hallowed (hreply d h).1
  refine reaches_ofExcept (.ok ()) fun d' h => ?_
  obtain ⟨d, -, hd, hdone⟩ := h
  obtain ⟨hguarded, rfl⟩ := hreply d hd
  rcases exec_chmod hdone with ⟨file, hfile, rfl⟩ | ⟨hdir, rfl⟩
  · have hfree := hguarded.wellFormed.dirs_of_files hfile
    rw [hfree]
    exact hguarded.setFile hfree (fun _ => rfl) fun _ _ => rfl
  · rcases hguarded.wellFormed path with hfree | hfree
    · exact hguarded.setDir hfree _
    · rw [hfree] at hdir
      cases hdir

theorem keeps_ensureFile : store.Keeps created opens store.ensureFile := by
  refine (keeps_mkdir _ _).bind fun _ => .bind ?_ fun present => .bind ?_ fun _ =>
    (keeps_restrictPerms _ _).bind fun _ => keeps_restrictPerms _ _
  · refine keeps_issue fun d reply d' _ hd hdone => ?_
    cases hdone
    exact hd
  · cases present with
    | true => exact keeps_ofExcept (.ok ())
    | false => exact keeps_writeText (.inl ⟨rfl, not_hasRecord_initial⟩)

theorem keeps_load (strict : Bool) : store.Keeps created opens (store.load strict) := by
  refine keeps_ensureFile.bind fun _ => Reaches.command (fun _ => id) (fun text => ?_) ?_
  · refine reaches_ofExcept _ fun d' h => ?_
    obtain ⟨d, -, hd, hdone⟩ := h
    obtain ⟨_, -, hdone⟩ := Option.map_eq_some_iff.1 hdone
    cases hdone
    exact hd
  · exact keeps_ofExcept _

/-- The temporary file is private when it replaces the store file. -/
theorem reaches_save (state : Buckets) :
    Reaches (execAs created) (store.Allowed opens) (store.Guarded created opens)
      (store.Guarded created False) (store.save state) := by
  have hkeeps : store.Keeps created opens (writeText store.tmpPath (store.dumps state)) :=
    keeps_writeText (.inr rfl)
  refine .bind keeps_ensureFile (fun _ => .bind hkeeps (fun _ => .bind (keeps_restrictPerms _ _)
    (fun _ => .perform (fun _ => Guarded.weaken) fun d reply d' _ hd hdone => ?_)
    fun _ => Guarded.weaken) fun _ => Guarded.weaken) fun _ => Guarded.weaken
  rw [execAs, exec] at hdone
  · split_ifs at hdone with hdir
    obtain ⟨file, hfile, hdone⟩ := Option.map_eq_some_iff.1 hdone
    cases hdone
    have hmoved := hd.weaken
    refine ⟨(hmoved.wellFormed.setFile (.inl rfl)).setFile (.inr ?_),
      (hmoved.isPrivate.setFile fun f hf => by cases hf).setFile fun f hf => ?_, False.elim⟩
    · exact Option.not_isSome_iff_eq_none.1 hdir
    · obtain rfl := Option.some.inj hf
      exact hmoved.isPrivate _ (.inr rfl) _ hfile
  · simp

theorem reaches_update {α : Type} (updater : Buckets → Except PyError (α × Buckets)) :
    Reaches (execAs created) (store.Allowed opens) (store.Guarded created opens)
      (store.Guarded created False) (store.update updater) := by
  refine .bind (keeps_load true) (fun state => ?_) fun _ => Guarded.weaken
  cases hupdater : updater state with
  | error e => exact reaches_ofExcept (.error (StoreError.raised e)) fun _ => Guarded.weaken
  | ok r => exact .bind (reaches_save r.2) (fun _ => reaches_ofExcept (.ok r.1) fun _ => id) fun _ => id

end Programs

/-! ## Runs -/

/-- An operation of a store, with any updater. -/
inductive Call (α : Type)
  | construct
  | read
  | update (updater : Buckets → Except PyError (α × Buckets))

variable (store) in
/-- The call runs up to some point, where new files are created with a mode. -/
def RunsCall {α : Type} (created : ℕ) (call : Call α) (d : Disk) (t : List (Command × Bool))
    (d' : Disk) : Prop :=
  match call with
  | .construct => Cut (execAs created) store.ensureFile d t d'
  | .read => Cut (execAs created) (store.load false) d t d'
  | .update updater => Cut (execAs created) (store.update updater) d t d'

theorem guarded_of_runsCall {α : Type} {created : ℕ} {opens : Prop} {call : Call α} {d d' : Disk}
    {t : List (Command × Bool)} (hd : store.Guarded created opens d)
    (hallowed : ∀ c, (c, true) ∈ t → store.Allowed opens c)
    (runs : store.RunsCall created call d t d') : store.Guarded created False d' := by
  cases call with
  | construct =>
    obtain ⟨_, takes⟩ := runs
    exact (keeps_ensureFile _ _ _ _ takes hallowed hd).weaken
  | read =>
    obtain ⟨_, takes⟩ := runs
    exact (keeps_load false _ _ _ _ takes hallowed hd).weaken
  | update updater =>
    obtain ⟨_, takes⟩ := runs
    exact reaches_update updater _ _ _ _ takes hallowed hd

/-- A call of a run, the mode of the files created in it, and how far it ran. -/
structure CallRun (α : Type) where
  call : Call α
  created : ℕ
  before : Disk
  trace : List (Command × Bool)
  after : Disk

/-- A run of calls, each up to its end or cut, on the disk the last one has left. -/
inductive CallHistory (store : JsonStore) {α : Type} : Disk → List (CallRun α) → Prop
  | nil (d : Disk) : CallHistory store d []
  | cons {call : Call α} {created : ℕ} {d d' : Disk} {t : List (Command × Bool)}
    {runs : List (CallRun α)} (run : store.RunsCall created call d t d')
    (rest : CallHistory store d' runs) : CallHistory store d (⟨call, created, d, t, d'⟩ :: runs)

variable (store) in
/-- If the call gets as far as writing a record to the temporary file, it opens it with the right
    mode. -/
def OpensPrivately {α : Type} (run : CallRun α) : Prop :=
  ∀ text, (.write store.tmpPath text, true) ∈ run.trace → store.HasRecord text →
    store.openedMode run.created run.before = 0o600

theorem OpensPrivately.allowed {α : Type} {run : CallRun α} (h : store.OpensPrivately run) {c : Command}
    (hc : (c, true) ∈ run.trace) :
    store.Allowed (store.openedMode run.created run.before = 0o600) c := by
  rintro text rfl hrecord
  exact h text hc hrecord

end JsonStore

/-- The records of a store are private at every point of every run, as long as no call writes one
    to a temporary file that it has opened with another mode. -/
theorem records_private (store : JsonStore) {α : Type} {d : Disk} (wellFormed : d.WellFormed)
    (isPrivate : store.Private d) {runs : List (JsonStore.CallRun α)}
    (history : store.CallHistory d runs) (opens : ∀ run ∈ runs, store.OpensPrivately run) :
    ∀ run ∈ runs, ∀ t d', t <+: run.trace → store.RunsCall run.created run.call run.before t d' →
      store.Private d' := by
  induction history with
  | nil d => simp
  | @cons call created d d₁ trace runs hrun rest ih =>
    rw [List.forall_mem_cons] at opens
    obtain ⟨hopens, hrest⟩ := opens
    have hd : store.Guarded created (store.openedMode created d = 0o600) d := ⟨wellFormed, isPrivate, id⟩
    have hguarded : ∀ t d', t <+: trace → store.RunsCall created call d t d' →
        store.Guarded created False d' := fun t d' ht hruns =>
      JsonStore.guarded_of_runsCall hd (fun c hc => hopens.allowed (ht.subset hc)) hruns
    have hend := hguarded trace d₁ List.prefix_rfl hrun
    rw [List.forall_mem_cons]
    exact ⟨fun t d' ht hruns => (hguarded t d' ht hruns).isPrivate,
      ih hend.wellFormed hend.isPrivate hrest⟩

namespace JsonStore

/-- A state with a refresh token. -/
def refreshState : Buckets :=
  { Buckets.initial with refreshTokens := [("token", .dict [("clientId", .str "canva")])] }

/-- The update that stores it. -/
def storeToken : Call Unit := .update fun _ => .ok ((), refreshState)

/-- A disk with this store file. -/
def storeDisk (file : File) : Disk :=
  (emptyDisk.setDir [".data"] 0o700).setFile dataStore.filePath (some file)

/-- `_ensure_file` when the store file is there. -/
def ensured : List (Command × Bool) :=
  [(.mkdir [".data"] 0o700, true), (.exist dataStore.filePath, true),
    (.isDir dataStore.filePath, true), (.chmod dataStore.filePath 0o600, true),
    (.isDir [".data"], true), (.chmod [".data"] 0o700, true)]

/-- An update in which the temporary file cannot be restricted. -/
def refusedTrace : List (Command × Bool) :=
  ensured ++ [(.read dataStore.filePath, true)] ++ (ensured ++
    [(.create dataStore.tmpPath, true), (.write dataStore.tmpPath (dataStore.dumps refreshState), true),
      (.isDir dataStore.tmpPath, true), (.chmod dataStore.tmpPath 0o600, false)])

theorem takes_ensured (created : ℕ) (text : List Char) :
    Takes (execAs created) dataStore.ensureFile (storeDisk ⟨text, 0o600⟩) ensured (.pure ())
      (storeDisk ⟨text, 0o600⟩) := by
  have hmkdir : execAs created (.mkdir [".data"] 0o700) (storeDisk ⟨text, 0o600⟩) =
      some ((), storeDisk ⟨text, 0o600⟩) := rfl
  have hexist : execAs created (.exist dataStore.filePath) (storeDisk ⟨text, 0o600⟩) =
      some (true, storeDisk ⟨text, 0o600⟩) := rfl
  have hisFile : execAs created (.isDir dataStore.filePath) (storeDisk ⟨text, 0o600⟩) =
      some (false, storeDisk ⟨text, 0o600⟩) := rfl
  have hfile : execAs created (.chmod dataStore.filePath 0o600) (storeDisk ⟨text, 0o600⟩) =
      some ((), storeDisk ⟨text, 0o600⟩) := by
    rw [execAs, exec, storeDisk, Disk.files_setFile_self]
    · dsimp only
      rw [Disk.setFile_setFile]
    · simp
  have hisDir : execAs created (.isDir [".data"]) (storeDisk ⟨text, 0o600⟩) =
      some (true, storeDisk ⟨text, 0o600⟩) := rfl
  have hdir : execAs created (.chmod [".data"] 0o700) (storeDisk ⟨text, 0o600⟩) =
      some ((), storeDisk ⟨text, 0o600⟩) := by
    change some ((), (storeDisk ⟨text, 0o600⟩).setDir [".data"] 0o700) = _
    rw [storeDisk, Disk.setDir_setFile, Disk.setDir_setDir]
  exact .done hmkdir (.done hexist (.done hisFile (.done hfile (.done hisDir (.done hdir (.nil _ _))))))

theorem takes_load (created : ℕ) :
    Takes (execAs created) (dataStore.load true) (storeDisk ⟨dataStore.dumps .initial, 0o600⟩)
      (ensured ++ [(.read dataStore.filePath, true)]) (.pure .initial)
      (storeDisk ⟨dataStore.dumps .initial, 0o600⟩) := by
  have hdone : execAs created (.read dataStore.filePath)
      (storeDisk ⟨dataStore.dumps .initial, 0o600⟩) =
      some (dataStore.dumps .initial, storeDisk ⟨dataStore.dumps .initial, 0o600⟩) := rfl
  have hparse := @parse_dumps dataStore _ (plain_initial _)
  refine (takes_ensured created _).bind (.done hdone ?_)
  rw [Option.elim_some, hparse]
  exact .nil _ _

/-- The disk on which the temporary file is written. -/
def writtenDisk (created : ℕ) : Disk :=
  (storeDisk ⟨dataStore.dumps .initial, 0o600⟩).setFile dataStore.tmpPath
    (some ⟨dataStore.dumps refreshState, created⟩)

theorem takes_refused (created : ℕ) :
    Takes (execAs created) (dataStore.update fun _ => .ok ((), refreshState))
      (storeDisk ⟨dataStore.dumps .initial, 0o600⟩) refusedTrace (.raise .runtimeError)
      (writtenDisk created) := by
  have hcreate : execAs created (.create dataStore.tmpPath)
      (storeDisk ⟨dataStore.dumps .initial, 0o600⟩) =
      some ((), (storeDisk ⟨dataStore.dumps .initial, 0o600⟩).setFile dataStore.tmpPath
        (some ⟨[], created⟩)) := rfl
  have hwrite : execAs created (.write dataStore.tmpPath (dataStore.dumps refreshState))
      ((storeDisk ⟨dataStore.dumps .initial, 0o600⟩).setFile dataStore.tmpPath
        (some ⟨[], created⟩)) = some ((), writtenDisk created) := by
    rw [execAs, exec, Disk.files_setFile_self, Option.map_some, Disk.setFile_setFile]
    · rfl
    · simp
  have hisFile : execAs created (.isDir dataStore.tmpPath) (writtenDisk created) =
      some (false, writtenDisk created) := rfl
  have hsave : Takes (execAs created) (dataStore.save refreshState)
      (storeDisk ⟨dataStore.dumps .initial, 0o600⟩) (ensured ++
        [(.create dataStore.tmpPath, true), (.write dataStore.tmpPath (dataStore.dumps refreshState), true),
          (.isDir dataStore.tmpPath, true), (.chmod dataStore.tmpPath 0o600, false)])
      (.raise .runtimeError) (writtenDisk created) :=
    (takes_ensured created _).bind
      (.done hcreate (.done hwrite (.done hisFile (.failed (.nil _ _)))))
  exact (takes_load created).bind (hsave.within _)

theorem wellFormed_storeDisk (file : File) : (storeDisk file).WellFormed := by
  have hempty : (emptyDisk.setDir [".data"] 0o700).WellFormed := fun path => .inl rfl
  refine hempty.setFile (.inr ?_)
  rw [Disk.dirs_setDir_of_ne _ (by decide)]
  rfl

theorem private_storeDisk {file : File} (h : file.mode = 0o600) : dataStore.Private (storeDisk file) :=
  Private.setFile (fun _ _ _ hf => by cases hf) fun f hf _ => by rwa [← Option.some.inj hf]

end JsonStore

/-- With new files of mode `0o600`, the records are private where the update ends. -/
theorem records_private_refused : JsonStore.dataStore.Private (JsonStore.writtenDisk 0o600) := by
  have hrun : JsonStore.dataStore.RunsCall 0o600 JsonStore.storeToken
      (JsonStore.storeDisk ⟨JsonStore.dataStore.dumps .initial, 0o600⟩) JsonStore.refusedTrace
      (JsonStore.writtenDisk 0o600) := ⟨_, JsonStore.takes_refused _⟩
  exact records_private JsonStore.dataStore (JsonStore.wellFormed_storeDisk _)
    (JsonStore.private_storeDisk rfl) (.cons hrun (.nil _))
    (List.forall_mem_singleton.2 fun _ _ _ => rfl) _ List.mem_cons_self _ _ List.prefix_rfl hrun

/-- An update writes its records to a temporary file that everyone may read, before it restricts
    it. If that fails the update raises, and leaves the file. -/
theorem record_exposed :
    (JsonStore.storeDisk ⟨JsonStore.dataStore.dumps .initial, 0o600⟩).WellFormed ∧
      JsonStore.dataStore.Private (JsonStore.storeDisk ⟨JsonStore.dataStore.dumps .initial, 0o600⟩) ∧
      JsonStore.dataStore.requireSecurePermissions = true ∧
      Ends (execAs 0o644) (JsonStore.dataStore.update fun _ => .ok ((), JsonStore.refreshState))
        (JsonStore.storeDisk ⟨JsonStore.dataStore.dumps .initial, 0o600⟩) JsonStore.refusedTrace
        (.error .runtimeError) (JsonStore.writtenDisk 0o644) ∧
      ¬JsonStore.dataStore.Private (JsonStore.writtenDisk 0o644) := by
  refine ⟨JsonStore.wellFormed_storeDisk _, JsonStore.private_storeDisk rfl, rfl,
    JsonStore.takes_refused _, fun h => ?_⟩
  have hmode := h JsonStore.dataStore.tmpPath (.inr rfl) _ (Disk.files_setFile_self _ _ _)
    ⟨JsonStore.refreshState, by decide, rfl⟩
  cases hmode

end Broker
