import Broker.Lib.Files
import Broker.Lib.JsonIndent
import Broker.Session

/-!
# The store file

`JsonStore` as the steps it takes in the file system, and what a run that is cut
leaves in the store file (`cut_ensureFile`, `cut_update`). At its first creation the
store file is created empty and written afterwards; every later state is written to
a temporary file, which then replaces the store file.
-/

namespace Broker

open Py Crash Files

/-! ## States -/

/-- The state of the store: the records of every bucket. -/
structure Buckets where
  authorizationCodes : List (String × Json)
  accessTokens : List (String × Json)
  refreshTokens : List (String × Json)
  assetGrants : List (String × Json)
  pendingSsoStates : List (String × Json)
  deriving DecidableEq

namespace Buckets

/-- `_INITIAL_STATE`. -/
def initial : Buckets := ⟨[], [], [], [], []⟩

def toJson (b : Buckets) : Json :=
  .dict [("authorizationCodes", .dict b.authorizationCodes), ("accessTokens", .dict b.accessTokens),
    ("refreshTokens", .dict b.refreshTokens), ("assetGrants", .dict b.assetGrants),
    ("pendingSsoStates", .dict b.pendingSsoStates)]

/-- Records that `json.loads` reads as they were written: what they hold is
    nested up to `depth`. -/
def Plain (depth : ℕ) (b : Buckets) : Prop := b.toJson.Plain (depth + 2)

end Buckets

/-- What an operation of the store raises. -/
inductive StoreError
  | osError
  /-- `JsonStoreLoadError`: the file cannot be read or parsed. -/
  | unreadable
  | rootNotObject
  | bucketNull (key : String)
  | bucketNotObject (key : String)
  | valueError
  | recursionError
  /-- The permissions of the store file could not be restricted. -/
  | runtimeError
  /-- The updater has raised. -/
  | raised (e : PyError)
  deriving DecidableEq

/-- A bucket of a parsed store. -/
def mergeBucket (parsed : List (String × Json)) (strict : Bool) (key : String) :
    Except StoreError (List (String × Json)) :=
  match parsed.lookup key with
  | none => .ok []
  | some .null => if strict then .error (.bucketNull key) else .ok []
  | some (.dict bucket) => .ok bucket
  | some _ => if strict then .error (.bucketNotObject key) else .ok []

/-- `_merge_store`. -/
def mergeStore (parsed : Json) (strict : Bool) : Except StoreError Buckets :=
  match parsed with
  | .dict entries => do
    let authorizationCodes ← mergeBucket entries strict "authorizationCodes"
    let accessTokens ← mergeBucket entries strict "accessTokens"
    let refreshTokens ← mergeBucket entries strict "refreshTokens"
    let assetGrants ← mergeBucket entries strict "assetGrants"
    let pendingSsoStates ← mergeBucket entries strict "pendingSsoStates"
    return { authorizationCodes, accessTokens, refreshTokens, assetGrants, pendingSsoStates }
  | _ => if strict then .error .rootNotObject else .ok .initial

/-! ## Operations -/

/-- A store, in a Python that reads values nested up to a depth and writes floats
    in its way. -/
structure JsonStore where
  filePath : Path
  requireSecurePermissions : Bool
  depth : ℕ
  repr : Json → String
  /-- The path names a file. -/
  named : filePath ≠ []

namespace JsonStore

variable (store : JsonStore)

/-- A command, whose failure is raised. -/
def issue (c : Command) : Program StoreError c.Reply := Prog.perform .osError c

/-- `with_suffix(suffix + ".tmp")`. -/
def tmpPath : Path := store.filePath.dropLast ++ [store.filePath.getLast store.named ++ ".tmp"]

/-- `json.dumps(state, indent=2)`. -/
def dumps (state : Buckets) : List Char := state.toJson.dumpsIndent store.repr 2 0

/-- `path.write_text(text)`. -/
def writeText (path : Path) (text : List Char) : Program StoreError Unit := do
  issue (.create path)
  issue (.write path text)

/-- `_restrict_perms`. -/
def restrictPerms (path : Path) (fatal : Bool) : Program StoreError Unit :=
  let refused : Program StoreError Unit := if fatal then .raise .runtimeError else .pure ()
  .command (.isDir path) fun dir => dir.elim refused fun (dir : Bool) =>
    .command (.chmod path (if dir then 0o700 else 0o600)) fun done => done.elim refused .pure

/-- The store file, created if it is missing. -/
def createMissing (present : Bool) : Program StoreError Unit :=
  if present then .pure () else writeText store.filePath (store.dumps .initial)

/-- `_ensure_file`. -/
def ensureFile : Program StoreError Unit := do
  issue (.mkdir (parent store.filePath) 0o700)
  let present : Bool ← issue (.exist store.filePath)
  store.createMissing present
  restrictPerms store.filePath store.requireSecurePermissions
  restrictPerms (parent store.filePath) false

/-- What a text that was read says. Only a `JSONDecodeError` counts as unparsable, and not the
    `ValueError` of an integer too long to read. -/
def parse (strict : Bool) (text : List Char) : Except StoreError Buckets :=
  match Json.loads (store.depth + 2) text with
  | .ok parsed => mergeStore parsed strict
  | .error .value => if strict then .error .unreadable else .ok .initial
  | .error .digits => .error .valueError
  | .error .recursion => .error .recursionError

/-- `_load`. -/
def load (strict : Bool) : Program StoreError Buckets := do
  store.ensureFile
  .command (.read store.filePath) fun text => text.elim
    (.ofExcept (if strict then .error .unreadable else .ok .initial))
    fun text => .ofExcept (store.parse strict text)

/-- `_save`. -/
def save (state : Buckets) : Program StoreError Unit := do
  store.ensureFile
  writeText store.tmpPath (store.dumps state)
  restrictPerms store.tmpPath store.requireSecurePermissions
  issue (.replace store.tmpPath store.filePath)

/-- `update` and `update_strict`. -/
def update {α : Type} (updater : Buckets → Except PyError (α × Buckets)) : Program StoreError α := do
  let state ← store.load true
  match updater state with
  | .error e => .raise (.raised e)
  | .ok (result, state') => store.save state' >>= fun _ => .pure result

/-! ## Errors -/

/-- Making the store raises an `OSError`, or a `RuntimeError` if the permissions have to hold. -/
theorem raises_ensureFile : store.ensureFile.Raises fun error =>
    error = .osError ∨ error = .runtimeError ∧ store.requireSecurePermissions = true := by
  have hissue : ∀ c : Command, (issue c).Raises fun error =>
      error = StoreError.osError ∨ error = .runtimeError ∧ store.requireSecurePermissions = true :=
    fun c => .perform (.inl rfl) c
  have hrestrict : ∀ (path : Path) (fatal : Bool), (fatal = true → store.requireSecurePermissions = true) →
      (restrictPerms path fatal).Raises fun error =>
        error = StoreError.osError ∨ error = .runtimeError ∧ store.requireSecurePermissions = true := by
    intro path fatal hsecure
    have hrefused : (if fatal then .raise .runtimeError else .pure () : Program StoreError Unit).Raises
        fun error => error = .osError ∨ error = .runtimeError ∧ store.requireSecurePermissions = true := by
      split_ifs with hfatal
      · exact .inr ⟨rfl, hsecure hfatal⟩
      · exact trivial
    intro dir
    cases dir with
    | none => exact hrefused
    | some dir =>
      intro done
      cases done with
      | none => exact hrefused
      | some done => exact trivial
  refine (hissue _).bind fun _ => (hissue _).bind fun present => .bind ?_ fun _ =>
    (hrestrict _ _ id).bind fun _ => hrestrict _ _ fun h => nomatch h
  cases present with
  | true => exact trivial
  | false => exact (hissue _).bind fun _ => hissue _

/-! ## Paths -/

theorem tmpPath_ne : store.tmpPath ≠ store.filePath := by
  intro h
  have hlast := congrArg List.getLast? h
  rw [tmpPath, List.getLast?_append_of_ne_nil _ (by simp), List.getLast?_singleton,
    List.getLast?_eq_getLast_of_ne_nil store.named, Option.some.injEq] at hlast
  have hlength := congrArg String.length hlast
  rw [String.length_append] at hlength
  have htmp : ".tmp".length = 4 := rfl
  omega

theorem length_filePath : (parent store.filePath).length + 1 = store.filePath.length := by
  rw [parent, List.length_dropLast]
  have hpos := List.length_pos_iff.2 store.named
  omega

theorem filePath_ne_parent : store.filePath ≠ parent store.filePath := fun h => by
  have hlength := store.length_filePath
  rw [← h] at hlength
  omega

theorem parent_ne_tmpPath : parent store.filePath ≠ store.tmpPath := fun h => by
  have hlength := congrArg List.length h
  rw [parent, tmpPath, List.length_append, List.length_singleton] at hlength
  omega

/-! ## Commands that leave the store file -/

/-- No directory is in the place of the store file, and no file in that of its directory. -/
structure Framed (d : Disk) : Prop where
  parent : d.files (Files.parent store.filePath) = none
  file : d.dirs store.filePath = none

/-- A command that does not concern the text of the store file. -/
def Quiet : Command → Prop
  | .mkdir path _ => path = parent store.filePath
  | .create path | .write path _ => path = store.tmpPath
  | .replace _ _ => False
  | _ => True

variable {store}

theorem Framed.setTmp {d : Disk} (h : store.Framed d) (file : Option File) :
    store.Framed (d.setFile store.tmpPath file) where
  parent := by rw [Disk.files_setFile_of_ne _ store.parent_ne_tmpPath, h.parent]
  file := h.file

theorem Framed.setStore {d : Disk} (h : store.Framed d) (file : Option File) :
    store.Framed (d.setFile store.filePath file) where
  parent := by rw [Disk.files_setFile_of_ne _ store.filePath_ne_parent.symm, h.parent]
  file := h.file

/-- A quiet command keeps the text of the store file. -/
theorem quiet_keeps (text : Option (List Char)) (c : Command) (d : Disk) (reply : c.Reply) (d' : Disk)
    (quiet : store.Quiet c) (h : store.Framed d ∧ d.text store.filePath = text)
    (done : exec c d = some (reply, d')) :
    store.Framed d' ∧ d'.text store.filePath = text := by
  obtain ⟨hframe, htext⟩ := h
  cases c with
  | mkdir path mode =>
    subst quiet
    rcases exec_mkdir done with rfl | rfl
    · exact ⟨hframe, htext⟩
    · refine ⟨⟨hframe.parent, ?_⟩, htext⟩
      rw [Disk.dirs_setDir_of_ne _ store.filePath_ne_parent, hframe.file]
  | create path =>
    subst quiet
    obtain ⟨mode, rfl⟩ := exec_create done
    exact ⟨hframe.setTmp _, by rw [Disk.text_setFile_of_ne _ store.tmpPath_ne.symm, htext]⟩
  | write path text =>
    subst quiet
    obtain ⟨mode, rfl⟩ := exec_write done
    exact ⟨hframe.setTmp _, by rw [Disk.text_setFile_of_ne _ store.tmpPath_ne.symm, htext]⟩
  -- A mode changes whatever it is on, and no text.
  | chmod path mode =>
    refine ⟨?_, by rw [text_chmod done, htext]⟩
    rcases exec_chmod done with ⟨file, hfile, rfl⟩ | ⟨hdir, rfl⟩
    · have hne : Files.parent store.filePath ≠ path := by
        rintro rfl
        rw [hframe.parent] at hfile
        cases hfile
      exact ⟨by rw [Disk.files_setFile_of_ne _ hne, hframe.parent], hframe.file⟩
    · have hne : store.filePath ≠ path := by
        rintro rfl
        rw [hframe.file] at hdir
        cases hdir
      exact ⟨hframe.parent, by rw [Disk.dirs_setDir_of_ne _ hne, hframe.file]⟩
  | replace source target => exact quiet.elim
  | exist path =>
    obtain rfl := congrArg Prod.snd (Option.some.inj done)
    exact ⟨hframe, htext⟩
  | isDir path =>
    obtain rfl := congrArg Prod.snd (Option.some.inj done)
    exact ⟨hframe, htext⟩
  | read path =>
    obtain ⟨_, -, hd⟩ := Option.map_eq_some_iff.1 done
    obtain rfl := congrArg Prod.snd hd
    exact ⟨hframe, htext⟩

/-! ## Torn traces -/

variable (store) in
/-- Whether the store file is created and not written, after one more command. -/
def tornStep (torn : Bool) : Command × Bool → Bool
  | (.create path, true) => torn || path = store.filePath
  | (.write path _, true) => torn && path ≠ store.filePath
  | _ => torn

variable (store) in
/-- The trace creates the store file and does not write it. -/
def torn (t : List (Command × Bool)) : Bool := t.foldl store.tornStep false

theorem torn_append (t t' : List (Command × Bool)) :
    store.torn (t ++ t') = t'.foldl store.tornStep (store.torn t) := List.foldl_append

theorem tornStep_quiet {step : Command × Bool} (h : store.Quiet step.1) (torn : Bool) :
    store.tornStep torn step = torn := by
  obtain ⟨c, done⟩ := step
  cases c with
  | create path =>
    obtain rfl : path = store.tmpPath := h
    cases done <;> simp [tornStep, store.tmpPath_ne]
  | write path text =>
    obtain rfl : path = store.tmpPath := h
    cases done <;> simp [tornStep, store.tmpPath_ne]
  | _ => rfl

theorem foldl_tornStep_quiet {t : List (Command × Bool)} (h : ∀ step ∈ t, store.Quiet step.1)
    (torn : Bool) : t.foldl store.tornStep torn = torn := by
  induction t with
  | nil => rfl
  | cons step t ih =>
    rw [List.forall_mem_cons] at h
    rw [List.foldl_cons, tornStep_quiet h.1, ih h.2]

/-- What a run of the operation up to some point has done to the store file: it
    has left it, or has created it and written the initial state, or not written it. -/
inductive Ensured (store : JsonStore) (d : Disk) (t : List (Command × Bool)) (d' : Disk) : Prop
  | kept (frame : store.Framed d') (whole : store.torn t = false)
    (text : d'.text store.filePath = d.text store.filePath)
  | created (frame : store.Framed d') (whole : store.torn t = false)
    (missing : d.text store.filePath = none)
    (text : d'.text store.filePath = some (store.dumps .initial))
  | torn (frame : store.Framed d') (torn : store.torn t = true)
    (missing : d.text store.filePath = none) (text : d'.text store.filePath = some [])

theorem Ensured.frame {d d' : Disk} {t : List (Command × Bool)} (h : store.Ensured d t d') :
    store.Framed d' := by
  cases h with
  | kept frame _ _ => exact frame
  | created frame _ _ _ => exact frame
  | torn frame _ _ _ => exact frame

/-- A quiet program after it changes nothing. -/
theorem Ensured.trans {α : Type} {d d₁ d' : Disk} {t t' : List (Command × Bool)}
    (h : store.Ensured d t d₁) {prog : Program StoreError α} (quiet : prog.Issues store.Quiet)
    (cut : Cut exec prog d₁ t' d') : store.Ensured d (t ++ t') d' := by
  obtain ⟨prog', takes⟩ := cut
  obtain ⟨⟨hframe, htext⟩, ht⟩ := takes.invariant
    (I := fun e => store.Framed e ∧ e.text store.filePath = d₁.text store.filePath)
    (fun c e reply e' => quiet_keeps _ c e reply e') quiet ⟨h.frame, rfl⟩
  have htorn : store.torn (t ++ t') = store.torn t := by
    rw [torn_append, foldl_tornStep_quiet ht]
  cases h with
  | kept _ whole text => exact .kept hframe (htorn.trans whole) (htext.trans text)
  | created _ whole missing text => exact .created hframe (htorn.trans whole) missing (htext.trans text)
  | torn _ torn missing text => exact .torn hframe (htorn.trans torn) missing (htext.trans text)

theorem Ensured.refl {d : Disk} (frame : store.Framed d) : store.Ensured d [] d := .kept frame rfl rfl

/-! ## Quiet programs -/

theorem quiet_restrictPerms (path : Path) (fatal : Bool) :
    (restrictPerms path fatal).Issues store.Quiet := by
  have hrefused : (if fatal then .raise .runtimeError else .pure () : Program StoreError Unit).Issues
      store.Quiet := by
    cases fatal <;> exact trivial
  refine ⟨trivial, fun dir => ?_⟩
  cases dir with
  | none => exact hrefused
  | some dir =>
    refine ⟨trivial, fun done => ?_⟩
    cases done with
    | none => exact hrefused
    | some _ => exact trivial

/-- A restriction of permissions keeps every text. -/
theorem text_restrictPerms {d d' : Disk} {t : List (Command × Bool)} {path : Path} {fatal : Bool}
    (h : Cut exec (restrictPerms path fatal) d t d') (q : Path) : d'.text q = d.text q := by
  obtain ⟨_, takes⟩ := h
  have hrefused : ∀ t' p' e e', Takes exec (if fatal then .raise .runtimeError else .pure () :
      Program StoreError Unit) e t' p' e' → e' = e := by
    intro t' p' e e' h
    cases fatal <;> cases h <;> rfl
  cases takes with
  | nil => rfl
  | done hdone rest =>
    cases hdone
    cases rest with
    | nil => rfl
    | done hdone rest =>
      cases rest
      exact text_chmod hdone q
    | failed rest => rw [hrefused _ _ _ _ rest]
  | failed rest => rw [hrefused _ _ _ _ rest]

theorem quiet_issue {c : Command} (h : store.Quiet c) : (issue c).Issues store.Quiet := .perform h _

theorem quiet_writeTmp (text : List Char) : (writeText store.tmpPath text).Issues store.Quiet :=
  (quiet_issue (c := .create store.tmpPath) rfl).bind fun _ =>
    quiet_issue (c := .write store.tmpPath text) rfl

/-! ## Ensuring the store file -/

theorem cut_writeStore {d d' : Disk} {t : List (Command × Bool)} {text : List Char}
    (frame : store.Framed d) (h : Cut exec (writeText store.filePath text) d t d') :
    store.torn t = false ∧ d' = d ∨
      store.Framed d' ∧ (store.torn t = true ∧ d'.text store.filePath = some [] ∨
        store.torn t = false ∧ d'.text store.filePath = some text) := by
  rcases cut_bind h with h | ⟨_, t₁, t₂, d₁, rfl, h₁, h₂⟩
  · rcases cut_perform h with ⟨rfl, rfl⟩ | ⟨_, rfl, hdone⟩ | ⟨rfl, rfl⟩
    · exact .inl ⟨rfl, rfl⟩
    · obtain ⟨mode, rfl⟩ := exec_create hdone
      exact .inr ⟨frame.setStore _, .inl ⟨by simp [torn, tornStep], Disk.text_setFile_self _ _ _⟩⟩
    · exact .inl ⟨rfl, rfl⟩
  · obtain ⟨rfl, hdone⟩ := ends_perform h₁
    obtain ⟨mode, rfl⟩ := exec_create hdone
    rcases cut_perform h₂ with ⟨rfl, rfl⟩ | ⟨_, rfl, hdone'⟩ | ⟨rfl, rfl⟩
    · exact .inr ⟨frame.setStore _, .inl ⟨by simp [torn, tornStep], Disk.text_setFile_self _ _ _⟩⟩
    · obtain ⟨mode', rfl⟩ := exec_write hdone'
      exact .inr ⟨(frame.setStore _).setStore _,
        .inr ⟨by simp [torn, tornStep], Disk.text_setFile_self _ _ _⟩⟩
    · exact .inr ⟨frame.setStore _, .inl ⟨by simp [torn, tornStep], Disk.text_setFile_self _ _ _⟩⟩

/-- A text that is written is there. -/
theorem ends_writeText {d d' : Disk} {t : List (Command × Bool)} {path : Path} {text : List Char}
    (h : Ends exec (writeText path text) d t (.ok ()) d') : d'.text path = some text := by
  obtain ⟨_, t₁, t₂, d₁, rfl, h₁, h₂⟩ := ends_bind h
  obtain ⟨mode, rfl⟩ := exec_write (ends_perform h₂).2
  exact Disk.text_setFile_self _ _ _

theorem ends_writeStore {d d' : Disk} {t : List (Command × Bool)} {text : List Char}
    (frame : store.Framed d) (h : Ends exec (writeText store.filePath text) d t (.ok ()) d') :
    store.Framed d' ∧ store.torn t = false ∧ d'.text store.filePath = some text := by
  obtain ⟨_, t₁, t₂, d₁, rfl, h₁, h₂⟩ := ends_bind h
  obtain ⟨rfl, hdone⟩ := ends_perform h₁
  obtain ⟨rfl, hdone'⟩ := ends_perform h₂
  obtain ⟨mode, rfl⟩ := exec_create hdone
  obtain ⟨mode', rfl⟩ := exec_write hdone'
  exact ⟨(frame.setStore _).setStore _, by simp [torn, tornStep], Disk.text_setFile_self _ _ _⟩

theorem cut_createMissing {d d' : Disk} {t : List (Command × Bool)} (frame : store.Framed d)
    (h : Cut exec (store.createMissing (d.text store.filePath).isSome) d t d') :
    store.Ensured d t d' := by
  cases hmissing : d.text store.filePath with
  | some text =>
    rw [hmissing] at h
    obtain ⟨rfl, rfl⟩ := cut_pure h
    exact .refl frame
  | none =>
    rw [hmissing] at h
    rcases cut_writeStore frame h with ⟨whole, rfl⟩ | ⟨hframe, ⟨torn, htext⟩ | ⟨whole, htext⟩⟩
    · exact .kept frame whole rfl
    · exact .torn hframe torn hmissing htext
    · exact .created hframe whole hmissing htext

theorem ends_createMissing {d d' : Disk} {t : List (Command × Bool)} (frame : store.Framed d)
    (h : Ends exec (store.createMissing (d.text store.filePath).isSome) d t (.ok ()) d') :
    store.torn t = false ∧
      d'.text store.filePath = some ((d.text store.filePath).getD (store.dumps .initial)) := by
  cases hmissing : d.text store.filePath with
  | some text =>
    rw [hmissing] at h
    obtain ⟨-, rfl, rfl⟩ := ends_pure h
    exact ⟨rfl, hmissing⟩
  | none =>
    rw [hmissing] at h
    exact (ends_writeStore frame h).2

/-- What comes after a program that has left the store file. -/
theorem Ensured.after {d d₁ d' : Disk} {t t' : List (Command × Bool)} (whole : store.torn t = false)
    (text : d₁.text store.filePath = d.text store.filePath) (h : store.Ensured d₁ t' d') :
    store.Ensured d (t ++ t') d' := by
  have htorn : store.torn (t ++ t') = store.torn t' := by
    rw [torn_append, whole]
    rfl
  cases h with
  | kept frame whole' text' => exact .kept frame (htorn.trans whole') (text'.trans text)
  | created frame whole' missing text' =>
    exact .created frame (htorn.trans whole') (text ▸ missing) text'
  | torn frame torn missing text' => exact .torn frame (htorn.trans torn) (text ▸ missing) text'

/-- A quiet program leaves the store file. -/
theorem quiet_cut {α : Type} {d d' : Disk} {t : List (Command × Bool)} {prog : Program StoreError α}
    (quiet : prog.Issues store.Quiet) (frame : store.Framed d) (h : Cut exec prog d t d') :
    store.Framed d' ∧ store.torn t = false ∧ d'.text store.filePath = d.text store.filePath := by
  obtain ⟨prog', takes⟩ := h
  obtain ⟨⟨hframe, htext⟩, ht⟩ := takes.invariant
    (I := fun e => store.Framed e ∧ e.text store.filePath = d.text store.filePath)
    (fun c e reply e' => quiet_keeps _ c e reply e') quiet ⟨frame, rfl⟩
  exact ⟨hframe, foldl_tornStep_quiet ht false, htext⟩

theorem present_eq {d : Disk} (frame : store.Framed d) :
    ((d.files store.filePath).isSome || (d.dirs store.filePath).isSome) =
      (d.text store.filePath).isSome := by
  rw [frame.file, Option.isSome_none, Bool.or_false, Disk.text, Option.isSome_map]

/-- The part of `_ensure_file` after the store file is there. -/
theorem quiet_restrictBoth :
    (restrictPerms store.filePath store.requireSecurePermissions >>= fun _ =>
      restrictPerms (parent store.filePath) false).Issues store.Quiet :=
  (quiet_restrictPerms _ _).bind fun _ => quiet_restrictPerms _ _

theorem cut_ensureFile {d d' : Disk} {t : List (Command × Bool)} (frame : store.Framed d)
    (h : Cut exec store.ensureFile d t d') : store.Ensured d t d' := by
  have hmkdir : store.Quiet (.mkdir (parent store.filePath) 0o700) := rfl
  have hexist : store.Quiet (.exist store.filePath) := trivial
  rcases cut_bind h with h | ⟨_, t₁, t₂, d₁, rfl, h₁, h⟩
  · obtain ⟨hframe, hwhole, htext⟩ := quiet_cut (quiet_issue hmkdir) frame h
    exact .kept hframe hwhole htext
  obtain ⟨hframe, hwhole, htext⟩ := quiet_cut (quiet_issue hmkdir) frame h₁.cut
  refine .after hwhole htext ?_
  rcases cut_bind h with h | ⟨present, t₂, t₃, d₂, rfl, h₂, h⟩
  · exact (Ensured.refl hframe).trans (quiet_issue hexist) h
  obtain ⟨rfl, hdone⟩ := ends_perform h₂
  obtain ⟨rfl, rfl⟩ : present = (d₁.text store.filePath).isSome ∧ d₂ = d₁ := by
    cases hdone
    exact ⟨present_eq hframe, rfl⟩
  refine .after rfl rfl ?_
  rcases cut_bind h with h | ⟨_, t₃, t₄, d₃, rfl, h₃, h⟩
  · exact cut_createMissing hframe h
  · exact (cut_createMissing hframe h₃.cut).trans quiet_restrictBoth h

theorem ends_ensureFile {d d' : Disk} {t : List (Command × Bool)} (frame : store.Framed d)
    (h : Ends exec store.ensureFile d t (.ok ()) d') :
    store.Framed d' ∧ store.torn t = false ∧
      d'.text store.filePath = some ((d.text store.filePath).getD (store.dumps .initial)) := by
  have hmkdir : store.Quiet (.mkdir (parent store.filePath) 0o700) := rfl
  obtain ⟨_, t₁, t₂, d₁, rfl, h₁, h⟩ := ends_bind h
  obtain ⟨hframe, hwhole, htext⟩ := quiet_cut (quiet_issue hmkdir) frame h₁.cut
  obtain ⟨present, t₂, t₃, d₂, rfl, h₂, h⟩ := ends_bind h
  obtain ⟨rfl, hdone⟩ := ends_perform h₂
  obtain ⟨rfl, rfl⟩ : present = (d₁.text store.filePath).isSome ∧ d₂ = d₁ := by
    cases hdone
    exact ⟨present_eq hframe, rfl⟩
  obtain ⟨_, t₃, t₄, d₃, rfl, h₃, h⟩ := ends_bind h
  obtain ⟨hwhole', htext'⟩ := ends_createMissing hframe h₃
  obtain ⟨hframe', hwhole'', htext''⟩ := quiet_cut quiet_restrictBoth
    (cut_createMissing hframe h₃.cut).frame h.cut
  refine ⟨hframe', ?_, ?_⟩
  · rw [torn_append, hwhole]
    change store.torn (t₃ ++ t₄) = false
    rw [torn_append, hwhole']
    exact hwhole''
  · rw [htext'', htext', htext]

/-! ## Loading and saving -/

/-- Loading, past `_ensure_file`. -/
theorem quiet_read (strict : Bool) :
    (.command (.read store.filePath) fun text => text.elim
      (.ofExcept (if strict then .error .unreadable else .ok .initial))
      fun text => .ofExcept (store.parse strict text) : Program StoreError Buckets).Issues
        store.Quiet := by
  have hend : ∀ r : Except StoreError Buckets,
      (.ofExcept r : Program StoreError Buckets).Issues store.Quiet := by
    intro r
    cases r <;> exact trivial
  refine ⟨trivial, fun text => ?_⟩
  cases text with
  | none => exact hend _
  | some text => exact hend _

theorem cut_load {d d' : Disk} {t : List (Command × Bool)} {strict : Bool} (frame : store.Framed d)
    (h : Cut exec (store.load strict) d t d') : store.Ensured d t d' := by
  rcases cut_bind h with h | ⟨_, t₁, t₂, d₁, rfl, h₁, h⟩
  · exact cut_ensureFile frame h
  · exact (cut_ensureFile frame h₁.cut).trans (quiet_read strict) h

theorem ends_load {d d' : Disk} {t : List (Command × Bool)} {s : Buckets} (frame : store.Framed d)
    (h : Ends exec (store.load true) d t (.ok s) d') :
    store.Framed d' ∧ store.torn t = false ∧
      d'.text store.filePath = some ((d.text store.filePath).getD (store.dumps .initial)) ∧
      store.parse true ((d.text store.filePath).getD (store.dumps .initial)) = .ok s := by
  obtain ⟨_, t₁, t₂, d₁, rfl, h₁, h⟩ := ends_bind h
  obtain ⟨hframe, hwhole, htext⟩ := ends_ensureFile frame h₁
  obtain ⟨hframe', hwhole', htext'⟩ := quiet_cut (quiet_read true) hframe h.cut
  refine ⟨hframe', ?_, htext'.trans htext, ?_⟩
  · rw [torn_append, hwhole]
    exact hwhole'
  · cases h with
    | done hdone rest =>
      rw [exec, htext] at hdone
      cases hdone
      cases hparse : store.parse true ((d.text store.filePath).getD (store.dumps .initial)) with
      | error e =>
        dsimp only [Option.elim] at rest
        rw [hparse] at rest
        cases rest
      | ok s' =>
        dsimp only [Option.elim] at rest
        rw [hparse] at rest
        cases rest
        rfl
    | failed rest => cases rest

/-- A run of `_save`, when the store file is there: it has its old text, or the new one. -/
theorem cut_save {d d' : Disk} {t : List (Command × Bool)} {state : Buckets} {text : List Char}
    (frame : store.Framed d) (present : d.text store.filePath = some text)
    (h : Cut exec (store.save state) d t d') :
    store.Framed d' ∧ store.torn t = false ∧ (d'.text store.filePath = some text ∨
      d'.text store.filePath = some (store.dumps state)) := by
  have hensured : ∀ {t d'}, store.Ensured d t d' →
      store.Framed d' ∧ store.torn t = false ∧ d'.text store.filePath = some text := by
    intro t d' h
    cases h with
    | kept frame whole htext => exact ⟨frame, whole, htext.trans present⟩
    | created _ _ missing _ => cases present.symm.trans missing
    | torn _ _ missing _ => cases present.symm.trans missing
  -- Until the replacement only the temporary file is written.
  rcases cut_bind h with h | ⟨_, t₁, t₂, d₁, rfl, h₁, h⟩
  · obtain ⟨hframe, hwhole, htext⟩ := hensured (cut_ensureFile frame h)
    exact ⟨hframe, hwhole, .inl htext⟩
  have hensured₁ := cut_ensureFile frame h₁.cut
  rcases cut_bind h with h | ⟨_, t₂, t₃, d₂, rfl, h₂, h⟩
  · obtain ⟨hframe, hwhole, htext⟩ := hensured (hensured₁.trans (quiet_writeTmp _) h)
    exact ⟨hframe, hwhole, .inl htext⟩
  have hensured₂ := hensured₁.trans (quiet_writeTmp _) h₂.cut
  have htmp := ends_writeText h₂
  rw [← List.append_assoc]
  rcases cut_bind h with h | ⟨_, t₃, t₄, d₃, rfl, h₃, h⟩
  · obtain ⟨hframe, hwhole, htext⟩ := hensured (hensured₂.trans (quiet_restrictPerms _ _) h)
    exact ⟨hframe, hwhole, .inl htext⟩
  obtain ⟨hframe, hwhole, htext⟩ := hensured (hensured₂.trans (quiet_restrictPerms _ _) h₃.cut)
  have htmp₃ := (text_restrictPerms h₃.cut store.tmpPath).trans htmp
  rw [← List.append_assoc]
  rcases cut_perform h with ⟨rfl, rfl⟩ | ⟨_, rfl, hdone⟩ | ⟨rfl, rfl⟩
  · rw [List.append_nil]
    exact ⟨hframe, hwhole, .inl htext⟩
  -- The replacement puts the whole text in place at once.
  · obtain ⟨file, hfile, rfl⟩ := exec_replace hdone
    have hnew : file.text = store.dumps state := by
      rw [Disk.text, hfile] at htmp₃
      exact Option.some.inj htmp₃
    refine ⟨(hframe.setTmp _).setStore _, ?_, .inr ?_⟩
    · rw [torn_append, hwhole]
      rfl
    · rw [Disk.text_setFile_self, hnew]
  · refine ⟨hframe, ?_, .inl htext⟩
    rw [torn_append, hwhole]
    rfl

/-- A run of an update: as that of a load, or with the new state in the store file. -/
theorem cut_update {α : Type} {updater : Buckets → Except PyError (α × Buckets)} {d d' : Disk}
    {t : List (Command × Bool)} (frame : store.Framed d) (h : Cut exec (store.update updater) d t d') :
    store.Ensured d t d' ∨ ∃ s a s',
      store.parse true ((d.text store.filePath).getD (store.dumps .initial)) = .ok s ∧
      updater s = .ok (a, s') ∧ store.Framed d' ∧ store.torn t = false ∧
      d'.text store.filePath = some (store.dumps s') := by
  rcases cut_bind h with h | ⟨s, t₁, t₂, d₁, rfl, h₁, h⟩
  · exact .inl (cut_load frame h)
  have hensured := cut_load frame h₁.cut
  obtain ⟨hframe, hwhole, htext, hparse⟩ := ends_load frame h₁
  cases hupdater : updater s with
  | error e =>
    rw [hupdater] at h
    have quiet : (.raise (.raised e) : Program StoreError α).Issues store.Quiet := trivial
    exact .inl (hensured.trans quiet h)
  | ok r =>
    obtain ⟨a, s'⟩ := r
    rw [hupdater] at h
    -- Returning the result issues no command: what counts is the save.
    have hsave : Cut exec (store.save s') d₁ t₂ d' := by
      rcases cut_bind h with h | ⟨_, t₂, t₃, d₂, rfl, h₂, h⟩
      · exact h
      · obtain ⟨rfl, rfl⟩ := cut_pure h
        rw [List.append_nil]
        exact h₂.cut
    obtain ⟨hframe', hwhole', hold | hnew⟩ := cut_save hframe htext hsave
    · have hwhole'' : store.torn (t₁ ++ t₂) = false := by rwa [torn_append, hwhole]
      rw [← htext] at hold
      cases hensured with
      | kept _ _ text => exact .inl (.kept hframe' hwhole'' (hold.trans text))
      | created _ _ missing text => exact .inl (.created hframe' hwhole'' missing (hold.trans text))
      | torn _ torn _ _ => cases hwhole.symm.trans torn
    · refine .inr ⟨s, a, s', hparse, hupdater, hframe', ?_, hnew⟩
      rwa [torn_append, hwhole]

/-! ## The next load -/

variable (store) in
/-- What the next strict load returns or raises. -/
def strictLoad (d : Disk) : Except StoreError Buckets := (eval exec (store.load true) d).1

theorem exec_chmod_present {d : Disk} {path : Path}
    (h : (d.text path).isSome = true ∨ (d.dirs path).isSome = true) (mode : ℕ) :
    ∃ d', exec (.chmod path mode) d = some ((), d') ∧
      ∀ q, (d.dirs q).isSome = true → (d'.dirs q).isSome = true := by
  rw [exec]
  cases hfile : d.files path with
  | some file => exact ⟨_, rfl, fun _ => id⟩
  | none =>
    rw [Disk.text, hfile] at h
    have hdir : (d.dirs path).isSome = true := h.elim (fun h => by cases h) id
    refine ⟨_, if_pos hdir, fun q hq => ?_⟩
    by_cases hpath : q = path
    · subst hpath
      rw [Disk.dirs_setDir_self]
      rfl
    · rwa [Disk.dirs_setDir_of_ne _ hpath]

theorem eval_restrictPerms {d : Disk} {path : Path} (fatal : Bool)
    (h : (d.text path).isSome = true ∨ (d.dirs path).isSome = true) :
    ∃ d', eval exec (restrictPerms path fatal) d = (.ok (), d') ∧ (∀ q, d'.text q = d.text q) ∧
      ∀ q, (d.dirs q).isSome = true → (d'.dirs q).isSome = true := by
  obtain ⟨d', hchmod, hdirs⟩ := exec_chmod_present h (if (d.dirs path).isSome then 0o700 else 0o600)
  refine ⟨d', ?_, text_chmod hchmod, hdirs⟩
  rw [restrictPerms, eval]
  change eval exec (.command (.chmod path (if (d.dirs path).isSome then 0o700 else 0o600)) _) d = _
  rw [eval, hchmod]
  rfl

/-- With all its commands carried out, `_ensure_file` leaves the store file or creates it. -/
theorem eval_ensureFile {d : Disk} (frame : store.Framed d) :
    ∃ d', eval exec store.ensureFile d = (.ok (), d') ∧
      d'.text store.filePath = some ((d.text store.filePath).getD (store.dumps .initial)) := by
  -- Directory, file and modes, in the order of the source.
  obtain ⟨d₁, hmkdir, hparent, hframe, htext⟩ : ∃ d₁,
      exec (.mkdir (parent store.filePath) 0o700) d = some ((), d₁) ∧
      (d₁.dirs (parent store.filePath)).isSome = true ∧ store.Framed d₁ ∧
      d₁.text store.filePath = d.text store.filePath := by
    have hmkdir : exec (.mkdir (parent store.filePath) 0o700) d = some ((),
        if (d.dirs (parent store.filePath)).isSome then d
        else d.setDir (parent store.filePath) 0o700) := by
      rw [exec, frame.parent]
      rfl
    refine ⟨_, hmkdir, ?_, quiet_keeps _ (.mkdir (parent store.filePath) 0o700) _ _ _ rfl
      ⟨frame, rfl⟩ hmkdir⟩
    split_ifs with hdir
    · exact hdir
    · rw [Disk.dirs_setDir_self]
      rfl
  obtain ⟨d₂, hcreate, hparent₂, htext₂⟩ : ∃ d₂,
      eval exec (store.createMissing (d₁.text store.filePath).isSome) d₁ = (.ok (), d₂) ∧
      (d₂.dirs (parent store.filePath)).isSome = true ∧
      d₂.text store.filePath = some ((d₁.text store.filePath).getD (store.dumps .initial)) := by
    cases hmissing : d₁.text store.filePath with
    | some text => exact ⟨d₁, rfl, hparent, hmissing⟩
    | none =>
      let file : File := ⟨[], ((d₁.files store.filePath).map File.mode).getD 0o644⟩
      have hcreate : exec (.create store.filePath) d₁ =
          some ((), d₁.setFile store.filePath (some file)) := by
        rw [exec, hframe.file, if_neg]
        simpa [Option.isSome_iff_ne_none] using hparent
      have hwrite : exec (.write store.filePath (store.dumps .initial))
          (d₁.setFile store.filePath (some file)) =
          some ((), (d₁.setFile store.filePath (some file)).setFile store.filePath
            (some { file with text := store.dumps .initial })) := by
        rw [exec, Disk.files_setFile_self]
        rfl
      refine ⟨_, (eval_bind_ok (eval_perform hcreate _) _).trans (eval_perform hwrite _), hparent, ?_⟩
      exact Disk.text_setFile_self _ _ _
  have hpresent₂ : (d₂.text store.filePath).isSome = true := by
    rw [htext₂]
    rfl
  obtain ⟨d₃, hrestrict, htext₃, hdirs₃⟩ :=
    eval_restrictPerms store.requireSecurePermissions (.inl hpresent₂)
  obtain ⟨d₄, hrestrict', htext₄, -⟩ := eval_restrictPerms false (.inr (hdirs₃ _ hparent₂))
  refine ⟨d₄, ?_, by rw [htext₄, htext₃, htext₂, htext]⟩
  have hexist : exec (.exist store.filePath) d₁ = some ((d₁.text store.filePath).isSome, d₁) := by
    rw [exec, present_eq hframe]
  exact (eval_bind_ok (eval_perform hmkdir _) _).trans <|
    (eval_bind_ok (eval_perform hexist _) _).trans <|
    (eval_bind_ok hcreate _).trans <| (eval_bind_ok hrestrict _).trans hrestrict'

theorem eval_load {d : Disk} (frame : store.Framed d) (strict : Bool) :
    (eval exec (store.load strict) d).1 =
      store.parse strict ((d.text store.filePath).getD (store.dumps .initial)) := by
  obtain ⟨d', heval, htext⟩ := eval_ensureFile frame
  have hbind := eval_bind_ok heval fun _ => .command (.read store.filePath) fun text => text.elim
    (.ofExcept (if strict then .error .unreadable else .ok .initial))
    fun text => .ofExcept (store.parse strict text)
  refine (congrArg Prod.fst hbind).trans ?_
  rw [eval, exec, htext]
  dsimp only [Option.map, Option.elim]
  cases store.parse strict ((d.text store.filePath).getD (store.dumps .initial)) <;> rfl

theorem strictLoad_eq {d : Disk} (frame : store.Framed d) :
    store.strictLoad d = store.parse true ((d.text store.filePath).getD (store.dumps .initial)) :=
  eval_load frame true

/-- What is saved is loaded. -/
theorem parse_dumps {s : Buckets} (plain : s.Plain store.depth) :
    store.parse true (store.dumps s) = .ok s := by
  rw [parse, dumps, Json.loads_dumpsIndent _ _ plain]
  rfl

theorem plain_initial (depth : ℕ) : Buckets.initial.Plain depth :=
  ⟨by decide, ⟨List.nodup_nil, trivial⟩, ⟨List.nodup_nil, trivial⟩, ⟨List.nodup_nil, trivial⟩,
    ⟨List.nodup_nil, trivial⟩, ⟨List.nodup_nil, trivial⟩, trivial⟩

/-- An empty file does not load. -/
theorem parse_nil : store.parse true [] = .error .unreadable := by
  have hloads : Json.loads (store.depth + 2) [] = .error .value := by
    rw [Json.loads]
    rfl
  rw [parse, hloads]
  rfl

end JsonStore

namespace JsonStore

/-- The store in `.data/platform-store.json`. -/
def dataStore : JsonStore where
  filePath := [".data", "platform-store.json"]
  requireSecurePermissions := true
  depth := 900
  repr _ := "0.0"
  named := by decide

/-- A disk without files. -/
def emptyDisk : Disk := ⟨fun _ => none, fun _ => none⟩

end JsonStore

end Broker
