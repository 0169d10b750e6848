import Broker.Lib.Crash
import Mathlib.Logic.Function.Basic

/-!
# Files

A file system with regular files and directories, and the operations of
`pathlib` and `os` on it, as the steps a program may be cut between. Opening a
file for writing truncates it, and its text is written in a second step.
-/

namespace Files

open Crash

/-- The components of a path. -/
abbrev Path := List String

/-- `path.parent`. -/
def parent (path : Path) : Path := path.dropLast

/-- A regular file. -/
structure File where
  text : List Char
  mode : ℕ
  deriving DecidableEq

/-- The regular files, and the directories with their modes. -/
structure Disk where
  files : Path → Option File
  dirs : Path → Option ℕ

inductive Command
  | mkdir (path : Path) (mode : ℕ)
  | exist (path : Path)
  | isDir (path : Path)
  /-- `open(path, "w")`. -/
  | create (path : Path)
  /-- `write(text)` to a file that has been opened so. -/
  | write (path : Path) (text : List Char)
  | read (path : Path)
  | chmod (path : Path) (mode : ℕ)
  | replace (source target : Path)
  deriving DecidableEq

/-- What the command returns. -/
abbrev Command.Reply : Command → Type
  | exist _ | isDir _ => Bool
  | read _ => List Char
  | _ => Unit

abbrev Program (ε α : Type) := Prog Command Command.Reply ε α

namespace Disk

/-- The disk with this regular file. -/
def setFile (d : Disk) (path : Path) (file : Option File) : Disk :=
  { d with files := Function.update d.files path file }

/-- The disk with this directory. -/
def setDir (d : Disk) (path : Path) (mode : ℕ) : Disk :=
  { d with dirs := Function.update d.dirs path (some mode) }

/-- The text of a regular file. -/
def text (d : Disk) (path : Path) : Option (List Char) := (d.files path).map File.text

@[simp] theorem dirs_setFile (d : Disk) (path : Path) (file : Option File) :
    (d.setFile path file).dirs = d.dirs := rfl

@[simp] theorem files_setDir (d : Disk) (path : Path) (mode : ℕ) :
    (d.setDir path mode).files = d.files := rfl

@[simp] theorem text_setDir (d : Disk) (path q : Path) (mode : ℕ) :
    (d.setDir path mode).text q = d.text q := rfl

theorem files_setFile_self (d : Disk) (path : Path) (file : Option File) :
    (d.setFile path file).files path = file := Function.update_self _ _ _

theorem dirs_setDir_self (d : Disk) (path : Path) (mode : ℕ) :
    (d.setDir path mode).dirs path = some mode := Function.update_self _ _ _

theorem files_setFile_of_ne (d : Disk) {path q : Path} (h : q ≠ path) (file : Option File) :
    (d.setFile path file).files q = d.files q := Function.update_of_ne h _ _

theorem dirs_setDir_of_ne (d : Disk) {path q : Path} (h : q ≠ path) (mode : ℕ) :
    (d.setDir path mode).dirs q = d.dirs q := Function.update_of_ne h _ _

theorem text_setFile_self (d : Disk) (path : Path) (file : File) :
    (d.setFile path (some file)).text path = some file.text := by
  rw [text, files_setFile_self, Option.map_some]

theorem text_setFile_of_ne (d : Disk) {path q : Path} (h : q ≠ path) (file : Option File) :
    (d.setFile path file).text q = d.text q := by
  rw [text, files_setFile_of_ne d h, text]

@[simp] theorem setFile_setFile (d : Disk) (path : Path) (file file' : Option File) :
    (d.setFile path file).setFile path file' = d.setFile path file' := by
  rw [setFile, setFile, setFile, Function.update_idem]

theorem setFile_comm (d : Disk) {path q : Path} (h : path ≠ q) (file file' : Option File) :
    (d.setFile path file).setFile q file' = (d.setFile q file').setFile path file := by
  rw [setFile, setFile, setFile, setFile, Function.update_comm h]

@[simp] theorem setDir_setDir (d : Disk) (path : Path) (mode mode' : ℕ) :
    (d.setDir path mode).setDir path mode' = d.setDir path mode' := by
  rw [setDir, setDir, setDir, Function.update_idem]

theorem setDir_setFile (d : Disk) (path q : Path) (mode : ℕ) (file : Option File) :
    (d.setFile q file).setDir path mode = (d.setDir path mode).setFile q file := rfl

end Disk

/-- What a command does when it is carried out; none when it cannot be. -/
def exec : (c : Command) → Disk → Option (c.Reply × Disk)
  | .mkdir path mode, d =>
    if (d.files path).isSome then none
    else some ((), if (d.dirs path).isSome then d else d.setDir path mode)
  | .exist path, d => some ((d.files path).isSome || (d.dirs path).isSome, d)
  | .isDir path, d => some ((d.dirs path).isSome, d)
  | .create path, d =>
    if (d.dirs path).isSome || (d.dirs (parent path)).isNone then none
    else some ((), d.setFile path (some ⟨[], ((d.files path).map File.mode).getD 0o644⟩))
  | .write path text, d =>
    (d.files path).map fun file => ((), d.setFile path (some { file with text }))
  | .read path, d => (d.text path).map fun text => (text, d)
  | .chmod path mode, d =>
    match d.files path with
    | some file => some ((), d.setFile path (some { file with mode }))
    | none => if (d.dirs path).isSome then some ((), d.setDir path mode) else none
  | .replace source target, d =>
    if (d.dirs target).isSome then none
    else (d.files source).map fun file => ((), (d.setFile source none).setFile target (some file))

/-- What a command does when new files are created with a mode, which is what the `umask` leaves
    of `0o666`. -/
def execAs (created : ℕ) : (c : Command) → Disk → Option (c.Reply × Disk)
  | .create path, d =>
    if (d.dirs path).isSome || (d.dirs (parent path)).isNone then none
    else some ((), d.setFile path (some ⟨[], ((d.files path).map File.mode).getD created⟩))
  | c, d => exec c d

/-- Nothing is both a file and a directory. -/
def Disk.WellFormed (d : Disk) : Prop := ∀ path, d.files path = none ∨ d.dirs path = none

/-! ## What the commands do -/

section

variable {d d' : Disk} {path source target : Path} {mode : ℕ} {text : List Char}

theorem exec_mkdir {reply : Unit} (h : exec (.mkdir path mode) d = some (reply, d')) :
    d' = d ∨ d' = d.setDir path mode := by
  rw [exec] at h
  split_ifs at h
  · exact .inl (congrArg Prod.snd (Option.some.inj h)).symm
  · exact .inr (congrArg Prod.snd (Option.some.inj h)).symm

theorem exec_create {reply : Unit} (h : exec (.create path) d = some (reply, d')) :
    ∃ mode, d' = d.setFile path (some ⟨[], mode⟩) := by
  rw [exec] at h
  split_ifs at h
  exact ⟨_, (congrArg Prod.snd (Option.some.inj h)).symm⟩

theorem exec_write {reply : Unit} (h : exec (.write path text) d = some (reply, d')) :
    ∃ mode, d' = d.setFile path (some ⟨text, mode⟩) := by
  obtain ⟨file, -, h⟩ := Option.map_eq_some_iff.1 h
  exact ⟨_, (congrArg Prod.snd h).symm⟩

theorem exec_chmod {reply : Unit} (h : exec (.chmod path mode) d = some (reply, d')) :
    (∃ file, d.files path = some file ∧ d' = d.setFile path (some { file with mode })) ∨
      (d.dirs path).isSome ∧ d' = d.setDir path mode := by
  rw [exec] at h
  split at h
  · exact .inl ⟨_, ‹_›, (congrArg Prod.snd (Option.some.inj h)).symm⟩
  · split_ifs at h with hdir
    exact .inr ⟨hdir, (congrArg Prod.snd (Option.some.inj h)).symm⟩

theorem exec_replace {reply : Unit} (h : exec (.replace source target) d = some (reply, d')) :
    ∃ file, d.files source = some file ∧ d' = (d.setFile source none).setFile target (some file) := by
  rw [exec] at h
  split_ifs at h
  obtain ⟨file, hfile, h⟩ := Option.map_eq_some_iff.1 h
  exact ⟨file, hfile, (congrArg Prod.snd h).symm⟩

/-- A change of mode keeps every text. -/
theorem text_chmod {reply : Unit} (h : exec (.chmod path mode) d = some (reply, d')) (q : Path) :
    d'.text q = d.text q := by
  rcases exec_chmod h with ⟨file, hfile, rfl⟩ | ⟨-, rfl⟩
  · by_cases hq : q = path
    · subst hq
      rw [Disk.text_setFile_self, Disk.text, hfile]
      rfl
    · exact Disk.text_setFile_of_ne _ hq _
  · rfl

end

/-! ## Well-formed disks -/

section WellFormed

variable {d d' : Disk} {path : Path}

theorem Disk.WellFormed.setFile (h : d.WellFormed) {file : Option File}
    (free : file = none ∨ d.dirs path = none) : (d.setFile path file).WellFormed := by
  intro q
  by_cases hq : q = path
  · subst hq
    rw [files_setFile_self]
    exact free
  · rw [files_setFile_of_ne d hq]
    exact h q

theorem Disk.WellFormed.setDir (h : d.WellFormed) (free : d.files path = none) (mode : ℕ) :
    (d.setDir path mode).WellFormed := by
  intro q
  by_cases hq : q = path
  · subst hq
    exact .inl free
  · rw [dirs_setDir_of_ne d hq]
    exact h q

theorem Disk.WellFormed.dirs_of_files (h : d.WellFormed) {file : File}
    (hfile : d.files path = some file) : d.dirs path = none := by
  rcases h path with hnone | hnone
  · cases hnone.symm.trans hfile
  · exact hnone

end WellFormed

end Files
