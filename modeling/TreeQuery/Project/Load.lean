/-
Loading: the text files below a directory as a project. Names on the ignore list are left
out together with all that is below them, and so are files that are too large or are not
UTF-8. The directory to load is never itself ignored.

A project names its files by texts, so a file is known in it by what its names are shown as.
-/
import TreeQuery.Disk
import TreeQuery.Project.Basic

namespace TreeQuery

/-- Which files of a directory are loaded. -/
structure LoadOptions where
  /-- Names of files and directories to leave out. -/
  ignore : List String := [".git", "target"]
  /-- Files of more bytes are left out. -/
  maxFileBytes : Nat := 1024 * 1024
deriving DecidableEq, Repr

namespace LoadOptions

/-- Whether a file is not left out by its name or size. -/
def admits (options : LoadOptions) (path : ProjectPath) (bytes : ByteArray) : Bool :=
  path.all (fun name => !options.ignore.contains name) && bytes.size ≤ options.maxFileBytes

end LoadOptions

/-- Why a directory cannot be loaded. -/
inductive LoadError where
  | project (error : ProjectError)
  /-- The path text of the directory leads nowhere. -/
  | walk (directory : NativeText) (error : DiskError)
deriving DecidableEq, Repr

namespace LoadError

/-- What went wrong and why, from the outside in. -/
def messages : LoadError → List String
  | .project error => [error.message]
  | .walk directory error =>
    let failure := "IO error for operation on " ++ directory.shown ++ ": " ++ error.message
    ["failed to walk project directory: " ++ failure, failure, error.message]

end LoadError

namespace Project

/-- The text of the files to load, by path. -/
def textsBelow (disk : Disk) (options : LoadOptions) (root : DiskPath) :
    List (ProjectPath × String) :=
  ((disk.filesBelow root).filter fun (path, bytes) => options.admits path.shown bytes).filterMap
    fun (path, bytes) => (String.fromUTF8? bytes).map ((path.shown, ·))

/-- Adds files one after the other. -/
def addAll (project : Project) : List (ProjectPath × String) → Except ProjectError Project
  | [] => .ok project
  | (path, content) :: rest => do
    let (_, project) ← project.add (ProjectPath.write path) content
    addAll project rest

/-- The name of a project loaded from a directory whose path text ends in no name. -/
def defaultName : String := "project"

/-- The project of the files at and below the place that a path text leads to. -/
def load (disk : Disk) (options : LoadOptions) (directory : NativeText) :
    Except LoadError Project :=
  match disk.resolve directory with
  | .error e => .error (.walk directory e)
  | .ok root =>
    let start := Project.empty (((Disk.lastName? directory).map NativeText.shown).getD defaultName)
    (addAll start (textsBelow disk options root)).mapError .project

end Project

end TreeQuery
