/-
Directory trees as a program finds them on a disk: files of bytes and directories, by path from
the root of the disk down. The names are bytes, as the system keeps them.

A program runs in a directory of the disk, and a path text leads on from there, or from the root if
it starts with a slash.

There are no links here, no permissions and no times: what is listed can be read, and what can be
written is told from what is listed.
-/
import TreeQuery.Project.Path
import TreeQuery.Text.Native

namespace TreeQuery

/-- The names from the root of a disk down. -/
abbrev DiskPath := List NativeText

/-- What the names on the way to something are shown as. -/
def DiskPath.shown (path : DiskPath) : ProjectPath := path.map NativeText.shown

/-- The names of a path of a project, as they stand on a disk. -/
def ProjectPath.onDisk (path : ProjectPath) : DiskPath := path.map NativeText.ofString

/-- What stands at a path of a disk. -/
inductive DiskItem where
  | file (bytes : ByteArray)
  | directory

/-- The files and directories of a disk. A directory with something in it need not be listed, nor
need the one in which a program runs. -/
structure Disk where
  items : List (DiskPath × DiskItem) := []
  /-- The directory in which a program runs. -/
  workingDirectory : DiskPath := []

/-- Why a disk does not give what was asked for. -/
inductive DiskError where
  | notFound
  /-- A file stands where a directory is needed. -/
  | notDirectory
  /-- A directory stands where a file is needed. -/
  | isDirectory
  /-- The bytes of a file are not UTF-8. -/
  | notText
deriving DecidableEq, Repr

namespace DiskError

def message : DiskError → String
  | .notFound => "No such file or directory (os error 2)"
  | .notDirectory => "Not a directory (os error 20)"
  | .isDirectory => "Is a directory (os error 21)"
  | .notText => "stream did not contain valid UTF-8"

end DiskError

namespace Disk

/-- The bytes of the file at a path. -/
def file? (disk : Disk) (path : DiskPath) : Option ByteArray :=
  match disk.items.lookup path with
  | some (.file bytes) => some bytes
  | _ => none

/-- Whether there is a file or directory at a path. -/
def holds (disk : Disk) (path : DiskPath) : Bool :=
  path.isPrefixOf disk.workingDirectory || disk.items.any fun item => path.isPrefixOf item.1

/-- The files at and below a path, by the rest of their paths and as they are listed. -/
def filesUnder (disk : Disk) (root : DiskPath) : List (DiskPath × ByteArray) :=
  disk.items.filterMap fun (path, item) =>
    match item with
    | .file bytes => if root.isPrefixOf path then some (path.drop root.length, bytes) else none
    | .directory => none

/-- Puts a file before those with greater paths. -/
def insertFile (file : DiskPath × ByteArray) :
    List (DiskPath × ByteArray) → List (DiskPath × ByteArray)
  | [] => [file]
  | other :: rest =>
    if file.1 < other.1 then file :: other :: rest else other :: insertFile file rest

/-- The files at and below a path in the order of a walk: name by name, what is below a directory
together. -/
def filesBelow (disk : Disk) (root : DiskPath) : List (DiskPath × ByteArray) :=
  (disk.filesUnder root).foldr insertFile []

-- ============================================================= writing

/-- The disk with other bytes in the file at a path, which is made if need be. -/
def write (disk : Disk) (path : DiskPath) (bytes : ByteArray) : Disk :=
  if disk.items.any (·.1 == path) then
    { disk with
      items := disk.items.map fun item => if item.1 = path then (path, .file bytes) else item }
  else { disk with items := disk.items ++ [(path, .file bytes)] }

/-- Writes a file that is there, or makes one in a directory that is there. -/
def save (disk : Disk) (path : DiskPath) (bytes : ByteArray) : Except DiskError Disk :=
  if (disk.file? path).isSome then .ok (disk.write path bytes)
  else if disk.holds path then .error .isDirectory
  else if (disk.file? path.dropLast).isSome then .error .notDirectory
  else if disk.holds path.dropLast then .ok (disk.write path bytes)
  else .error .notFound

-- ========================================================== path texts

/-- The byte between the names of a path text. -/
def slash : UInt8 := 0x2F

/-- The name by which a directory is in itself. -/
def here : NativeText := NativeText.ofString "."

/-- The name by which the directory above is in each. -/
def above : NativeText := NativeText.ofString ".."

/-- The path one name further on. The empty name and a single dot stay where they are and two dots
go back, except from the root of the disk; all three need a directory to start from. -/
def enter (disk : Disk) (path : DiskPath) (name : NativeText) : Except DiskError DiskPath :=
  if (disk.file? path).isSome then .error .notDirectory
  else if name = [] || name = here then .ok path
  else if name = above then .ok path.dropLast
  else if disk.holds (path ++ [name]) then .ok (path ++ [name])
  else .error .notFound

/-- The names that a path text consists of, empty ones included. -/
def namesOf (text : NativeText) : List NativeText := text.splitOn slash

/-- Where a path text starts from. -/
def start (disk : Disk) (text : NativeText) : DiskPath :=
  if text.head? == some slash then [] else disk.workingDirectory

/-- The place that a path text leads to. -/
def resolve (disk : Disk) (text : NativeText) : Except DiskError DiskPath :=
  if text.isEmpty then .error .notFound else (namesOf text).foldlM disk.enter (disk.start text)

/-- The text of the file that a path text leads to. -/
def readText (disk : Disk) (text : NativeText) : Except DiskError String := do
  match disk.file? (← disk.resolve text) with
  | none => .error .isDirectory
  | some bytes =>
    match String.fromUTF8? bytes with
    | some content => .ok content
    | none => .error .notText

/-- The name at the end of a path text, if it ends in one. -/
def lastName? (text : NativeText) : Option NativeText :=
  match ((namesOf text).filter fun name => name != [] && name != here).getLast? with
  | none => none
  | some last => if last = above then none else some last

/-- The path text that leads on from another one. -/
def join (text below : NativeText) : NativeText :=
  if text.isEmpty || text.getLast? == some slash then text ++ below else text ++ slash :: below

end Disk

end TreeQuery
