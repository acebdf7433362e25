/-
The program: runs a request on the files below the working directory, and writes back those
that the run has changed. No parser is linked in, so the view of a file is its root alone
and structural patterns are not understood. Names come in as texts, for that is what this
system's library gives.
-/
import TreeQuery.Cli.Run

namespace TreeQuery.Cli

/-- Parsers that see a source as one node. -/
def plainGrammars : Grammars where
  parse _ source := .node ⟨"source", .whole source, true, false, false, none⟩ []
  find _ _ _ := none

/-- What stands at and below an entry of a directory. -/
partial def itemsOf (above : DiskPath) (entry : IO.FS.DirEntry) :
    IO (List (DiskPath × DiskItem)) := do
  let path := above ++ [NativeText.ofString entry.fileName]
  if ← entry.path.isDir then
    let below ← (← entry.path.readDir).toList.mapM (itemsOf path)
    return (path, .directory) :: below.flatten
  else return [(path, .file (← IO.FS.readBinFile entry.path))]

/-- The names from the root of the disk to a directory of the program's system. -/
def placeOf (directory : String) : DiskPath :=
  (Disk.namesOf (NativeText.ofString directory)).filter (· != [])

/-- The files and directories below the working directory. -/
def readDisk : IO Disk := do
  let directory ← IO.currentDir
  let place := placeOf directory.toString
  let items ← (← directory.readDir).toList.mapM (itemsOf place)
  return { items := items.flatten, workingDirectory := place }

/-- Writes the files of a disk that differ from those of another one. -/
def writeChanges (before after : Disk) : IO Unit :=
  after.items.forM fun (path, item) =>
    match item with
    | .directory => return
    | .file bytes => do
      unless (before.file? path).any fun old => old.data == bytes.data do
        IO.FS.writeBinFile ("/" ++ ProjectPath.write path.shown) bytes

end TreeQuery.Cli

/-- Runs the program on its arguments. -/
def main (arguments : List String) : IO UInt32 := do
  let disk ← TreeQuery.Cli.readDisk
  let outcome := TreeQuery.Cli.run TreeQuery.Cli.plainGrammars disk
    (arguments.map TreeQuery.NativeText.ofString)
  TreeQuery.Cli.writeChanges disk outcome.disk
  IO.print outcome.stdout
  IO.eprint outcome.stderr
  return outcome.code.toUInt32
