/-
Running a request on a disk. Queries and type lists leave the disk as it is; an update
changes it only if it was asked to write, and only after all matches have been updated.
The files are then written one after the other, each to where the path leads under which
the project knows it.
-/
import TreeQuery.Cli.Arguments
import TreeQuery.Cli.Report
import TreeQuery.Config.Engine
import TreeQuery.Diff.Unified

namespace TreeQuery.Cli

/-- What a run of the program leaves behind. -/
structure Outcome where
  /-- The exit code. -/
  code : Nat := 0
  stdout : String := ""
  stderr : String := ""
  disk : Disk
  /-- Why a file could not be written, if one could not. -/
  unwritten : Option DiskError := none

-- ============================================================== set-up

/-- Where a configuration is looked for if none is named. -/
def defaultConfig : NativeText := NativeText.ofString "pathexpr.toml"

/-- The configuration at a path text. -/
def configAt (disk : Disk) (path : NativeText) : Except Failure Config :=
  match disk.readText path with
  | .error e => .error (.ofConfigError (.unreadable path.shown e.message))
  | .ok text => (Config.parse text (some path.shown)).mapError .ofConfigError

/-- The configuration that is named, or else the one below the root, or else the standard one. -/
def findConfig (disk : Disk) (named : Option NativeText) (root : NativeText) :
    Except Failure Config :=
  match named with
  | some path => configAt disk path
  | none =>
    let path := Disk.join root defaultConfig
    match disk.resolve path with
    | .ok _ => configAt disk path
    | .error _ => .ok {}

/-- The engine and the workspace of a request. -/
def openProject (grammars : Grammars) (disk : Disk) (root : NativeText)
    (config : Option NativeText) : Except Failure (Engine grammars × Workspace grammars) := do
  let config ← findConfig disk config root
  let engine ← (Engine.ofConfig config).mapError .ofEngineError
  let project ← (Project.load disk config.load root).mapError (.ofLoadError root)
  return (engine, { project := project })

/-- The node that requests look from. -/
def rootNode : Node := .directory []

-- ============================================================= queries

/-- What a query writes. -/
def query {grammars : Grammars} (engine : Engine grammars) (expression : String) (json : Bool) :
    ExceptT EngineError (Act grammars) String := do
  let found ← engine.evaluate expression rootNode
  if json then
    let values ← (found.mapM matchValue : Act grammars (List Json))
    return (Json.array values).pretty ++ "\n"
  else
    let lines ← (found.mapM describeMatch : Act grammars (List String))
    return String.join lines ++ toString found.length ++ " match(es) for " ++ expression ++ "\n"

-- ============================================================= updates

/-- How many kept lines a diff shows around changes. -/
def diffRadius : Nat := 2

/-- The lines of a diff, which end in a line feed each. -/
def diffLines (path before after : String) : String :=
  let diff := Diff.unified diffRadius ("a/" ++ path) ("b/" ++ path) before after
  String.join ((Text.lines diff.toList).map fun line => String.ofList line ++ "\n")

/-- Updates a match. -/
def updateNode {grammars : Grammars} (value : String) (node : Node) :
    Act grammars (Except Failure Unit) :=
  match node.asText? with
  | none => do
    let message := node.address ++ " is not a text node and cannot be updated"
    return .error { message }
  | some text => do
    let result ← (Act.update text value).run
    return result.mapError .ofNodeError

/-- Updates every match of an expression, and says how many there were. -/
def updateMatches {grammars : Grammars} (engine : Engine grammars) (expression value : String)
    (w : Workspace grammars) : Except Failure (Nat × Workspace grammars) :=
  match (engine.visitMatches expression rootNode (updateNode value)).run w with
  | (.error e, _) => .error (.ofEngineError e)
  | (.ok (_, some failure), _) => .error failure
  | (.ok (visited, none), w) => .ok (visited.length, w)

/-- The files that an update has changed, with their texts before and after. -/
def changedFiles {grammars : Grammars} (before after : Workspace grammars) :
    List (ProjectPath × String × String) :=
  after.project.dirtyFiles.map fun path => (path, before.content path, after.content path)

/-- Writes the changed files of a project below `place`, up to the first that cannot be written. -/
def writeFiles (disk : Disk) (place : DiskPath) :
    List (ProjectPath × String × String) → Disk × Option DiskError
  | [] => (disk, none)
  | (path, _, text) :: rest =>
    match disk.save (place ++ path.onDisk) text.toUTF8 with
    | .error e => (disk, some e)
    | .ok disk => writeFiles disk place rest

/-- What an update leaves behind. -/
def update {grammars : Grammars} (disk : Disk) (engine : Engine grammars)
    (w : Workspace grammars) (expression value : String) (root : NativeText)
    (diff write : Bool) : Except Failure Outcome := do
  let (count, after) ← updateMatches engine expression value w
  let changed := changedFiles w after
  let summary := "Updated " ++ toString count ++ " node(s) in " ++ toString changed.length ++
    " file(s)\n"
  let diffs := if diff then
      String.join (changed.map fun (path, old, new) => diffLines (ProjectPath.write path) old new)
    else ""
  if changed.isEmpty then return { stdout := summary ++ diffs, disk }
  if !write then
    let note := "Dry run, nothing written (pass --write to save)\n"
    return { stdout := summary ++ diffs ++ note, disk }
  let place := (disk.resolve root).toOption.getD []
  match writeFiles disk place changed with
  | (disk, some e) =>
    let failure := Failure.ofWriteError e
    return ⟨failure.code, summary ++ diffs, failure.write, disk, some e⟩
  | (disk, none) =>
    let written := changed.map fun (path, _) =>
      "  wrote " ++ (Disk.join root (.ofString (ProjectPath.write path))).shown ++ "\n"
    return { stdout := summary ++ diffs ++ String.join written, disk }

-- ============================================================ requests

/-- What a request leaves behind. -/
def perform (grammars : Grammars) (disk : Disk) : Request → Except Failure Outcome
  | .query expression root config json => do
    let (engine, w) ← openProject grammars disk root config
    let (result, _) := (query engine expression json).run w
    return { stdout := ← result.mapError .ofEngineError, disk }
  | .update expression value root config diff write => do
    let (engine, w) ← openProject grammars disk root config
    update disk engine w expression value root diff write
  | .types config => do
    let config ← findConfig disk config defaultRoot
    let engine : Engine grammars ← (Engine.ofConfig config).mapError .ofEngineError
    return { stdout := String.join (engine.registry.typeNames.map fun name => name ++ "\n"), disk }

/-- The version of the program. -/
def versionText : String := "pathexpr 0.1.0\n"

/-- How the program is used. -/
def helpText : String :=
  "Query and edit project trees with path expressions\n\n" ++
  "Usage: pathexpr query EXPRESSION [-r ROOT] [-c CONFIG] [--json]\n" ++
  "       pathexpr update EXPRESSION VALUE [-r ROOT] [-c CONFIG] [-d] [-w]\n" ++
  "       pathexpr types [-c CONFIG]\n"

/-- Runs the program on a disk. -/
def run (grammars : Grammars) (disk : Disk) (arguments : List NativeText) : Outcome :=
  match parse arguments with
  | .error .version => { stdout := versionText, disk }
  | .error .help => { stdout := helpText, disk }
  | .error .misuse => { code := 2, stderr := helpText, disk }
  | .ok request =>
    match perform grammars disk request with
    | .ok outcome => outcome
    | .error failure => { code := failure.code, stderr := failure.write, disk }

end TreeQuery.Cli
