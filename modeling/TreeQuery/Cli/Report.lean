/-
What the program writes: matches for people and for programs, and failures with their
causes.
-/
import TreeQuery.Engine
import TreeQuery.Config.Read
import TreeQuery.Json

namespace TreeQuery.Cli

variable {grammars : Grammars}

-- ============================================================= matches

/-- How many characters of a value are shown at most. -/
def previewLength : Nat := 80

/-- The first line of a value, cut if it is long, with dots if anything is left out. -/
def preview (value : String) : String :=
  let lines := Text.lines value.toList
  let line := lines.head?.getD []
  let cut := line.length > previewLength || lines.length > 1
  String.ofList (line.take previewLength) ++ if cut then "..." else ""

/-- A match, in a line, and its value in a second one if it has a text. -/
def describeMatch (node : Node) : Act grammars String := do
  let tags := String.intercalate ", " ((← get).tags node)
  let head := node.address ++ " [" ++ tags ++ "] "
  match node.asText? with
  | none => return head ++ "\n"
  | some text =>
    let place := match ← Act.extent text with
      | some extent => toString extent.start.line ++ ":" ++ toString extent.start.column
      | none => ""
    return head ++ place ++ "\n    " ++ preview (← Act.value text) ++ "\n"

/-- A position as a value. -/
def positionValue (position : Layout.Position) : Json :=
  .ofFields [("offset", .number position.offset), ("line_number_from1", .number position.line),
    ("column_number_from1", .number position.column), ("indent_depth", .number position.depth),
    ("indent", .string position.indent)]

/-- An extent as a value. -/
def extentValue (extent : Layout.Extent) : Json :=
  .ofFields [("start", positionValue extent.start), ("end", positionValue extent.stop)]

/-- A match as a value. -/
def matchValue (node : Node) : Act grammars Json := do
  let w ← get
  let (value, extent) ← match node.asText? with
    | none => pure (.null, .null)
    | some text => do
      let value ← Act.value text
      let extent ← Act.extent text
      pure (.string value, (extent.map extentValue).getD .null)
  return .ofFields [("address", .string node.address), ("name", .string (w.name node)),
    ("tags", .array ((w.tags node).map .string)), ("value", value), ("format", extent)]

-- ============================================================ failures

/-- What went wrong, the causes from the outside in, and the exit code of a run that ends so. -/
structure Failure where
  message : String
  causes : List String := []
  code : Nat := 1
deriving DecidableEq, Repr

namespace Failure

/-- A message under a heading: lines after the first stand below its text. -/
def indented (first later message : String) : String :=
  first ++ String.intercalate ("\n" ++ later)
    ((message.toList.splitOn '\n').map String.ofList)

/-- A cause among several, with its number. -/
def numbered (cause : String) (number : Nat) : String :=
  let digits := toString number
  let padding := String.ofList (List.replicate (5 - digits.length) ' ')
  indented (padding ++ digits ++ ": ") "       " cause

/-- The failure as it is written. -/
def write (failure : Failure) : String :=
  "Error: " ++ failure.message ++ (match failure.causes with
    | [] => ""
    | [cause] => "\n\nCaused by:\n" ++ indented "    " "    " cause
    | causes => "\n\nCaused by:\n" ++
        String.intercalate "\n" (causes.zipIdx.map fun (cause, number) => numbered cause number))
  ++ "\n"

/-- The exit code of a run that is broken off rather than refused. -/
def brokenOffCode : Nat := 101

/-- The failure that an error of a node is. -/
def ofNodeError (error : NodeError) : Failure where
  message := error.message
  causes := match error with
    | .edit _ inner => [inner.message]
    | .language inner => [inner.message]
    | _ => []
  code := match error with
    | .brokenPattern _ => brokenOffCode
    | _ => 1

def ofEngineError (error : EngineError) : Failure :=
  match error with
  | .node inner => ofNodeError inner
  | _ => { message := error.message }

def ofConfigError (error : ConfigError) : Failure where
  message := error.message
  causes := match error with
    | .unreadable _ cause => [cause]
    | .malformed _ => []
    | .invalid _ issues => [ConfigError.describeIssues issues]

/-- The failure to load a project at a path text. -/
def ofLoadError (root : NativeText) (error : LoadError) : Failure where
  message := "failed to load project at " ++ root.shown
  causes := error.messages

/-- The failure to write a file. -/
def ofWriteError (error : DiskError) : Failure where
  message := "file I/O error: " ++ error.message
  causes := [error.message]

end Failure

end TreeQuery.Cli
