/-
Reading configurations. A section is a table with the fields by name, or an array with the
values of the fields in their order; fields that are missing have their default, and fields
that are not known do not count.
-/
import TreeQuery.Config.Basic
import TreeQuery.Query.Registry
import TreeQuery.Microgrammar.Basic
import TreeQuery.Toml.Parser

namespace TreeQuery

open Toml (Value)

-- ============================================================ decoding

namespace Toml.Value

/-- The fields of a section. -/
def fields? (names : List String) : Value → Option (List (String × Value))
  | .table entries => some entries
  | .array values => some (names.zip values)
  | _ => none

def boolean? : Value → Option Bool
  | .boolean b => some b
  | _ => none

def string? : Value → Option String
  | .string text => some text
  | _ => none

/-- The value of an integer that is not negative. -/
def nat? : Value → Option Nat
  | .integer n => if 0 ≤ n then some n.toNat else none
  | _ => none

/-- The elements of an array, each read. -/
def array? {α : Type} (read : Value → Option α) : Value → Option (List α)
  | .array values => values.mapM read
  | _ => none

/-- The entries of a table of texts, in ascending order of their keys. -/
def strings? : Value → Option (List (String × String))
  | .table entries => do
    let pairs ← entries.mapM fun (key, value) => value.string?.map ((key, ·))
    some (Microgrammar.sortSubmatchers pairs)
  | _ => none

end Toml.Value

namespace Config

/-- A field that has to be there. -/
def required {α : Type} (read : Value → Option α) (name : String)
    (fields : List (String × Value)) : Option α :=
  (fields.lookup name).bind read

/-- A field that has a default. -/
def optional {α : Type} (read : Value → Option α) (default : α) (name : String)
    (fields : List (String × Value)) : Option α :=
  match fields.lookup name with
  | none => some default
  | some value => read value

def readLoadOptions (value : Value) : Option LoadOptions := do
  let fields ← value.fields? ["ignore", "max_file_bytes"]
  let standard : LoadOptions := {}
  some {
    ignore := ← optional (Toml.Value.array? Toml.Value.string?) standard.ignore "ignore" fields
    maxFileBytes := ← optional Toml.Value.nat? standard.maxFileBytes "max_file_bytes" fields }

/-- Whether later matches with a repeated address are dropped, and whether the views of every
language are known. -/
def readEngine (value : Value) : Option (Bool × Bool) := do
  let fields ← value.fields? ["dedupe_by_address", "default_types"]
  some (← optional Toml.Value.boolean? false "dedupe_by_address" fields,
    ← optional Toml.Value.boolean? true "default_types" fields)

def readMicrogrammar (value : Value) : Option MicrogrammarDefinition := do
  let fields ← value.fields? ["name", "grammar", "submatchers"]
  some {
    name := ← required Toml.Value.string? "name" fields
    grammar := ← required Toml.Value.string? "grammar" fields
    submatchers := ← optional Toml.Value.strings? [] "submatchers" fields }

def readPattern (value : Value) : Option PatternDefinition := do
  let fields ← value.fields? ["name", "language", "pattern"]
  some {
    name := ← required Toml.Value.string? "name" fields
    language := ← required Toml.Value.string? "language" fields
    pattern := ← required Toml.Value.string? "pattern" fields }

/-- The configuration that a document describes. -/
def ofDocument? (document : Toml.Document) : Option Config := do
  let (dedupe, defaultTypes) ← optional readEngine (false, true) "engine" document
  some {
    dedupe
    defaultTypes
    load := ← optional readLoadOptions {} "project" document
    microgrammars :=
      ← optional (Toml.Value.array? readMicrogrammar) [] "microgrammars" document
    patterns := ← optional (Toml.Value.array? readPattern) [] "patterns" document }

end Config

-- ============================================================== errors

/-- Why there is no configuration. -/
inductive ConfigError where
  /-- The file at `path` cannot be read. -/
  | unreadable (path cause : String)
  /-- The text is no document of the right shape; `path` is where it was read from, if that was a
  file. -/
  | malformed (path : Option String)
  | invalid (path : Option String) (issues : List ConfigIssue)
deriving DecidableEq, Repr

namespace ConfigError

/-- The issues, a line each. -/
def describeIssues (issues : List ConfigIssue) : String :=
  String.intercalate "\n" (issues.map ConfigIssue.message)

/-- Where a configuration was read from, in a message. -/
def origin : Option String → String
  | some path => " (" ++ path ++ ")"
  | none => ""

def message : ConfigError → String
  | .unreadable path cause => "failed to read config from " ++ path ++ ": " ++ cause
  | .malformed path => "failed to parse config TOML" ++ origin path
  | .invalid path issues => "invalid config" ++ origin path ++ ": " ++ describeIssues issues

end ConfigError

namespace Config

/-- The configuration that a text describes; `path` is where the text was read from, if that was
a file. -/
def parse (text : String) (path : Option String) : Except ConfigError Config :=
  match (Toml.parse? text).bind ofDocument? with
  | none => .error (.malformed path)
  | some config =>
    match config.issues with
    | [] => .ok config
    | issues => .error (.invalid path issues)

end Config

end TreeQuery
