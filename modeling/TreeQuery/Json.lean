/-
JSON values and their written form: two spaces for each level, a line for each element and
field. Fields are written in ascending order of their keys.
-/
import TreeQuery.Text.Quoted

namespace TreeQuery

/-- A JSON value, without fractions. -/
inductive Json where
  | null
  | number (value : Nat)
  | string (text : String)
  | array (elements : List Json)
  | object (fields : List (String × Json))
deriving Repr

namespace Json

/-- How a character is written in a string. -/
def escape (c : Char) : List Char :=
  match c with
  | '"' => ['\\', '"']
  | '\\' => ['\\', '\\']
  | '\n' => ['\\', 'n']
  | '\r' => ['\\', 'r']
  | '\t' => ['\\', 't']
  | '\x08' => ['\\', 'b']
  | '\x0c' => ['\\', 'f']
  | _ =>
    if c < ' ' then
      let digits := Text.hexDigits c.toNat
      ['\\', 'u'] ++ List.replicate (4 - digits.length) '0' ++ digits
    else [c]

/-- A string in its written form. -/
def writeString (text : String) : String :=
  String.ofList ('"' :: text.toList.flatMap escape ++ ['"'])

/-- Puts a field among fields that are ascending by key. -/
def insertField (key : String) (value : Json) : List (String × Json) → List (String × Json)
  | [] => [(key, value)]
  | (k, v) :: rest =>
    if key < k then (key, value) :: (k, v) :: rest else (k, v) :: insertField key value rest

/-- An object of some fields, in ascending order of their keys. -/
def ofFields (fields : List (String × Json)) : Json :=
  .object (fields.foldr (fun (key, value) sorted => insertField key value sorted) [])

/-- What stands before a line at some level. -/
def indent (level : Nat) : String := String.ofList (List.replicate (2 * level) ' ')

/-- The parts between brackets, a line each. -/
def bracket (opening closing : String) (level : Nat) (parts : List String) : String :=
  if parts.isEmpty then opening ++ closing
  else
    let lines := parts.map fun part => "\n" ++ indent (level + 1) ++ part
    opening ++ String.intercalate "," lines ++ "\n" ++ indent level ++ closing

mutual

/-- A value in its written form, at some level. -/
def write (level : Nat) : Json → String
  | .null => "null"
  | .number n => toString n
  | .string text => writeString text
  | .array elements => bracket "[" "]" level (writeAll (level + 1) elements)
  | .object fields => bracket "\x7b" "\x7d" level (writeFields (level + 1) fields)

/-- Values in their written form. -/
def writeAll (level : Nat) : List Json → List String
  | [] => []
  | value :: rest => write level value :: writeAll level rest

/-- Fields in their written form. -/
def writeFields (level : Nat) : List (String × Json) → List String
  | [] => []
  | (key, value) :: rest => (writeString key ++ ": " ++ write level value) :: writeFields level rest

end

/-- A value as a text of its own. -/
def pretty (value : Json) : String := write 0 value

end Json

end TreeQuery
