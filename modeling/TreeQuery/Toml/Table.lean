/-
Tables while a document is read. A table can be opened by a header, by the header of a table
below it, or by a dotted key, and how it was opened decides what may still be added: a
header opens a table once; a dotted key adds only to tables that dotted keys opened; values
written in place, tables and arrays among them, are closed.
-/
import TreeQuery.Toml.Value

namespace TreeQuery.Toml

/-- What stands under a key while a document is read. -/
inductive Item where
  | value (value : Value)
  /-- A table, whether it has had no header of its own so far, and whether dotted keys opened
  it. -/
  | table (implied dotted : Bool) (entries : List (String × Item))
  /-- The tables of an array with a header each, the latest first. -/
  | tables (tables : List (List (String × Item)))

/-- The entries of a table while a document is read. -/
abbrev Entries := List (String × Item)

namespace Entries

/-- Puts another item under a key that is there already. -/
def replace (entries : Entries) (key : String) (item : Item) : Entries :=
  entries.map fun entry => if entry.1 = key then (key, item) else entry

/-- Adds an item under a key that is not there yet. -/
def add (entries : Entries) (key : String) (item : Item) : Entries := entries ++ [(key, item)]

/-- Changes the table at a path, opening the tables on the way that are missing. `dotted` is
whether the path is part of a dotted key; `change` is told whether dotted keys opened the table
it changes. -/
def update (change : Bool → Entries → Option Entries) (dotted : Bool) :
    List String → Bool → Entries → Option Entries
  | [], opened, entries => change opened entries
  | key :: path, _, entries =>
    match entries.lookup key with
    | none => (update change dotted path dotted []).map fun below =>
        entries.add key (.table true dotted below)
    | some (.table implied opened below) =>
      if dotted && !implied then none
      else (update change dotted path opened below).map fun below =>
        entries.replace key (.table implied opened below)
    | some (.tables (below :: earlier)) =>
      if dotted then none
      else (update change dotted path false below).map fun below =>
        entries.replace key (.tables (below :: earlier))
    | some (.tables []) => none
    | some (.value _) => none

/-- Opens the table of a header. -/
def openTable (key : String) (entries : Entries) : Option Entries :=
  match entries.lookup key with
  | none => some (entries.add key (.table false false []))
  | some (.table true false below) => some (entries.replace key (.table false false below))
  | some _ => none

/-- Opens one more table of an array. -/
def openElement (key : String) (entries : Entries) : Option Entries :=
  match entries.lookup key with
  | none => some (entries.add key (.tables [[]]))
  | some (.tables earlier) => some (entries.replace key (.tables ([] :: earlier)))
  | some _ => none

/-- Puts a value under the last name of a key, in the table that the names before it lead to. -/
def put (path : List String) (key : String) (value : Value) : Entries → Option Entries :=
  update (fun opened entries =>
    if opened = path.isEmpty || (entries.lookup key).isSome then none
    else some (entries.add key (.value value))) true path false

end Entries

mutual

/-- The value that an item is once the document has been read. -/
def Item.toValue : Item → Value
  | .value v => v
  | .table _ _ entries => .table (Entries.toValues entries)
  | .tables tables => .array (Entries.toTables tables [])

/-- The values of entries. -/
def Entries.toValues : List (String × Item) → List (String × Value)
  | [] => []
  | (key, item) :: rest => (key, Item.toValue item) :: Entries.toValues rest

/-- The tables of an array, given the ones that come after them. -/
def Entries.toTables : List (List (String × Item)) → List Value → List Value
  | [], later => later
  | entries :: earlier, later => Entries.toTables earlier (.table (Entries.toValues entries) :: later)

end

end TreeQuery.Toml
