/-
Views: the tree of named, tagged members under which a file of some language appears. A
member is addressed by its names from the view's root down, each with its number among
earlier siblings of the same name, and so keeps its address as long as those stay the same,
whatever happens to the text.
-/
import TreeQuery.Tree.Concrete

namespace TreeQuery

open Text (Span)

/-- A member of a view. -/
structure Member where
  name : String
  /-- The kind of syntax node the member comes from. -/
  kind : String
  tags : List String
  /-- Where the member stands in the source. -/
  span : Span
  /-- Further properties, in ascending order of their keys. -/
  properties : List (String × String)
deriving DecidableEq, Repr, Inhabited

/-- A view of a source. -/
abbrev View := Rose Member

-- ========================================================== locations

/-- One step of an address: a name, and how many earlier siblings have it too. -/
structure Segment where
  name : String
  ordinal : Nat
deriving DecidableEq, Repr

/-- The way from a view's root to a member. -/
abbrev Location := List Segment

namespace Segment

/-- How a name is written in an address. The slash separates segments and brackets enclose the
ordinal, so neither stands for itself. -/
def escape (c : Char) : List Char :=
  if c = '%' then ['%', '2', '5']
  else if c = '/' then ['%', '2', 'F']
  else if c = '[' then ['%', '5', 'B']
  else if c = ']' then ['%', '5', 'D']
  else [c]

/-- The segment in an address. The first of its name goes without a number. -/
def write (segment : Segment) : List Char :=
  '/' :: segment.name.toList.flatMap escape ++
    if segment.ordinal = 0 then []
    else '[' :: Nat.toDigits 10 segment.ordinal ++ [']']

end Segment

/-- The address of a location under the address of the view's root. -/
def Location.address (root : String) (location : Location) : String :=
  String.ofList (root.toList ++ location.flatMap Segment.write)

namespace View

/-- The trees with their segments, given the names of the siblings before them. -/
def numberedAfter (earlier : List String) : List View → List (Segment × View)
  | [] => []
  | tree :: rest =>
    (⟨tree.label.name, earlier.count tree.label.name⟩, tree) ::
      numberedAfter (tree.label.name :: earlier) rest

/-- The children of a tree with their segments. -/
def numberedChildren (view : View) : List (Segment × View) := numberedAfter [] view.children

/-- The part of a view at a location. -/
def at? : View → Location → Option View
  | view, [] => some view
  | view, segment :: rest =>
    match view.numberedChildren.lookup segment with
    | some child => at? child rest
    | none => none

-- ============================================================ entries

/-- A member in the table of a view, with the indices of its parent and children. -/
structure Entry where
  member : Member
  parent : Option Nat
  children : List Nat
  location : Location
deriving DecidableEq, Repr

/-- The indices of trees that are listed one after the other from `index` on. -/
def indicesFrom (index : Nat) : List View → List Nat
  | [] => []
  | tree :: rest => index :: indicesFrom (index + tree.size) rest

mutual

/-- The entries of a tree in pre-order, where the root has the given index. -/
def entriesFrom (parent : Option Nat) (index : Nat) (location : Location) : View → List Entry
  | .node member children =>
    ⟨member, parent, indicesFrom (index + 1) children, location⟩ ::
      entriesOfAll index (index + 1) location [] children

/-- The entries of the children of the member at `parent`, listed from `index` on, given the
names of the siblings before them. -/
def entriesOfAll (parent index : Nat) (location : Location) (earlier : List String) :
    List View → List Entry
  | [] => []
  | tree :: rest =>
    entriesFrom (some parent) index
        (location ++ [⟨tree.label.name, earlier.count tree.label.name⟩]) tree ++
      entriesOfAll parent (index + tree.size) location (tree.label.name :: earlier) rest

end

/-- The table of a view: its members in pre-order. -/
def entries (view : View) : List Entry := entriesFrom none 0 [] view

/-- The index of the member with an address. -/
def indexOf? (view : View) (root address : String) : Option Nat :=
  view.entries.findIdx? fun entry => entry.location.address root = address

/-- The first entry below the root that covers exactly a span, those of the given kind before
all others. -/
def findBySpan? (view : View) (span : Span) (kind : String) : Option (Nat × Entry) :=
  let covering := (view.entries.zipIdx.map fun (entry, index) => (index, entry)).filter
    fun (index, entry) => index != 0 && entry.member.span == span
  (covering.find? fun (_, entry) => entry.member.kind == kind).or covering.head?

end View

end TreeQuery
