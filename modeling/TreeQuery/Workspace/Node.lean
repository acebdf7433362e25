/-
Nodes: what queries find and callers hold on to.

A node is a place, not a piece of text. Directories and files are places by their paths;
members of a view by their locations in the view of a file; occurrences of a microgrammar by
their number among those found in the text of another node; bindings by their name in an
occurrence. What a node holds of the text it was found in is what it remembers, under a
handle of its own: two nodes with one handle remember the same, and two nodes at one place
with different handles each remember what they have seen themselves.

What can be done with a node shows in its type: only text nodes have a value.
-/
import TreeQuery.Layout.Position
import TreeQuery.Microgrammar.Locate
import TreeQuery.Project.Basic
import TreeQuery.View.Member

namespace TreeQuery

open Text (Span)

/-- What tells apart nodes at one place. -/
abbrev Handle := Nat

/-- What a node in a view remembers. -/
structure Memory where
  /-- The member as it was seen last. -/
  member : Member
  /-- Its text as it was seen or written last. -/
  text : String
  /-- The span the node has written, and the generation that made. -/
  pinned : Option (Generation × Span) := none
  /-- Where it starts and stops in the file, as far as that has been worked out. -/
  extent : Slot Layout.Extent := {}
deriving DecidableEq, Repr

/-- A node in the view of a file. -/
structure MemberNode where
  handle : Handle
  file : ProjectPath
  language : Language
  location : Location
  /-- What the node remembers from when it was found. -/
  born : Memory
deriving DecidableEq, Repr

/-- A node with a text. -/
inductive TextNode where
  | file (path : ProjectPath)
  | member (node : MemberNode)
  /-- One of the occurrences of a microgrammar in the text of `context`. -/
  | occurrence (handle : Handle) (grammar : Microgrammar) (context : TextNode) (index : Nat)
      (born : Occurrence)
  /-- A binding of the occurrence that the other fields describe. -/
  | binding (handle : Handle) (grammar : Microgrammar) (context : TextNode) (index : Nat)
      (born : Occurrence) (name : String)
deriving Repr

/-- A node that a type has made up, which can be looked at and walked through but stands for
no text. -/
structure Detached where
  name : String
  address : String
  tags : List String
deriving DecidableEq, Repr

/-- A node. -/
inductive Node where
  | directory (path : ProjectPath)
  | text (node : TextNode)
  | detached (tree : Rose Detached)
deriving Repr

-- ========================================================== addresses

/-- The address of the root of a file's view. -/
def viewAddress (file : ProjectPath) (language : Language) : String :=
  ProjectPath.address file ++ "/" ++ language.viewType ++ "()"

namespace MemberNode

/-- Where the node stands. -/
def address (node : MemberNode) : String :=
  Location.address (viewAddress node.file node.language) node.location

end MemberNode

namespace TextNode

/-- The address of an occurrence. The first of its grammar goes without a number. -/
def occurrenceAddress (context : String) (grammar : Microgrammar) (index : Nat) : String :=
  context ++ "/" ++ grammar.name ++ "()" ++
    if index = 0 then "" else "[" ++ toString index ++ "]"

/-- Where the node stands. -/
def address : TextNode → String
  | .file path => ProjectPath.address path
  | .member node => node.address
  | .occurrence _ grammar context index _ => occurrenceAddress context.address grammar index
  | .binding _ grammar context index _ name =>
    occurrenceAddress context.address grammar index ++ "/" ++ name

/-- How many nodes lie above the node at most. -/
def depth : TextNode → Nat
  | .file path => path.length
  | .member node => node.file.length + node.location.length + 1
  | .occurrence _ _ context _ _ => context.depth + 1
  | .binding _ _ context _ _ _ => context.depth + 2

end TextNode

namespace Node

/-- A file as a node. -/
def file (path : ProjectPath) : Node := .text (.file path)

/-- Where the node stands. -/
def address : Node → String
  | .directory path => ProjectPath.address path
  | .text node => node.address
  | .detached tree => tree.label.address

/-- How many nodes lie above the node at most. -/
def depth : Node → Nat
  | .directory path => path.length
  | .text node => node.depth
  | .detached _ => 0

-- ======================================================= capabilities

/-- Whether the node knows its parent. -/
def isParentAware : Node → Bool
  | .detached _ => false
  | _ => true

/-- The node as one with a text, if it has one. -/
def asText? : Node → Option TextNode
  | .text node => some node
  | _ => none

/-- The path of the file that the node is, if it is one. -/
def asFile? : Node → Option ProjectPath
  | .text (.file path) => some path
  | _ => none

end Node

-- ============================================================== errors

/-- Why something cannot be done with a node. -/
inductive NodeError where
  /-- The place of the node is gone. -/
  | stale (address : String)
  | readOnly (address : String)
  | edit (address : String) (error : EditError)
  | language (error : UnknownLanguage)
  /-- A type's own reason. -/
  | backend (message : String)
  /-- The text of a structural pattern is not understood. -/
  | brokenPattern (pattern : String)
deriving DecidableEq, Repr

namespace NodeError

def message : NodeError → String
  | .stale address => "node at " ++ address ++ " no longer exists; re-query after mutation"
  | .readOnly address => "node at " ++ address ++ " is read-only"
  | .edit address error => "edit failed at " ++ address ++ ": " ++ error.message
  | .language error => "tree-sitter error: " ++ error.message
  | .backend message => message
  | .brokenPattern pattern => "pattern '" ++ pattern ++ "' is not understood"

end NodeError

end TreeQuery
