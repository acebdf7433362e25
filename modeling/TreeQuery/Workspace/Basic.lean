/-
Workspaces: a project together with all that is remembered about it. The view of a file is
worked out when somebody looks at it and held under the generation of the text; it is given
out again as long as the file keeps that generation. Beside views, a workspace holds what
nodes remember of texts that may be gone, and programs and patterns read before. It keeps its
project as long as there are nodes, so what stands above a node can always be reached.

This module holds the questions that change nothing.
-/
import TreeQuery.Expression.Parser
import TreeQuery.Tree.Pattern
import TreeQuery.View.Projection
import TreeQuery.Workspace.Node

namespace TreeQuery

open Text (Span)

/-- A project and what is remembered about it. -/
structure Workspace (grammars : Grammars) where
  project : Project
  /-- What nodes in views remember now, if it is not what they remember from when they were
  found. -/
  memories : List (Handle × Memory) := []
  /-- What occurrences are now, if they are not what they were when they were found. -/
  occurrences : List (Handle × Occurrence) := []
  /-- No node has this handle or a later one. -/
  nextHandle : Handle := 0
  programs : Expression.ProgramCache := .empty
  patterns : PatternCache grammars := .empty
  /-- The views worked out so far, by file and language. -/
  views : List ((ProjectPath × Language) × Slot View) := []

/-- Something done in a workspace. -/
abbrev Act (grammars : Grammars) := StateM (Workspace grammars)

namespace Workspace

variable {grammars : Grammars}

-- ============================================================== texts

/-- The document of a file; an empty one if there is no such file. -/
def document (w : Workspace grammars) (file : ProjectPath) : Document :=
  (w.project.document? file).getD { path := ProjectPath.write file, content := "" }

/-- The text of a file. -/
def content (w : Workspace grammars) (file : ProjectPath) : String := (w.document file).content

/-- The room for the view of a file in a language. -/
def viewSlot (w : Workspace grammars) (file : ProjectPath) (language : Language) : Slot View :=
  (w.views.lookup (file, language)).getD {}

/-- The view of a file: the one held for the generation of its text, else one worked out from
the text. -/
def view (w : Workspace grammars) (file : ProjectPath) (language : Language) : View :=
  ((w.viewSlot file language).get? (w.document file).generation).getD
    (grammars.view language (w.content file))

/-- What a node in a view remembers of a member seen in the current text. -/
def observe (w : Workspace grammars) (file : ProjectPath) (member : Member) : Memory where
  member
  text := (Text.slice? (w.content file) member.span).getD ""

-- ================================================== members of views

/-- The part of the current view at the node's location. -/
def resolve? (w : Workspace grammars) (node : MemberNode) : Option View :=
  (w.view node.file node.language).at? node.location

/-- What the node remembers now. -/
def memory (w : Workspace grammars) (node : MemberNode) : Memory :=
  (w.memories.lookup node.handle).getD node.born

/-- The member at the node's location, as far as is known. -/
def member (w : Workspace grammars) (node : MemberNode) : Member :=
  match w.resolve? node with
  | some tree => tree.label
  | none => (w.memory node).member

/-- The span the node has written, if nothing has changed since. -/
def pinned? (w : Workspace grammars) (node : MemberNode) : Option Span :=
  match (w.memory node).pinned with
  | some (generation, span) =>
    if generation = (w.document node.file).generation then some span else none
  | none => none

/-- Where the node stands in the current text. -/
def span? (w : Workspace grammars) (node : MemberNode) : Option Span :=
  (w.pinned? node).or ((w.resolve? node).map fun tree => tree.label.span)

-- ======================================================== occurrences

/-- What an occurrence is now. -/
def found (w : Workspace grammars) (handle : Handle) (born : Occurrence) : Occurrence :=
  (w.occurrences.lookup handle).getD born

-- ===================================================== names and tags

/-- The name of a directory; the project's own for the root. -/
def directoryName (w : Workspace grammars) (path : ProjectPath) : String :=
  path.getLast?.getD w.project.name

/-- The name of a node with a text. -/
def textName (w : Workspace grammars) : TextNode → String
  | .file path => path.getLast?.getD ""
  | .member node => (w.member node).name
  | .occurrence _ grammar _ _ _ => grammar.name
  | .binding _ _ _ _ _ name => name

/-- The name of a node. -/
def name (w : Workspace grammars) : Node → String
  | .directory path => w.directoryName path
  | .text node => w.textName node
  | .detached tree => tree.label.name

/-- The tags of a node. -/
def tags (w : Workspace grammars) : Node → List String
  | .directory path => if path.isEmpty then ["Project"] else ["Directory"]
  | .text (.file _) => ["File"]
  | .text (.member node) => (w.member node).tags
  | .text (.occurrence _ grammar _ _ _) => ["Microgrammar", grammar.name]
  | .text (.binding ..) => []
  | .detached tree => tree.label.tags

-- ============================================================ bounds

/-- A number no less than that of the nodes at and below a directory: each of them is a way
to a file or the directory itself. -/
def directoryBound (w : Workspace grammars) : Nat :=
  w.project.paths.foldr (fun path total => path.length + total) 1

/-- A number no less than that of the nodes at and below a node. -/
def bound (w : Workspace grammars) : Node → Nat
  | .directory _ => w.directoryBound
  | .text (.file _) => 1
  | .text (.member node) => ((w.resolve? node).map Rose.size).getD 1
  | .text (.occurrence handle _ _ _ born) => (w.found handle born).captures.length + 1
  | .text (.binding ..) => 1
  | .detached tree => tree.size

end Workspace

end TreeQuery
