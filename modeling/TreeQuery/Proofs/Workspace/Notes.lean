/-
Notes: which texts have passed through which node in a view.

A node in a view answers a question for its text, or is given a text to stand for. Either way a
text passes through it, and what it remembers afterwards is that text. To say so of a whole run
the texts have to be written down as they pass, which the workspace itself does not do: it keeps
one memory for each handle and overwrites it. So each operation is given the list of its notes,
as a function of the workspace that it starts from.

Few operations have any. A value and an update have one for a node in a view; whatever is done
with an occurrence asks the node it was found in, and its update may go on to update that node;
and a microgrammar reads the node it looks from. An evaluation has those of the types it asks on
the way. It is told as the evaluation it is: the same program, in a forest whose computations
keep a list of notes beside the workspace (`Telling`).
-/
import TreeQuery.Proofs.Engine.Types
import TreeQuery.Proofs.Workspace.Coherent

namespace TreeQuery

open Text (Span)

variable {grammars : Grammars}

/-- A text that has passed through a node in a view. -/
structure Note where
  handle : Handle
  text : String
  /-- The generation that the text has made, if it was written and something changed. -/
  made : Option Generation := none
deriving DecidableEq, Repr

namespace Workspace

-- =================================================== values and updates

/-- The note of a question for a text. -/
def valueNotes (w : Workspace grammars) : TextNode → List Note
  | .member node => [{ handle := node.handle, text := (w.memberValue node).1 }]
  | _ => []

/-- The generation that a step from `w` has made in a file, if it has made one. -/
def made (w later : Workspace grammars) (file : ProjectPath) : Option Generation :=
  if (later.document file).generation = (w.document file).generation then none
  else some (later.document file).generation

/-- The note of an update of a node in a view; there is none if it fails. -/
def memberNotes (node : MemberNode) (text : String) (w : Workspace grammars) : List Note :=
  match (Act.updateMember node text).run w with
  | (.ok (), later) => [{ handle := node.handle, text, made := w.made later node.file }]
  | (.error _, _) => []

theorem memberNotes_of_ok {w later : Workspace grammars} {node : MemberNode} {text : String}
    (h : (Act.updateMember node text).run w = (.ok (), later)) :
    w.memberNotes node text =
      [{ handle := node.handle, text, made := w.made later node.file }] := by
  unfold memberNotes
  rw [h]

/-- The notes of replacing an occurrence, given those of updating the node it was found in. That
node is asked for its text, and updated if the occurrence is found there and changes. -/
def occurrenceNotes (handle : Handle) (grammar : Microgrammar) (context : TextNode)
    (born : Occurrence) (contextNotes : String → Workspace grammars → List Note) (text : String)
    (w : Workspace grammars) : List Note :=
  let whole := (w.value context).1
  let v := (w.value context).2
  w.valueNotes context ++
    match grammar.locate? (v.found handle born) whole with
    | none => []
    | some span =>
      match (Edit.replacing whole span text).apply whole with
      | .ok (.applied changed) => contextNotes changed v
      | _ => []

/-- The notes of an update of a text node. -/
def updateNotes : TextNode → String → Workspace grammars → List Note
  | .file _, _, _ => []
  | .member node, text, w => memberNotes node text w
  | .occurrence handle grammar context _ born, text, w =>
    occurrenceNotes handle grammar context born (updateNotes context) text w
  | .binding handle grammar context _ born name, text, w =>
    let seen := w.found handle born
    match (seen.captures.lookup name).bind (Text.splice? seen.text · text) with
    | some spliced => occurrenceNotes handle grammar context born (updateNotes context) spliced w
    | none => []

/-- The notes of asking where a text node starts and stops. An occurrence asks for the text of the
node it was found in, if that stands anywhere. -/
def extentNotes : TextNode → Workspace grammars → List Note
  | .file _, _ => []
  | .member _, _ => []
  | .occurrence _ _ context _ _, w | .binding _ _ context _ _ _, w =>
    extentNotes context w ++
      match (Act.extent context w).1 with
      | some _ => (Act.extent context w).2.valueNotes context
      | none => []

/-- The notes of a type that looks from a node. -/
def findNotes (type : BuiltIn) (node : Node) (w : Workspace grammars) : List Note :=
  match type, node with
  | .microgrammar _, .text context => w.valueNotes context
  | _, _ => []

end Workspace

-- ========================================================= evaluations

/-- Something done in a workspace, with the notes taken so far. -/
abbrev Telling (grammars : Grammars) := StateT (List Note) (Act grammars)

instance (grammars : Grammars) : LawfulMonad (Telling grammars) :=
  inferInstanceAs (LawfulMonad (StateT (List Note) (Act grammars)))

/-- A computation that takes notes. -/
def Act.telling {α : Type} (a : Act grammars α) (notes : Workspace grammars → List Note) :
    Telling grammars α :=
  fun told w => (((a w).1, told ++ notes w), (a w).2)

/-- A computation that takes none. -/
def Act.silent {α : Type} (a : Act grammars α) : Telling grammars α := a.telling fun _ => []

/-- Workspaces as queries see them, where nothing is noted. -/
def Workspace.silentForest (grammars : Grammars) : Query.Forest (Telling grammars) Node where
  address := (Workspace.forest grammars).address
  name node := ((Workspace.forest grammars).name node).silent
  tags node := ((Workspace.forest grammars).tags node).silent
  property node key := ((Workspace.forest grammars).property node key).silent
  children node := ((Workspace.forest grammars).children node).silent
  extent node := ((Workspace.forest grammars).extent node).silent

/-- How the type finds its members, with its notes. -/
def BuiltIn.tellingProvider (type : BuiltIn) :
    Query.Provider (Telling grammars) Node NodeError where
  name := type.name
  find node := (type.provider.find node).telling (Workspace.findNotes type node)

/-- The notes of a program, if there is one: those of the types that are asked on the way. -/
def Workspace.programNotes (types : Query.Registry BuiltIn) (dedupe : Bool) (root : Node) :
    Except EngineError Expression.Program → Workspace grammars → List Note
  | .ok program, w => ((Query.evaluate (silentForest grammars)
      (types.map BuiltIn.tellingProvider) dedupe program root).run [] w).1.2
  | .error _, _ => []

/-- The notes of an evaluation. -/
def Workspace.evaluateNotes (types : Query.Registry BuiltIn) (dedupe : Bool) (expression : String)
    (root : Node) (w : Workspace grammars) : List Note :=
  programNotes types dedupe root ((Engine.program expression).run w).1
    ((Engine.program expression).run w).2

end TreeQuery
