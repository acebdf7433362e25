/-
Reading and writing the texts of nodes. An update of any node ends in at most one change of
one document: a file is replaced as a whole, a node in a view has its span replaced, and an
occurrence or binding is replaced within the text of the node it was found in, which is then
updated in turn. An update that fails changes no document.
-/
import TreeQuery.Layout.Position
import TreeQuery.Workspace.Basic

namespace TreeQuery

open Text (Span)

-- =================================================== changes of state

namespace Workspace

variable {grammars : Grammars}

/-- The workspace with another document for a file. -/
def setDocument (w : Workspace grammars) (file : ProjectPath) (document : Document) :
    Workspace grammars :=
  { w with project := w.project.setDocument file document }

/-- The workspace that holds the view of a file for the generation of its text. -/
def holdView (w : Workspace grammars) (file : ProjectPath) (language : Language) :
    Workspace grammars :=
  let generation := (w.document file).generation
  if (w.viewSlot file language).isFresh generation then w
  else { w with views := ((file, language), .put generation (w.view file language)) ::
          w.views.filter (·.1 != (file, language)) }

/-- The workspace in which a node in a view remembers something else. -/
def remember (w : Workspace grammars) (node : MemberNode) (memory : Memory) :
    Workspace grammars :=
  { w with memories := (node.handle, memory) :: w.memories.filter (·.1 != node.handle) }

/-- The workspace in which an occurrence is another one. -/
def setFound (w : Workspace grammars) (handle : Handle) (occurrence : Occurrence) :
    Workspace grammars :=
  { w with occurrences := (handle, occurrence) :: w.occurrences.filter (·.1 != handle) }

-- ============================================================== values

/-- The text of a node in a view: what it has written, if nothing has changed since, else what
stands at its location, else what it remembers. What is seen at the location is remembered. -/
def memberValue (w : Workspace grammars) (node : MemberNode) : String × Workspace grammars :=
  match (w.pinned? node).bind (w.document node.file).slice? with
  | some text => (text, w)
  | none =>
    let w := w.holdView node.file node.language
    match w.resolve? node with
    | some tree =>
      let seen := w.observe node.file tree.label
      (seen.text, w.remember node { w.memory node with member := seen.member, text := seen.text })
    | none => ((w.memory node).text, w)

/-- The text of a node. -/
def value (w : Workspace grammars) : TextNode → String × Workspace grammars
  | .file path => (w.content path, w)
  | .member node => w.memberValue node
  | .occurrence handle _ _ _ born => ((w.found handle born).text, w)
  | .binding handle _ _ _ born name => (((w.found handle born).capture? name).getD "", w)

end Workspace

-- ============================================================= updates

namespace Act

variable {grammars : Grammars}

/-- The text of a node. -/
def value (node : TextNode) : Act grammars String := fun w => w.value node

/-- Puts another text into a file. -/
def setContent (file : ProjectPath) (text : String) : Act grammars Unit :=
  modify fun w => w.setDocument file ((w.document file).replaceAll text).2

/-- Makes sure that the view of a file is held. -/
def consult (file : ProjectPath) (language : Language) : Act grammars Unit :=
  modify fun w => w.holdView file language

/-- Where a node in a view stands: what it has written, if nothing has changed since, else
where the view has it. -/
def span? (node : MemberNode) : Act grammars (Option Span) := do
  if ((← get).pinned? node).isNone then consult node.file node.language
  return (← get).span? node

/-- Replaces the span of a node in a view. -/
def updateMember (node : MemberNode) (text : String) : ExceptT NodeError (Act grammars) Unit := do
  let some span ← (span? node : Act grammars _) | throw (.stale node.address)
  let w ← get
  let document := w.document node.file
  match document.apply (.replacing document.content span text) with
  | .error e => throw (.edit node.address e)
  | .ok (_, changed) =>
    set <| (w.setDocument node.file changed).remember node
      { w.memory node with
        text
        pinned := some (changed.generation, ⟨span.start, span.start + text.utf8ByteSize⟩) }

/-- Replaces an occurrence at an address in the text of the node it was found in, given how that
node is updated. -/
def updateOccurrence (handle : Handle) (grammar : Microgrammar) (context : TextNode)
    (born : Occurrence) (address : String)
    (updateContext : String → ExceptT NodeError (Act grammars) Unit) (text : String) :
    ExceptT NodeError (Act grammars) Unit := do
  let whole ← (value context : Act grammars String)
  let seen := (← get).found handle born
  let some span := grammar.locate? seen whole | throw (.stale address)
  match (Edit.replacing whole span text).apply whole with
  | .ok (.applied changed) => updateContext changed
  | .ok .alreadyApplied => pure ()
  | .error (.unexpectedText ..) => throw (.stale address)
  | .error e => throw (.edit address e)
  modify fun w => w.setFound handle (grammar.written span.start text)

/-- Replaces the text of a node. -/
def update : TextNode → String → ExceptT NodeError (Act grammars) Unit
  | .file path, text => (setContent path text : Act grammars Unit)
  | .member node, text => updateMember node text
  | .occurrence handle grammar context index born, text =>
    updateOccurrence handle grammar context born
      (TextNode.occurrenceAddress context.address grammar index) (update context) text
  | .binding handle grammar context index born name, text => do
    let seen := (← get).found handle born
    let address := TextNode.occurrenceAddress context.address grammar index
    let some spliced := (seen.captures.lookup name).bind (Text.splice? seen.text · text)
      | throw (.stale (address ++ "/" ++ name))
    updateOccurrence handle grammar context born address (update context) spliced

-- ============================================================= layout

/-- Where an occurrence starts and stops in its file, given how that is found for the node it was
found in. -/
def occurrenceExtent (handle : Handle) (grammar : Microgrammar) (context : TextNode)
    (born : Occurrence) (contextExtent : Act grammars (Option Layout.Extent)) :
    Act grammars (Option Layout.Extent) := do
  let some base ← contextExtent | return none
  let whole ← (value context : Act grammars String)
  let seen := (← get).found handle born
  return (grammar.locate? seen whole).map (.within base.start whole)

/-- Where a node in a view starts and stops in its file. What is found is kept for as long as the
file keeps its generation. -/
def memberExtent (node : MemberNode) : Act grammars Layout.Extent := do
  let generation := ((← get).document node.file).generation
  match ((← get).memory node).extent.get? generation with
  | some extent => return extent
  | none =>
    let span ← span? node
    let w ← get
    let extent := Layout.Extent.ofSpan (w.content node.file)
      (span.getD (w.memory node).member.span)
    set (w.remember node { w.memory node with extent := .put generation extent })
    return extent

/-- Where a node starts and stops in its file. -/
def extent : TextNode → Act grammars (Option Layout.Extent)
  | .file path => do
    let content := (← get).content path
    return some (.ofSpan content (.whole content))
  | .member node => return some (← memberExtent node)
  | .occurrence handle grammar context _ born =>
    occurrenceExtent handle grammar context born (extent context)
  | .binding handle grammar context _ born name => do
    let some base ← occurrenceExtent handle grammar context born (extent context) | return none
    let seen := (← get).found handle born
    return (seen.captures.lookup name).map (.within base.start seen.text)

end Act

end TreeQuery
