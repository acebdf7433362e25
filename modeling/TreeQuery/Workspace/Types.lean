/-
The types that find their members in texts: the views of files in one language, the members
of a view that a structural pattern matches, and the occurrences of a microgrammar.
-/
import TreeQuery.Query.Evaluate
import TreeQuery.Workspace.Tree

namespace TreeQuery

variable (grammars : Grammars)

/-- A type whose members are nodes of a workspace. -/
abbrev NodeType := Query.Provider (Act grammars) Node NodeError

variable {grammars}

namespace NodeType

-- ===================================================== language views

/-- The type of the views of files in a language: from a file of the language it finds the root
of its view. -/
def ofLanguage (language : Language) : NodeType grammars where
  name := language.viewType
  find node :=
    match node.asFile? with
    | some path => do
      if Language.ofPath? (ProjectPath.write path) = some language then
        return .ok [.text (.member (← Act.viewRoot path language))]
      else return .ok []
    | none => return .ok []

-- ================================================ structural patterns

/-- The node whose span a pattern's matches must lie in: a node in a view of the pattern's
language, or the root of the view of a file of that language. -/
def patternScope (language : Language) (node : Node) : Act grammars (Option MemberNode) := do
  match node with
  | .text (.member node) => return if node.language = language then some node else none
  | .text (.file path) =>
    if Language.ofPath? (ProjectPath.write path) = some language then
      return some (← Act.viewRoot path language)
    else return none
  | _ => return none

/-- Where a pattern matches in a source, with what has been read of patterns before. -/
def findPattern (pattern : StructuralPattern) (source : String) :
    Act grammars (Option (List PatternMatch)) := do
  let (found, patterns) := (← get).patterns.fetch pattern
  modify fun w => { w with patterns }
  match found with
  | .ok find => return find source

/-- The type of the members of a view that a structural pattern matches, within the node it
looks from. Matches that are no members are left out. -/
def ofPattern (name : String) (pattern : StructuralPattern) : NodeType grammars where
  name
  find node := do
    let some scope ← patternScope pattern.language node | return .ok []
    let some span ← Act.span? scope | return .ok []
    Act.consult scope.file scope.language
    let w ← get
    let some matched ← findPattern pattern (w.content scope.file)
      | return .error (.brokenPattern pattern.text)
    let view := w.view scope.file scope.language
    let entries := (matched.filter fun m => m.span.within span).filterMap fun m =>
      (view.findBySpan? m.span m.kind).map (·.2)
    let nodes ← entries.mapM fun entry => do
      let member ← Act.newMember scope.file scope.language entry.location entry.member
      return .text (.member member)
    return .ok nodes

-- ====================================================== microgrammars

/-- The type of the occurrences of a microgrammar in the text of the node it looks from. -/
def ofMicrogrammar (grammar : Microgrammar) : NodeType grammars where
  name := grammar.name
  find node :=
    match node.asText? with
    | none => return .ok []
    | some context => do
      let text ← Act.value context
      let nodes ← (grammar.scan text).zipIdx.mapM fun (occurrence, index) => do
        return .text (.occurrence (← Act.newHandle) grammar context index occurrence)
      return .ok nodes

end NodeType

end TreeQuery
