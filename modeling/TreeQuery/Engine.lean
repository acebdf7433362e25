/-
Engines: a registry of types and the questions that can be asked with it. From a node, an
engine evaluates expressions, demands single matches, visits all matches, and views nodes as
members of a type.
-/
import TreeQuery.Workspace.Types

namespace TreeQuery

-- ============================================================== errors

/-- Why an engine has no answer. -/
inductive EngineError where
  | parse (error : Expression.SyntaxError)
  | unknownType (name : String) (suggestion : Option String)
  /-- A single match was asked for and there is none. -/
  | noMatch (expression : String)
  /-- A single match was asked for and there are more. -/
  | ambiguousMatch (expression : String) (count : Nat)
  | invalidCast (address type : String)
  | node (error : NodeError)
  | microgrammar (error : MicrogrammarError)
deriving Repr

namespace EngineError

def message : EngineError → String
  | .parse error => error.text
  | .unknownType name suggestion =>
    "unknown type '" ++ name ++ "()'" ++ match suggestion with
      | some other => "; did you mean '" ++ other ++ "()'?"
      | none => ""
  | .noMatch expression =>
    "expression '" ++ expression ++ "' matched nothing, expected exactly 1 node"
  | .ambiguousMatch expression count =>
    "expression '" ++ expression ++ "' matched " ++ toString count ++
      " nodes, expected exactly 1"
  | .invalidCast address type => "node at " ++ address ++ " cannot be viewed as " ++ type
  | .node error => error.message
  | .microgrammar error => error.message

/-- The error that a failed evaluation is. -/
def ofFailure : Query.Failure NodeError → EngineError
  | .unknownType name suggestion => .unknownType name suggestion
  | .provider error => .node error

end EngineError

-- ======================================================== capabilities

/-- What a caller can ask a node to be able to do. -/
inductive Capability where
  | node
  | parentAware
  | text
  | file
deriving DecidableEq, Repr

namespace Capability

/-- The name of the capability as a type. -/
def typeName : Capability → String
  | .node => "TreeNode"
  | .parentAware => "ParentAwareTreeNode"
  | .text => "TextTreeNode"
  | .file => "FileArtifact"

/-- Whether a node has the capability. -/
def admits : Capability → Node → Bool
  | .node, _ => true
  | .parentAware, n => n.isParentAware
  | .text, n => n.asText?.isSome
  | .file, n => n.asFile?.isSome

/-- The capability that a type name asks for. -/
def ofTypeName? : String → Option Capability
  | "TreeNode" | "GraphNode" | "Addressed" => some .node
  | "ParentAwareTreeNode" => some .parentAware
  | "TextTreeNode" => some .text
  | "FileArtifact" => some .file
  | _ => none

/-- The node, if it has the capability. -/
def demand (capability : Capability) (node : Node) : Except EngineError Node :=
  if capability.admits node then .ok node
  else .error (.invalidCast node.address capability.typeName)

end Capability

-- ============================================================= engines

/-- What evaluations are made with. -/
structure Engine (grammars : Grammars) where
  registry : Query.Registry (NodeType grammars) := .core
  /-- Whether later matches with the address of an earlier one are dropped. -/
  dedupe : Bool := false

namespace Engine

variable {grammars : Grammars}

/-- The engine with one more type. -/
def addType (engine : Engine grammars) (type : NodeType grammars) : Engine grammars :=
  { engine with registry := engine.registry.register type.name type }

/-- The engine with more tags. -/
def addTags (engine : Engine grammars) (tags : List String) : Engine grammars :=
  { engine with registry := engine.registry.addTags tags }

/-- An engine that knows no types and only the tags of projects and microgrammars. -/
def bare : Engine grammars := {}

/-- An engine that knows the views of every language. -/
def withLanguages : Engine grammars :=
  Language.all.foldl
    (fun engine language => (engine.addType (.ofLanguage language)).addTags language.tags) bare

-- ========================================================== evaluation

/-- The program of an expression, compiled now or before. -/
def program (expression : String) : ExceptT EngineError (Act grammars) Expression.Program := do
  let (result, programs) := (← get).programs.fetch expression
  modify fun w => { w with programs }
  match result with
  | .ok program => return program
  | .error error => throw (.parse error)

/-- The nodes that an expression matches from a node. -/
def evaluate (engine : Engine grammars) (expression : String) (root : Node) :
    ExceptT EngineError (Act grammars) (List Node) := do
  let program ← program expression
  let outcome ← (Query.evaluate (Workspace.forest grammars) engine.registry engine.dedupe program
    root).run
  match outcome with
  | .ok found => return found
  | .error failure => throw (.ofFailure failure)

/-- The nodes that an expression matches, all of which must have a capability. -/
def evaluateAs (engine : Engine grammars) (capability : Capability) (expression : String)
    (root : Node) : ExceptT EngineError (Act grammars) (List Node) := do
  let found ← engine.evaluate expression root
  found.mapM fun node => capability.demand node

/-- The one node that an expression matches. -/
def scalar (engine : Engine grammars) (capability : Capability) (expression : String)
    (root : Node) : ExceptT EngineError (Act grammars) Node := do
  match ← engine.evaluateAs capability expression root with
  | [] => throw (.noMatch expression)
  | [node] => return node
  | found => throw (.ambiguousMatch expression found.length)

/-- Does something at each of some nodes, until it fails at one: what was answered, and how it
failed if it did. -/
def visit {β ε : Type} (action : Node → Act grammars (Except ε β)) :
    List Node → Act grammars (List β × Option ε)
  | [] => return ([], none)
  | node :: rest => do
    match ← action node with
    | .error e => return ([], some e)
    | .ok answer =>
      let (answers, failure) ← visit action rest
      return (answer :: answers, failure)

/-- Does something at each node that an expression matches. The matches are those from before
the first is visited. -/
def visitMatches {β ε : Type} (engine : Engine grammars) (expression : String) (root : Node)
    (action : Node → Act grammars (Except ε β)) :
    ExceptT EngineError (Act grammars) (List β × Option ε) := do
  let found ← engine.evaluate expression root
  visit action found

-- =============================================================== views

/-- A node viewed as a type: the one member that a registered type finds from it, or else the
node itself if it carries the tag or has the capability of that name. -/
def cast (engine : Engine grammars) (node : Node) (type : String) :
    ExceptT EngineError (Act grammars) Node := do
  match engine.registry.type? type with
  | some provider =>
    match ← (provider.find node : Act grammars _) with
    | .ok [member] => return member
    | .ok _ => throw (.invalidCast node.address type)
    | .error error => throw (.node error)
  | none =>
    let tagged ← ((Workspace.forest grammars).hasTag node type : Act grammars Bool)
    let capable := (Capability.ofTypeName? type).any fun capability => capability.admits node
    if tagged || capable then return node
    else throw (.invalidCast node.address type)

/-- The children of a node that carry a known tag, or have a name that is no known tag. -/
def childrenOf (engine : Engine grammars) (node : Node) (name : String) :
    Act grammars (List Node) := do
  let children ← Act.children node
  if engine.registry.isTag name then
    Query.withTag (Workspace.forest grammars) name children
  else Query.withName (Workspace.forest grammars) name children

end Engine

end TreeQuery
