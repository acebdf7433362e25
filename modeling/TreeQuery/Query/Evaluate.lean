/-
Evaluation of path expressions. The types of all steps are resolved before any node is
looked at, so an unknown type fails whatever the tree holds. Then each step replaces the
nodes reached by those it finds from each of them in turn; predicates filter what was found
from one node, so positions count anew for each. Nodes reached twice are kept twice unless
the evaluation is asked to drop repeated addresses at the end.
-/
import TreeQuery.Expression.Step
import TreeQuery.Query.Forest
import TreeQuery.Query.Registry

namespace TreeQuery.Query

open Expression (Axis NodeTest Predicate Program Step)

/-- A type that finds its members relative to a node. -/
structure Provider (m : Type → Type) (α ε : Type) where
  name : String
  /-- The members found from a node, in document order. -/
  find : α → m (Except ε (List α))

/-- Why an evaluation fails. -/
inductive Failure (ε : Type) where
  /-- A type step names no known type. -/
  | unknownType (name : String) (suggestion : Option String)
  /-- A type failed to find its members. -/
  | provider (error : ε)
deriving Repr

variable {m : Type → Type} [Monad m] {α ε : Type}

/-- What the type of a step stands for, if the step has one. -/
def resolveStep (registry : Registry (Provider m α ε)) (step : Step) :
    Except (Failure ε) (Option (Resolution (Provider m α ε))) :=
  match step.typeName? with
  | none => .ok none
  | some name =>
    match registry.resolve? name with
    | some resolution => .ok (some resolution)
    | none => .error (.unknownType name (registry.suggestion? name))

/-- The steps with what their types stand for, or the first type that is unknown. -/
def resolveSteps (registry : Registry (Provider m α ε)) : List Step →
    Except (Failure ε) (List (Step × Option (Resolution (Provider m α ε))))
  | [] => .ok []
  | step :: rest =>
    match resolveStep registry step with
    | .error e => .error e
    | .ok resolution =>
      match resolveSteps registry rest with
      | .error e => .error e
      | .ok resolved => .ok ((step, resolution) :: resolved)

/-- The members found from each of some nodes. -/
def findFromEach (provider : Provider m α ε) : List α → ExceptT (Failure ε) m (List α)
  | [] => pure []
  | node :: rest => do
    match ← (provider.find node : m (Except ε (List α))) with
    | .error e => throw (.provider e)
    | .ok found => return found ++ (← findFromEach provider rest)

/-- Where a step looks from a node. -/
def alongAxis (forest : Forest m α) (axis : Axis) (node : α) : m (List α) :=
  match axis with
  | .child => forest.children node
  | .descendant => forest.descendantsOrSelf node

/-- The nodes among some that carry a tag. -/
def withTag (forest : Forest m α) (tag : String) (nodes : List α) : m (List α) :=
  nodes.filterM fun n => forest.hasTag n tag

/-- The nodes among some that have a name. -/
def withName (forest : Forest m α) (name : String) (nodes : List α) : m (List α) :=
  nodes.filterM fun n => return (← forest.name n) == name

/-- The nodes a step without a registered type finds from a node, before its predicates. -/
def select (forest : Forest m α) (step : Step) (node : α) : m (List α) := do
  let nodes ← alongAxis forest step.axis node
  match step.test with
  | .any => return nodes
  | .name name => withName forest name nodes
  | .type tag => withTag forest tag nodes

/-- The nodes a step finds from a node, before its predicates. -/
def expand (forest : Forest m α) (step : Step)
    (resolution : Option (Resolution (Provider m α ε))) (node : α) :
    ExceptT (Failure ε) m (List α) :=
  match resolution with
  | some (.registered _ provider) =>
    match step.axis with
    | .child => findFromEach provider [node]
    | .descendant => do
      let nodes ← (forest.descendantsOrSelf node : m (List α))
      findFromEach provider nodes
  | _ => (select forest step node : m (List α))

/-- What a predicate keeps. -/
def applyPredicate (forest : Forest m α) (found : List α) (predicate : Predicate) :
    m (List α) :=
  match predicate with
  | .attribute name value =>
    found.filterM fun n => return (← forest.property n name) == some value
  | .hasChild name => found.filterM fun n => forest.hasChild n name
  | .position 0 => return []
  | .position (place + 1) => return (found[place]?).toList

/-- What all predicates keep, applied from left to right. -/
def applyPredicates (forest : Forest m α) (predicates : List Predicate) (found : List α) :
    m (List α) :=
  predicates.foldlM (applyPredicate forest) found

/-- The nodes a step reaches from those reached before it. -/
def applyStep (forest : Forest m α) (step : Step)
    (resolution : Option (Resolution (Provider m α ε))) :
    List α → ExceptT (Failure ε) m (List α)
  | [] => pure []
  | node :: rest => do
    let found ← expand forest step resolution node
    let kept ← (applyPredicates forest step.predicates found : m (List α))
    return kept ++ (← applyStep forest step resolution rest)

/-- The nodes all steps reach. -/
def applySteps (forest : Forest m α) :
    List (Step × Option (Resolution (Provider m α ε))) → List α →
    ExceptT (Failure ε) m (List α)
  | [], reached => pure reached
  | (step, resolution) :: rest, reached => do
    applySteps forest rest (← applyStep forest step resolution reached)

/-- The nodes without those whose address an earlier one has. -/
def dropRepeated (address : α → String) : List α → List α
  | [] => []
  | node :: rest =>
    node :: (dropRepeated address rest).filter fun n => address n != address node

/-- Evaluates a program from a node. -/
def evaluate (forest : Forest m α) (registry : Registry (Provider m α ε)) (dedupe : Bool)
    (program : Program) (root : α) : ExceptT (Failure ε) m (List α) := do
  let steps ← resolveSteps registry program.steps
  let reached ← applySteps forest steps [root]
  return if dedupe then dropRepeated forest.address reached else reached

end TreeQuery.Query
