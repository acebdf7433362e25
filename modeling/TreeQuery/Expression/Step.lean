/-
Path expressions as data. A program is a list of steps; each step goes along an axis from
every node reached so far, keeps the nodes that pass its test and then filters them by its
predicates, from left to right.
-/

namespace TreeQuery.Expression

/-- Where a step looks from a node. -/
inductive Axis where
  /-- The children of the node. -/
  | child
  /-- The node itself and everything below it, in document order. -/
  | descendant
deriving DecidableEq, Repr

/-- Which nodes a step looks for. -/
inductive NodeTest where
  /-- Every node. -/
  | any
  /-- The nodes of a name. -/
  | name (name : String)
  /-- The members of a type: nodes that carry a tag, or what a registered type finds. -/
  | type (name : String)
deriving DecidableEq, Repr

/-- A condition on the nodes a step has found. -/
inductive Predicate where
  /-- The property `name` has the given value. -/
  | attribute (name value : String)
  /-- Some child has the name. -/
  | hasChild (name : String)
  /-- The node is the one at this place among those found from one node, counted from 1. -/
  | position (place : Nat)
deriving DecidableEq, Repr

/-- One step of a path expression. -/
structure Step where
  axis : Axis
  test : NodeTest
  predicates : List Predicate
deriving DecidableEq, Repr

/-- A compiled path expression: its text and its steps. -/
structure Program where
  expression : String
  steps : List Step
deriving DecidableEq, Repr

/-- The type a step names. -/
def Step.typeName? (step : Step) : Option String :=
  match step.test with
  | .type name => some name
  | _ => none

/-- The types the steps name, in their order. -/
def Program.typeNames (program : Program) : List String :=
  program.steps.filterMap Step.typeName?

end TreeQuery.Expression
