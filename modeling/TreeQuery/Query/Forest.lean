/-
Trees as queries see them. A forest answers the questions a query asks about nodes;
answering may have effects, which is what `m` stands for. Whatever implements the questions
can be queried, and the traversal here is the only one queries use.
-/

namespace TreeQuery.Query

/-- What a query asks about nodes. -/
structure Forest (m : Type → Type) (α : Type) where
  /-- Where a node stands; equal addresses mean the same place. -/
  address : α → String
  name : α → m String
  tags : α → m (List String)
  property : α → String → m (Option String)
  /-- The nodes right below, in document order. -/
  children : α → m (List α)
  /-- A number that is no less than the number of nodes at and below. -/
  extent : α → m Nat

namespace Forest

variable {m : Type → Type} [Monad m] {α : Type}

/-- Takes nodes off a stack and puts their children on it, first child first, up to `fuel`
times. -/
def walk (forest : Forest m α) : Nat → List α → m (List α)
  | 0, _ => pure []
  | _ + 1, [] => pure []
  | fuel + 1, node :: stack => do
    let children ← forest.children node
    let rest ← walk forest fuel (children ++ stack)
    return node :: rest

/-- The node itself and all that is below it, in document order. -/
def descendantsOrSelf (forest : Forest m α) (node : α) : m (List α) := do
  walk forest (← forest.extent node) [node]

/-- Whether a node carries a tag. -/
def hasTag (forest : Forest m α) (node : α) (tag : String) : m Bool := do
  return (← forest.tags node).contains tag

/-- Whether a node has a child of a name. -/
def hasChild (forest : Forest m α) (node : α) (name : String) : m Bool := do
  let names ← (← forest.children node).mapM forest.name
  return names.contains name

end Forest

end TreeQuery.Query
