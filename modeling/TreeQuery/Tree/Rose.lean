/-
Finite ordered trees with a label at each node, the common shape of syntax trees and of
the views made from them. `preorder` lists the labels with each node before what is below
it and in front of its later siblings.
-/

namespace TreeQuery

/-- A tree with labelled nodes and ordered children. -/
inductive Rose (α : Type) where
  | node (label : α) (children : List (Rose α))
deriving Repr

namespace Rose

variable {α : Type}

instance [Inhabited α] : Inhabited (Rose α) := ⟨.node default []⟩

/-- What stands at the root. -/
def label : Rose α → α
  | .node label _ => label

/-- The trees right below the root. -/
def children : Rose α → List (Rose α)
  | .node _ children => children

mutual

/-- How many nodes the tree has. -/
def size : Rose α → Nat
  | .node _ children => sizeAll children + 1

/-- How many nodes some trees have together. -/
def sizeAll : List (Rose α) → Nat
  | [] => 0
  | tree :: rest => size tree + sizeAll rest

end

mutual

/-- The labels of the tree, the root's first and those of each child in turn. -/
def preorder : Rose α → List α
  | .node label children => label :: preorderAll children

/-- The labels of some trees, one after the other. -/
def preorderAll : List (Rose α) → List α
  | [] => []
  | tree :: rest => preorder tree ++ preorderAll rest

end

theorem size_pos (tree : Rose α) : 0 < tree.size := by
  cases tree
  simp [size]

theorem size_le_sizeAll {tree : Rose α} {trees : List (Rose α)} (h : tree ∈ trees) :
    tree.size ≤ sizeAll trees := by
  induction trees with
  | nil => cases h
  | cons t rest ih =>
    simp only [sizeAll]
    rcases List.mem_cons.1 h with rfl | h
    · omega
    · have := ih h
      omega

/-- A child is smaller than its parent. -/
theorem size_lt_of_mem_children {tree child : Rose α} (h : child ∈ tree.children) :
    child.size < tree.size := by
  cases tree with
  | node label trees =>
    have : child.size ≤ sizeAll trees := size_le_sizeAll h
    simp only [size]
    omega

end Rose

end TreeQuery
