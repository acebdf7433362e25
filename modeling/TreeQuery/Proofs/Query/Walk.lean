/-
The walk is the recursive listing.

# The loop

A walk is a loop: as long as the stack holds nodes, one is taken off and listed, and its children
are put on (`Forest.turn`). Nothing in the loop says that it ends, so it is described one turn at a
time, for as many turns as one likes (`Forest.turns`); with nothing on the stack, turns change
nothing. A walk with fuel is what has been listed after that many turns (`listed_turns`).

# Trees that keep still

Asking for children may change the state in which the next question is answered, and the nodes
given for one place need not be the same each time. What makes a tree out of the answers is a
relation that says in which states a node stands for a tree (`Forest.Steady`): the children given
stand for the subtrees in their order, and no node stops standing for its tree by the question.

What the loop has listed and what is below the nodes on the stack are then, together, the parts of
the tree in pre-order, whatever the turn (`Underway`). Each turn moves one part over, so there are
as many turns as there are parts, after which the stack is empty (`Underway.finish`). From this
follows the equation of a recursive listing (`Steady.descendantsOrSelf_eq`).
-/
import TreeQuery.Proofs.Query.Comparison
import TreeQuery.Proofs.Tree.Positions

namespace TreeQuery.Query

/-- How far a walk has come. -/
structure Progress (α : Type) where
  /-- The nodes taken off the stack so far, in this order. -/
  listed : List α
  /-- The stack, the node that is taken off next at its end. -/
  waiting : List α

namespace Forest

-- ============================================================== the loop

section Loop

variable {m : Type → Type} [Monad m] {α : Type}

/-- Takes a node off the stack, if there is one, and puts its children on, the last child first. -/
def turn (forest : Forest m α) (progress : Progress α) : m (Progress α) :=
  match progress.waiting.getLast? with
  | none => pure progress
  | some node => do
    let children ← forest.children node
    return ⟨progress.listed ++ [node], progress.waiting.dropLast ++ children.reverse⟩

/-- Takes so many turns. -/
def turns (forest : Forest m α) : Nat → Progress α → m (Progress α)
  | 0, progress => pure progress
  | count + 1, progress => do turns forest count (← forest.turn progress)

variable (forest : Forest m α) (count : Nat) (listed stack : List α) (node : α)

theorem turn_done : forest.turn ⟨listed, []⟩ = pure ⟨listed, []⟩ := rfl

theorem turn_cons : forest.turn ⟨listed, (node :: stack).reverse⟩ = do
    let children ← forest.children node
    return ⟨listed ++ [node], (children ++ stack).reverse⟩ := by
  unfold turn
  simp only [List.reverse_cons, List.getLast?_concat, List.dropLast_concat, List.reverse_append]

variable [LawfulMonad m]

theorem turns_done : forest.turns count ⟨listed, []⟩ = pure ⟨listed, []⟩ := by
  induction count with
  | zero => rfl
  | succ count ih => rw [turns, turn_done, pure_bind, ih]

/-- A walk lists what so many turns list. -/
theorem listed_turns : Progress.listed <$> forest.turns count ⟨listed, stack.reverse⟩ =
    (listed ++ ·) <$> forest.walk count stack := by
  induction count generalizing listed stack with
  | zero =>
      rw [turns, walk, map_pure, map_pure, List.append_nil]
  | succ count ih =>
      cases stack with
      | nil => rw [List.reverse_nil, turns_done, walk, map_pure, map_pure, List.append_nil]
      | cons node stack =>
          rw [turns, walk, turn_cons, bind_assoc, map_bind, map_bind]
          refine bind_congr fun children => ?_
          rw [pure_bind, ih, map_bind, map_eq_pure_bind]
          refine bind_congr fun rest => ?_
          rw [map_pure, List.append_assoc, List.singleton_append]

end Loop

-- ================================================= trees that keep still

variable {σ α β : Type}

/-- Nodes stand for trees, and asking them for their children does not change that. -/
structure Steady (forest : Forest (StateM σ) α) (stands : σ → α → Rose β → Prop) : Prop where
  /-- The children of a node stand for the subtrees of its tree. -/
  children : ∀ {s node tree}, stands s node tree →
    List.Forall₂ (stands (forest.children node s).2) (forest.children node s).1 tree.children
  /-- Asking one node for its children leaves the others where they stand. -/
  lasting : ∀ {s node tree other beside}, stands s node tree → stands s other beside →
    stands (forest.children node s).2 other beside
  /-- A node announces no fewer nodes than its tree has. -/
  extent : ∀ {s node tree}, stands s node tree →
    ∃ bound, forest.extent node s = (bound, s) ∧ tree.size ≤ bound

/-- What has been listed and what stands below the nodes on the stack are together `parts`, of
which so many are left. -/
def Underway (stands : α → Rose β → Prop) (parts : List (Rose β)) (left : Nat)
    (progress : Progress α) : Prop :=
  ∃ done trees, List.Forall₂ stands progress.listed done ∧
    List.Forall₂ stands progress.waiting.reverse trees ∧
    done ++ Rose.partsAll trees = parts ∧ Rose.sizeAll trees = left

variable {forest : Forest (StateM σ) α} {stands : σ → α → Rose β → Prop} {s : σ} {node : α}
  {tree : Rose β} {parts : List (Rose β)} {left : Nat} {progress : Progress α}
  {stack : List α} {trees : List (Rose β)}

/-- Before the first turn everything is left. -/
theorem Underway.start (hstack : List.Forall₂ (stands s) stack trees) :
    Underway (stands s) (Rose.partsAll trees) (Rose.sizeAll trees) ⟨[], stack.reverse⟩ :=
  ⟨[], trees, .nil, by rwa [List.reverse_reverse], rfl, rfl⟩

/-- Each turn lists one part more. -/
theorem Underway.turn (h : forest.Steady stands)
    (hunderway : Underway (stands s) parts (left + 1) progress) :
    Underway (stands (forest.turn progress s).2) parts left (forest.turn progress s).1 := by
  obtain ⟨listed, waiting⟩ := progress
  obtain ⟨done, trees, hdone, hwaiting, rfl, hsize⟩ := hunderway
  cases trees with
  | nil => cases hsize
  | cons tree trees =>
      obtain ⟨node, stack, hnode, hstack, hreverse⟩ := List.forall₂_cons_right_iff.1 hwaiting
      obtain rfl : waiting = (node :: stack).reverse := List.reverse_eq_iff.1 hreverse
      rw [turn_cons]
      have still : ∀ other beside, stands s other beside →
          stands (forest.children node s).2 other beside := fun _ _ => h.lasting hnode
      refine ⟨done ++ [tree], tree.children ++ trees, ?_, ?_, ?_, ?_⟩
      · exact List.rel_append (hdone.imp still) (.cons (still _ _ hnode) .nil)
      · show List.Forall₂ _ ((forest.children node s).1 ++ stack).reverse.reverse _
        rw [List.reverse_reverse]
        exact List.rel_append (h.children hnode) (hstack.imp still)
      · rw [Rose.partsAll, Rose.parts_eq, Rose.partsAll_append, List.append_assoc,
          List.singleton_append, List.cons_append]
      · rw [Rose.sizeAll, Rose.size_eq] at hsize
        rw [Rose.sizeAll_append]
        omega

/-- There are as many turns as parts are left; all are listed then, and the stack is empty. -/
theorem Underway.finish (h : forest.Steady stands)
    (hunderway : Underway (stands s) parts left progress) :
    ∃ found later, (∀ more, forest.turns (left + more) progress s = (⟨found, []⟩, later)) ∧
      List.Forall₂ (stands later) found parts := by
  induction left generalizing s progress with
  | zero =>
      obtain ⟨listed, waiting⟩ := progress
      obtain ⟨done, trees, hdone, hwaiting, rfl, hsize⟩ := hunderway
      obtain rfl := Rose.sizeAll_eq_zero hsize
      obtain rfl := List.reverse_eq_nil_iff.1 (List.forall₂_nil_right_iff.1 hwaiting)
      refine ⟨listed, s, fun more => ?_, ?_⟩
      · rw [turns_done]
        rfl
      · rw [Rose.partsAll, List.append_nil]
        exact hdone
  | succ left ih =>
      obtain ⟨found, later, hturns, hfound⟩ := ih (hunderway.turn h)
      refine ⟨found, later, fun more => ?_, hfound⟩
      rw [Nat.add_right_comm]
      exact hturns more

theorem pure_run {γ : Type} (value : γ) (s : σ) : (pure value : StateM σ γ) s = (value, s) := rfl

theorem map_run {γ δ : Type} (f : γ → δ) (act : StateM σ γ) (s : σ) :
    (f <$> act) s = (f (act s).1, (act s).2) := rfl

theorem bind_run {γ δ : Type} (act : StateM σ γ) (next : γ → StateM σ δ) (s : σ) :
    (act >>= next) s = next (act s).1 (act s).2 := rfl

theorem walk_cons (forest : Forest (StateM σ) α) (fuel : Nat) (node : α) (stack : List α) (s : σ) :
    forest.walk (fuel + 1) (node :: stack) s =
      (node ::
          (forest.walk fuel ((forest.children node s).1 ++ stack) (forest.children node s).2).1,
        (forest.walk fuel ((forest.children node s).1 ++ stack)
          (forest.children node s).2).2) := rfl

namespace Steady

/-- The loop ends, and a walk with fuel for all that is below the stack lists the same, whatever
fuel is left over. -/
theorem finish (h : forest.Steady stands) (hstack : List.Forall₂ (stands s) stack trees) :
    ∃ found later,
      (∀ more, forest.turns (Rose.sizeAll trees + more) ⟨[], stack.reverse⟩ s =
        (⟨found, []⟩, later)) ∧
      (∀ more, forest.walk (Rose.sizeAll trees + more) stack s = (found, later)) ∧
      List.Forall₂ (stands later) found (Rose.partsAll trees) := by
  obtain ⟨found, later, hturns, hfound⟩ := (Underway.start hstack).finish h
  refine ⟨found, later, hturns, fun more => ?_, hfound⟩
  have hlisted := congrFun (forest.listed_turns (Rose.sizeAll trees + more) [] stack) s
  rw [map_run, map_run, hturns] at hlisted
  exact hlisted.symm

theorem walk_of_enough (h : forest.Steady stands) (hstack : List.Forall₂ (stands s) stack trees)
    {fuel more : Nat} (enough : Rose.sizeAll trees ≤ fuel) (le : Rose.sizeAll trees ≤ more) :
    forest.walk more stack s = forest.walk fuel stack s := by
  obtain ⟨found, later, -, hwalk, -⟩ := h.finish hstack
  rw [← Nat.add_sub_of_le enough, ← Nat.add_sub_of_le le, hwalk, hwalk]

/-- The walk from a node has fuel enough. -/
theorem descendantsOrSelf_eq_walk (h : forest.Steady stands) (hnode : stands s node tree)
    {fuel : Nat} (enough : tree.size ≤ fuel) :
    forest.descendantsOrSelf node s = forest.walk fuel [node] s := by
  obtain ⟨bound, hextent, hbound⟩ := h.extent hnode
  have hall : Rose.sizeAll [tree] ≤ tree.size := Nat.le_of_eq (Nat.add_zero _)
  show forest.walk (forest.extent node s).1 [node] (forest.extent node s).2 = _
  rw [hextent]
  exact h.walk_of_enough (.cons hnode .nil) (Nat.le_trans hall enough) (Nat.le_trans hall hbound)

/-- The walk from a node lists the parts of its tree. -/
theorem finish_self (h : forest.Steady stands) (hnode : stands s node tree) :
    ∃ found later,
      (∀ more, forest.turns (tree.size + more) ⟨[], [node]⟩ s = (⟨found, []⟩, later)) ∧
      forest.descendantsOrSelf node s = (found, later) ∧
      List.Forall₂ (stands later) found tree.parts := by
  have hsize : Rose.sizeAll [tree] = tree.size := Nat.add_zero _
  have hparts : Rose.partsAll [tree] = tree.parts := List.append_nil _
  obtain ⟨found, later, hturns, hwalk, hfound⟩ := h.finish (.cons hnode .nil)
  rw [hparts] at hfound
  rw [hsize] at hturns hwalk
  exact ⟨found, later, hturns,
    (h.descendantsOrSelf_eq_walk hnode (Nat.le_refl _)).trans (hwalk 0), hfound⟩

/-- A walk from several nodes walks from one after the other. -/
theorem walk_eq_mapM (h : forest.Steady stands) (hstack : List.Forall₂ (stands s) stack trees)
    {fuel : Nat} (enough : Rose.sizeAll trees ≤ fuel) :
    forest.walk fuel stack s = (List.flatten <$> stack.mapM forest.descendantsOrSelf) s := by
  induction fuel generalizing s stack trees with
  | zero =>
      obtain rfl := Rose.sizeAll_eq_zero (Nat.le_zero.1 enough)
      cases hstack
      rfl
  | succ fuel ih =>
      cases hstack with
      | nil => rfl
      | cons hnode hstack =>
          rename_i node tree stack trees
          rw [Rose.sizeAll, Rose.size_eq] at enough
          have hchildren := h.children hnode
          have hbehind := hstack.imp fun _ _ => h.lasting hnode
          have hbelow := ih hchildren (by omega)
          have hself : forest.descendantsOrSelf node s = forest.walk (fuel + 1) [node] s :=
            h.descendantsOrSelf_eq_walk hnode (by rw [Rose.size_eq]; omega)
          rw [walk_cons, List.append_nil, hbelow, map_run] at hself
          have hall := ih (List.rel_append hchildren hbehind)
            (by rw [Rose.sizeAll_append]; omega)
          rw [List.mapM_append] at hall
          rw [walk_cons, hall, List.mapM_cons]
          simp only [map_run, bind_run, pure_run, hself, List.flatten_append, List.flatten_cons,
            List.cons_append]

/-- A node comes first, then what is listed from each of its children in turn. -/
theorem descendantsOrSelf_eq (h : forest.Steady stands) (hnode : stands s node tree) :
    forest.descendantsOrSelf node s = (do
      let children ← forest.children node
      let below ← children.mapM forest.descendantsOrSelf
      return node :: below.flatten : StateM σ (List α)) s := by
  rw [h.descendantsOrSelf_eq_walk hnode (Nat.le_of_eq (Rose.size_eq tree)), walk_cons,
    List.append_nil, h.walk_eq_mapM (h.children hnode) (Nat.le_refl _)]
  rfl

end Steady

-- ============================================================ the result

/-- The walk from a node that stands for a finite tree comes to an end. The loop has an empty stack
after as many turns as the tree has nodes, and has listed what the recursion lists: the node, then
what is listed from each of its children in turn. For each position in the tree one node is listed,
and it stands for what is at the position; each comes after all that are above it, and what is at
or below a child comes before what is at or below a later one. -/
theorem preorder_of_steady (h : forest.Steady stands) (hnode : stands s node tree) :
    ∃ found later,
      (∀ more, forest.turns (tree.size + more) ⟨[], [node]⟩ s = (⟨found, []⟩, later)) ∧
      forest.descendantsOrSelf node s = (found, later) ∧
      (do let children ← forest.children node
          let below ← children.mapM forest.descendantsOrSelf
          return node :: below.flatten : StateM σ (List α)) s = (found, later) ∧
      List.Forall₂ (fun position other => ∃ part,
        tree.part? position = some part ∧ stands later other part) tree.positions found ∧
      (∀ position, (∃! index : Nat, tree.positions[index]? = some position) ↔
        (tree.part? position).isSome) ∧
      (∀ (i j : Nat) above below, below ≠ [] → tree.positions[i]? = some above →
        tree.positions[j]? = some (above ++ below) → i < j) ∧
      ∀ (i j : Nat) above (first second : Nat) below beside, first < second →
        tree.positions[i]? = some (above ++ first :: below) →
        tree.positions[j]? = some (above ++ second :: beside) → i < j := by
  obtain ⟨found, later, hturns, hself, hfound⟩ := h.finish_self hnode
  exact ⟨found, later, hturns, hself, (h.descendantsOrSelf_eq hnode).symm.trans hself,
    forall₂_comp tree.forall₂_positions hfound, fun position => Rose.existsUnique_positions,
    fun i j above below hne hi hj => Rose.lt_of_positions hi hj (Rose.lt_append above hne),
    fun i j above first second below beside hlt hi hj =>
      Rose.lt_of_positions hi hj (Rose.append_lt_append above hlt below beside)⟩

end Forest

end TreeQuery.Query
