/-
The order of what queries find.

# Document order

The nodes at and below a node are listed by the walk that descendant steps take (`preorder`), each
before what is below it and in front of its later siblings. The walk has fuel, the extent of the
node it starts at. In a founded tree that is enough: nodes have sizes, a node is larger than its
children together, and its extent is no less than its size. There the list is the node followed by
the lists of its children (`preorder_eq`), and a list of nodes is in document order if it is a
sublist of that of the root.

# What keeps the order

A step finds nodes in document order below each node it is taken from (`reach_sublist`), and puts
these lists one after the other. If the nodes it is taken from stand apart, so that the lists of
what is below them follow each other in the tree, the result is in document order. Going along the
child axis leads from nodes that stand apart to others that do (`Spread.children`); and nodes in
document order stand apart if none is below another (`spread_of_apart`). A descendant step reaches
nodes below each other, so a step after it finds them in the order of those, which need not be
that of the document.
-/
import Mathlib.Algebra.GroupWithZero.Nat
import Mathlib.Algebra.Order.BigOperators.Group.List
import Mathlib.Algebra.Order.Group.Nat
import Mathlib.Data.List.Flatten
import TreeQuery.Proofs.Query.Plain

namespace TreeQuery.Query

open Expression (Axis NodeTest Predicate Program Step)

variable {α ε : Type}

-- ======================================================= document order

/-- The nodes that a walk visits. -/
def visited (forest : Forest Id α) (fuel : Nat) (stack : List α) : List α :=
  (forest.walk fuel stack).run

theorem visited_nil (forest : Forest Id α) (fuel : Nat) : visited forest fuel [] = [] := by
  cases fuel with
  | zero => rfl
  | succ fuel => rfl

theorem visited_cons (forest : Forest Id α) (fuel : Nat) (node : α) (stack : List α) :
    visited forest (fuel + 1) (node :: stack) =
      node :: visited forest fuel ((forest.children node).run ++ stack) := rfl

/-- Nodes have sizes by which the walk from any of them has enough fuel. -/
structure Founded (forest : Forest Id α) (size : α → Nat) : Prop where
  below : ∀ node, ((forest.children node).run.map size).sum < size node
  extent : ∀ node, size node ≤ (forest.extent node).run

namespace Founded

variable {forest : Forest Id α} {size : α → Nat}

/-- What is put on the stack is smaller than what was taken off. -/
theorem push (h : Founded forest size) {node : α} {stack : List α} {fuel : Nat}
    (enough : ((node :: stack).map size).sum ≤ fuel) :
    (((forest.children node).run ++ stack).map size).sum < fuel := by
  have hlt := h.below node
  rw [List.map_cons, List.sum_cons] at enough
  rw [List.map_append, List.sum_append]
  omega

/-- Fuel for everything on the stack is enough. -/
theorem visited_of_enough (h : Founded forest size) {fuel more : Nat} {stack : List α}
    (enough : (stack.map size).sum ≤ fuel) (le : fuel ≤ more) :
    visited forest more stack = visited forest fuel stack := by
  induction fuel generalizing more stack with
  | zero =>
      cases stack with
      | nil => rw [visited_nil, visited_nil]
      | cons node stack => exact absurd (h.push enough) (Nat.not_lt_zero _)
  | succ fuel ih =>
      obtain ⟨more, rfl⟩ := Nat.exists_eq_add_of_le' (Nat.le_trans (Nat.succ_pos fuel) le)
      cases stack with
      | nil => rfl
      | cons node stack =>
          rw [visited_cons, visited_cons,
            ih (Nat.le_of_lt_succ (h.push enough)) (Nat.le_of_succ_le_succ le)]

/-- A walk from one stack on top of another. -/
theorem visited_append (h : Founded forest size) {fuel : Nat} {xs ys : List α}
    (enough : ((xs ++ ys).map size).sum ≤ fuel) :
    visited forest fuel (xs ++ ys) = visited forest fuel xs ++ visited forest fuel ys := by
  induction fuel generalizing xs ys with
  | zero => rfl
  | succ fuel ih =>
      cases xs with
      | nil => rw [visited_nil, List.nil_append, List.nil_append]
      | cons node xs =>
          have hpush : (((forest.children node).run ++ xs ++ ys).map size).sum ≤ fuel := by
            rw [List.append_assoc]
            exact Nat.le_of_lt_succ (h.push enough)
          have hys : (ys.map size).sum ≤ fuel := by
            rw [List.map_append, List.sum_append] at hpush
            omega
          rw [List.cons_append, visited_cons, visited_cons, ← List.append_assoc, ih hpush,
            h.visited_of_enough hys (Nat.le_succ fuel), List.cons_append]

theorem preorder_eq_visited (h : Founded forest size) {fuel : Nat} {node : α}
    (enough : size node ≤ fuel) : preorder forest node = visited forest fuel [node] := by
  have hsize : (([node] : List α).map size).sum = size node := List.sum_singleton
  have hexact : ∀ more, size node ≤ more → visited forest more [node] =
      visited forest (size node) [node] := fun _ => h.visited_of_enough (Nat.le_of_eq hsize)
  exact (hexact _ (h.extent node)).trans (hexact fuel enough).symm

theorem visited_eq_flatMap (h : Founded forest size) {fuel : Nat} {stack : List α}
    (enough : (stack.map size).sum ≤ fuel) :
    visited forest fuel stack = stack.flatMap (preorder forest) := by
  induction stack with
  | nil => exact visited_nil forest fuel
  | cons node stack ih =>
      have hboth : (([node] ++ stack).map size).sum ≤ fuel := enough
      rw [List.map_cons, List.sum_cons] at enough
      have hnode : preorder forest node = visited forest fuel [node] :=
        h.preorder_eq_visited (by omega)
      rw [← List.singleton_append, h.visited_append hboth, ih (by omega), ← hnode]
      rfl

/-- A node comes first, then what is below each of its children in turn. -/
theorem preorder_eq (h : Founded forest size) (node : α) :
    preorder forest node = node :: (forest.children node).run.flatMap (preorder forest) := by
  have hlt := h.below node
  obtain ⟨fuel, hfuel⟩ := Nat.exists_eq_add_of_le' (Nat.lt_of_le_of_lt (Nat.zero_le _) hlt)
  rw [h.preorder_eq_visited (Nat.le_of_eq hfuel), visited_cons, List.append_nil,
    h.visited_eq_flatMap (by omega)]

end Founded

-- ===================================================== what steps find

variable {forest : Forest Id α} {size : α → Nat}

/-- A predicate keeps nodes in their order. -/
theorem keep_sublist (forest : Forest Id α) (found : List α) (predicate : Predicate) :
    (keep forest found predicate).Sublist found := by
  match predicate with
  | .attribute name value => exact List.filter_sublist
  | .hasChild name => exact List.filter_sublist
  | .position 0 => exact List.nil_sublist found
  | .position (place + 1) =>
      show (found[place]?.toList).Sublist found
      cases hplace : found[place]? with
      | none => exact List.nil_sublist found
      | some node => exact List.singleton_sublist.2 (List.mem_of_getElem? hplace)

theorem foldl_keep_sublist (forest : Forest Id α) (predicates : List Predicate) (found : List α) :
    (predicates.foldl (keep forest) found).Sublist found := by
  induction predicates generalizing found with
  | nil => exact List.Sublist.refl found
  | cons predicate predicates ih =>
      exact (ih (keep forest found predicate)).trans (keep_sublist forest found predicate)

/-- What a step finds from a node is in the order of its axis. -/
theorem reach_sublist_along (forest : Forest Id α) (step : Step) (node : α) :
    (reach forest step node).Sublist (along forest step.axis node) :=
  (foldl_keep_sublist forest step.predicates _).trans List.filter_sublist

/-- Lists put one after the other, each a part of another. -/
theorem flatMap_sublist_flatMap {β : Type} {f g : α → List β} (h : ∀ x, (f x).Sublist (g x))
    {xs ys : List α} (hxs : xs.Sublist ys) : (xs.flatMap f).Sublist (ys.flatMap g) := by
  induction hxs with
  | slnil => exact List.Sublist.refl _
  | cons y _ ih => exact ih.trans (List.sublist_append_right (g y) _)
  | cons_cons x _ ih => exact (h x).append ih

theorem Founded.children_sublist (h : Founded forest size) (node : α) :
    ((forest.children node).run.flatMap (preorder forest)).Sublist (preorder forest node) := by
  rw [h.preorder_eq]
  exact List.sublist_cons_self _ _

/-- What a step finds from a node is in document order. -/
theorem Founded.reach_sublist (h : Founded forest size) (step : Step) (node : α) :
    (reach forest step node).Sublist (preorder forest node) := by
  refine (reach_sublist_along forest step node).trans ?_
  cases step.axis with
  | descendant => exact List.Sublist.refl _
  | child =>
      have hself : ∀ x, [x].Sublist (preorder forest x) := fun x => by
        rw [h.preorder_eq]
        exact List.singleton_sublist.2 List.mem_cons_self
      have hchildren := (flatMap_sublist_flatMap hself (List.Sublist.refl
        (forest.children node).run)).trans (h.children_sublist node)
      rw [List.flatMap_singleton'] at hchildren
      exact hchildren

-- ======================================================= standing apart

/-- The nodes, each with what is below it, follow each other in the tree below the root. -/
def Spread (forest : Forest Id α) (root : α) (nodes : List α) : Prop :=
  (nodes.flatMap (preorder forest)).Sublist (preorder forest root)

theorem spread_root (forest : Forest Id α) (root : α) : Spread forest root [root] := by
  unfold Spread
  rw [List.flatMap_singleton]

/-- A step along the child axis leads from nodes that stand apart to nodes that do. -/
theorem Spread.children (h : Founded forest size) {root : α} {nodes : List α} {step : Step}
    (spread : Spread forest root nodes) (child : step.axis = .child) :
    Spread forest root (nodes.flatMap (reach forest step)) := by
  unfold Spread
  rw [List.flatMap_assoc]
  refine (flatMap_sublist_flatMap (fun node => ?_) (List.Sublist.refl nodes)).trans spread
  refine (flatMap_sublist_flatMap (fun x => List.Sublist.refl _) ?_).trans (h.children_sublist node)
  have halong := reach_sublist_along forest step node
  rw [child] at halong
  exact halong

/-- Any step finds nodes in document order from nodes that stand apart. -/
theorem Spread.reach (h : Founded forest size) {root : α} {nodes : List α} (step : Step)
    (spread : Spread forest root nodes) :
    (nodes.flatMap (reach forest step)).Sublist (preorder forest root) :=
  (flatMap_sublist_flatMap (h.reach_sublist step) (List.Sublist.refl nodes)).trans spread

theorem Founded.size_lt (h : Founded forest size) {node child : α}
    (hc : child ∈ (forest.children node).run) : size child < size node :=
  Nat.lt_of_le_of_lt (List.le_sum_of_mem (List.mem_map_of_mem hc)) (h.below node)

/-- Nodes in the order of several trees stand apart as they do in each. -/
theorem flatMap_sublist_of_apart {nodes trees : List α}
    (order : nodes.Sublist (trees.flatMap (preorder forest)))
    (apart : nodes.Pairwise fun x y => y ∉ preorder forest x)
    (each : ∀ tree ∈ trees, ∀ part : List α, part.Sublist (preorder forest tree) →
      (part.Pairwise fun x y => y ∉ preorder forest x) → Spread forest tree part) :
    (nodes.flatMap (preorder forest)).Sublist (trees.flatMap (preorder forest)) := by
  induction trees generalizing nodes with
  | nil =>
      obtain rfl := List.sublist_nil.1 order
      exact List.Sublist.refl _
  | cons tree trees ih =>
      obtain ⟨part, rest, rfl, hpart, hrest⟩ := List.sublist_append_iff.1 order
      obtain ⟨happart, haprest, -⟩ := List.pairwise_append.1 apart
      obtain ⟨htree, htrees⟩ := List.forall_mem_cons.1 each
      rw [List.flatMap_append]
      exact (htree part hpart happart).append (ih hrest haprest htrees)

/-- Nodes in document order stand apart if none is below an earlier one. -/
theorem spread_of_apart (h : Founded forest size) {root : α} {nodes : List α}
    (order : nodes.Sublist (preorder forest root))
    (apart : nodes.Pairwise fun x y => y ∉ preorder forest x) : Spread forest root nodes := by
  induction hsize : size root using Nat.strongRecOn generalizing root nodes with
  | ind n ih =>
      rw [h.preorder_eq] at order
      rcases List.sublist_cons_iff.1 order with order | ⟨rest, rfl, hrest⟩
      · refine (flatMap_sublist_of_apart order apart fun child hc part hpart hap => ?_).trans
          (h.children_sublist root)
        exact ih (size child) (hsize ▸ h.size_lt hc) hpart hap rfl
      · -- what comes after the root is below it, so nothing does
        cases rest with
        | nil => exact spread_root forest root
        | cons node rest =>
            have hbelow : node ∈ preorder forest root :=
              (h.children_sublist root).subset (hrest.subset List.mem_cons_self)
            exact absurd hbelow (List.rel_of_pairwise_cons apart List.mem_cons_self)

-- ========================================================== evaluation

variable {registry : Registry (Provider Id α ε)}

theorem spread_reachAll (h : Founded forest size) {steps : List Step}
    (children : ∀ step ∈ steps, step.axis = .child) {root : α} {nodes : List α}
    (spread : Spread forest root nodes) : Spread forest root (reachAll forest steps nodes) := by
  induction steps generalizing nodes with
  | nil => exact spread
  | cons step steps ih =>
      obtain ⟨hstep, hsteps⟩ := List.forall_mem_cons.1 children
      exact ih hsteps (spread.children h hstep)

theorem dropRepeated_sublist (address : α → String) (nodes : List α) :
    (dropRepeated address nodes).Sublist nodes := by
  induction nodes with
  | nil => exact List.Sublist.refl _
  | cons node nodes ih => exact (List.filter_sublist.trans ih).cons_cons node

/-- What steps without registered types find stands below the nodes that all steps but the last
reach, node by node in document order. If those nodes stand apart, as they do if the steps that
reach them go along the child axis, or if they are in document order and none is below another,
then all that is found is in document order. -/
theorem evaluate_ordered (h : Founded forest size) {steps : List Step} {last : Step}
    {text : String} {dedupe : Bool} {root : α} {found : List α}
    (structural : Structural registry (steps ++ [last]))
    (hfound : (evaluate forest registry dedupe ⟨text, steps ++ [last]⟩ root).run = .ok found) :
    ∃ contexts, (evaluate forest registry false ⟨text, steps⟩ root).run = .ok contexts ∧
      found.Sublist (contexts.flatMap (preorder forest)) ∧
      ((∀ step ∈ steps, step.axis = .child) → found.Sublist (preorder forest root)) ∧
      (contexts.Sublist (preorder forest root) →
        (contexts.Pairwise fun x y => y ∉ preorder forest x) →
        found.Sublist (preorder forest root)) := by
  obtain ⟨resolved, reached, hresolved, -⟩ := evaluate_eq_ok.1 hfound
  obtain ⟨before, -, hbefore, -, -⟩ := resolveSteps_append_eq_ok.1 hresolved
  have hcontexts : (evaluate forest registry false ⟨text, steps⟩ root).run =
      .ok (reachAll forest steps [root]) := by
    refine evaluate_eq_ok.2 ⟨before, _, hbefore, ?_, rfl⟩
    rw [applySteps_of_structural (fun step hs => structural step (List.mem_append_left _ hs))
      hbefore]
    rfl
  refine ⟨_, hcontexts, ?_⟩
  have hlast : reachAll forest (steps ++ [last]) [root] =
      (reachAll forest steps [root]).flatMap (reach forest last) := List.foldl_append
  have hsub : found.Sublist ((reachAll forest steps [root]).flatMap (reach forest last)) := by
    rw [reachAll_of_evaluate structural hfound, ← hlast]
    split
    · exact dropRepeated_sublist _ _
    · exact List.Sublist.refl _
  refine ⟨hsub.trans (flatMap_sublist_flatMap (h.reach_sublist last) (List.Sublist.refl _)),
    fun children => hsub.trans ?_, fun order apart => hsub.trans ?_⟩
  · exact (spread_reachAll h children (spread_root forest root)).reach h last
  · exact (spread_of_apart h order apart).reach h last

end TreeQuery.Query
