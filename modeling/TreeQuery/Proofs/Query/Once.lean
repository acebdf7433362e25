/-
Queries that find each node once.

# Trees

A forest is made of trees where no node has two parents and none has a child twice (`Branching`).
There the way down to a node is unique, so of two nodes above a third one is above the other
(`Below.comparable`), nothing is below two children of one node, and a walk lists each node once
(`Branching.nodup_preorder`).

# Steps

Up to the first descendant step, and with that step too, what is found is in document order, and
so each node is found once: steps along the child axis keep nodes apart. After it nodes lie below
each other and their order is lost, but a node can still be reached from its parent only, so steps
along the child axis keep the nodes distinct (`Branching.nodup_children`). One descendant step is
all there is room for: a second one finds the nodes below two nodes twice if one of them is below
the other.
-/
import Mathlib.Data.List.Nodup
import TreeQuery.Proofs.Engine.Types
import TreeQuery.Proofs.Query.Composition
import TreeQuery.Proofs.Query.Order

namespace TreeQuery.Query

open Expression (Axis Step)

variable {α ε : Type} {forest : Forest Id α} {size : α → Nat} {Part : α → Prop}

-- =========================================================== ways down

/-- From a node a way leads down to another, child by child. -/
inductive Below (forest : Forest Id α) (top : α) : α → Prop
  | self : Below forest top top
  | child {node child : α} : Below forest top node → child ∈ (forest.children node).run →
      Below forest top child

theorem Below.trans {x y z : α} (h : Below forest x y) (h' : Below forest y z) :
    Below forest x z := by
  induction h' with
  | self => exact h
  | child _ hc ih => exact ih.child hc

/-- A way down leads nowhere or goes through a child of the node it starts at. -/
theorem Below.eq_or_exists_child {x y : α} (h : Below forest x y) :
    y = x ∨ ∃ child ∈ (forest.children x).run, Below forest child y := by
  induction h with
  | self => exact .inl rfl
  | child hb hc ih =>
      rcases ih with rfl | ⟨first, hfirst, hbelow⟩
      · exact .inr ⟨_, hc, .self⟩
      · exact .inr ⟨first, hfirst, hbelow.child hc⟩

namespace Founded

theorem self_mem_preorder (h : Founded forest size) (node : α) : node ∈ preorder forest node := by
  rw [h.preorder_eq]
  exact List.mem_cons_self

theorem size_le_of_below (h : Founded forest size) {x y : α} (hb : Below forest x y) :
    size y ≤ size x := by
  induction hb with
  | self => exact Nat.le_refl _
  | child _ hc ih => exact Nat.le_trans (Nat.le_of_lt (h.size_lt hc)) ih

/-- A walk comes to nodes below the one it starts at only. -/
theorem below_of_mem_preorder (h : Founded forest size) {x y : α}
    (hy : y ∈ preorder forest x) : Below forest x y := by
  induction hsize : size x using Nat.strongRecOn generalizing x with
  | ind n ih =>
      rw [h.preorder_eq] at hy
      rcases List.mem_cons.1 hy with rfl | hy
      · exact .self
      · obtain ⟨child, hc, hy⟩ := List.mem_flatMap.1 hy
        have hchild : Below forest x child := Below.self.child hc
        exact hchild.trans (ih (size child) (hsize ▸ h.size_lt hc) hy rfl)

/-- A walk comes to the nodes below the one it starts at. -/
theorem mem_preorder_iff (h : Founded forest size) {x y : α} :
    y ∈ preorder forest x ↔ Below forest x y := by
  refine ⟨h.below_of_mem_preorder, fun hb => ?_⟩
  induction hsize : size x using Nat.strongRecOn generalizing x with
  | ind n ih =>
      rcases hb.eq_or_exists_child with rfl | ⟨child, hc, hchild⟩
      · exact h.self_mem_preorder y
      · rw [h.preorder_eq]
        exact List.mem_cons_of_mem _ (List.mem_flatMap.2
          ⟨child, hc, ih (size child) (hsize ▸ h.size_lt hc) hchild rfl⟩)

/-- A step finds nodes at and below the one it is taken from. -/
theorem below_of_mem_reach (h : Founded forest size) {step : Step} {node n : α}
    (hn : n ∈ reach forest step node) : Below forest node n :=
  h.below_of_mem_preorder ((h.reach_sublist step node).subset hn)

theorem below_of_mem_reachAll (h : Founded forest size) {steps : List Step} {nodes : List α}
    {n : α} (hn : n ∈ reachAll forest steps nodes) : ∃ node ∈ nodes, Below forest node n := by
  induction steps generalizing nodes with
  | nil => exact ⟨n, hn, .self⟩
  | cons step steps ih =>
      obtain ⟨middle, hm, hbelow⟩ := ih hn
      obtain ⟨node, hnode, hm⟩ := List.mem_flatMap.1 hm
      exact ⟨node, hnode, (h.below_of_mem_reach hm).trans hbelow⟩

end Founded

-- =============================================================== trees

/-- The nodes with a property make up trees: it goes over to the children, which are distinct, and
no node is a child of two. -/
structure Branching (forest : Forest Id α) (Part : α → Prop) : Prop where
  below : ∀ {node}, Part node → ∀ child ∈ (forest.children node).run, Part child
  distinct : ∀ {node}, Part node → (forest.children node).run.Nodup
  parent : ∀ {x y child}, Part x → Part y → child ∈ (forest.children x).run →
    child ∈ (forest.children y).run → x = y

namespace Branching

theorem of_below (b : Branching forest Part) {x y : α} (hx : Part x) (h : Below forest x y) :
    Part y := by
  induction h with
  | self => exact hx
  | child _ hc ih => exact b.below ih _ hc

/-- Of two nodes above a third, one is above the other: the ways up from there are the same. -/
theorem comparable (b : Branching forest Part) {x y z : α} (hx : Part x) (hy : Part y)
    (h : Below forest x z) (h' : Below forest y z) : Below forest x y ∨ Below forest y x := by
  induction h with
  | self => exact .inr h'
  | @child node child hnode hc ih =>
      cases h' with
      | self => exact .inl (hnode.child hc)
      | @child other _ hother hc' =>
          obtain rfl := b.parent (b.of_below hx hnode) (b.of_below hy hother) hc hc'
          exact ih hother

/-- A child of a node is not below another. -/
theorem not_below_sibling (b : Branching forest Part) (h : Founded forest size) {node x y : α}
    (hn : Part node) (hx : x ∈ (forest.children node).run) (hy : y ∈ (forest.children node).run)
    (hne : x ≠ y) : ¬ Below forest x y := by
  intro hb
  cases hb with
  | self => exact hne rfl
  | @child other _ hother hc =>
      have hpart : Part other := b.of_below (b.below hn x hx) hother
      obtain rfl := b.parent hpart hn hc hy
      exact absurd (h.size_lt hx) (Nat.not_lt.2 (h.size_le_of_below hother))

theorem disjoint_siblings (b : Branching forest Part) (h : Founded forest size) {node x y : α}
    (hn : Part node) (hx : x ∈ (forest.children node).run) (hy : y ∈ (forest.children node).run)
    (hne : x ≠ y) : List.Disjoint (preorder forest x) (preorder forest y) := by
  intro z hzx hzy
  rcases b.comparable (b.below hn x hx) (b.below hn y hy) (h.below_of_mem_preorder hzx)
    (h.below_of_mem_preorder hzy) with hb | hb
  · exact b.not_below_sibling h hn hx hy hne hb
  · exact b.not_below_sibling h hn hy hx (Ne.symm hne) hb

/-- A walk comes to each node once. -/
theorem nodup_preorder (b : Branching forest Part) (h : Founded forest size) {node : α}
    (hn : Part node) : (preorder forest node).Nodup := by
  induction hsize : size node using Nat.strongRecOn generalizing node with
  | ind n ih =>
      rw [h.preorder_eq, List.nodup_cons, List.nodup_flatMap]
      refine ⟨fun hm => ?_, fun child hc => ?_, ?_⟩
      · obtain ⟨child, hc, hm⟩ := List.mem_flatMap.1 hm
        have hle := h.size_le_of_below (h.below_of_mem_preorder hm)
        exact absurd (h.size_lt hc) (Nat.not_lt.2 hle)
      · exact ih (size child) (hsize ▸ h.size_lt hc) (b.below hn child hc) rfl
      · exact (b.distinct hn).imp_of_mem fun hx hy hne => b.disjoint_siblings h hn hx hy hne

-- =============================================================== steps

/-- Steps along the child axis lead from distinct nodes to distinct nodes. -/
theorem nodup_children (b : Branching forest Part) {step : Step} (child : step.axis = .child)
    {nodes : List α} (parts : ∀ node ∈ nodes, Part node) (distinct : nodes.Nodup) :
    (nodes.flatMap (reach forest step)).Nodup := by
  have halong : ∀ node, (reach forest step node).Sublist (forest.children node).run := by
    intro node
    have hsub := reach_sublist_along forest step node
    rw [child] at hsub
    exact hsub
  rw [List.nodup_flatMap]
  refine ⟨fun node hn => (b.distinct (parts node hn)).sublist (halong node), ?_⟩
  refine distinct.imp_of_mem fun {x y} hx hy hne n hnx hny => hne ?_
  exact b.parent (parts x hx) (parts y hy) ((halong x).subset hnx) ((halong y).subset hny)

theorem nodup_reachAll_children (b : Branching forest Part) (h : Founded forest size)
    {steps : List Step} (children : ∀ step ∈ steps, step.axis = .child) {nodes : List α}
    (parts : ∀ node ∈ nodes, Part node) (distinct : nodes.Nodup) :
    (reachAll forest steps nodes).Nodup := by
  induction steps generalizing nodes with
  | nil => exact distinct
  | cons step steps ih =>
      obtain ⟨hstep, hsteps⟩ := List.forall_mem_cons.1 children
      refine ih hsteps (fun n hn => ?_) (b.nodup_children hstep parts distinct)
      obtain ⟨node, hnode, hn⟩ := List.mem_flatMap.1 hn
      exact b.of_below (parts node hnode) (h.below_of_mem_reach hn)

end Branching

/-- As long as no step goes on from what a descendant step has found, what is found is in document
order. -/
theorem Founded.reachAll_sublist (h : Founded forest size) {steps : List Step}
    (last : ∀ step ∈ steps.dropLast, step.axis = .child) (root : α) :
    (reachAll forest steps [root]).Sublist (preorder forest root) := by
  rcases List.eq_nil_or_concat steps with rfl | ⟨before, step, rfl⟩
  · exact List.singleton_sublist.2 (h.self_mem_preorder root)
  · rw [List.concat_eq_append, List.dropLast_concat] at last
    have hsteps : reachAll forest (before.concat step) [root] =
        (reachAll forest before [root]).flatMap (reach forest step) := by
      rw [List.concat_eq_append]
      exact List.foldl_append
    rw [hsteps]
    exact (spread_reachAll h last (spread_root forest root)).reach h step

-- ========================================================== evaluation

/-- How many steps look at all that is below. -/
def descents (steps : List Step) : Nat := steps.countP fun step => step.axis == .descendant

/-- Steps of which one at most looks at all that is below: up to that step none goes on from it, and
after it all go along the child axis. -/
theorem exists_split_of_descents {steps : List Step} (once : descents steps ≤ 1) :
    ∃ before after, steps = before ++ after ∧
      (∀ step ∈ before.dropLast, step.axis = .child) ∧ ∀ step ∈ after, step.axis = .child := by
  induction steps with
  | nil => exact ⟨[], [], rfl, fun _ hs => absurd hs List.not_mem_nil,
      fun _ hs => absurd hs List.not_mem_nil⟩
  | cons step steps ih =>
      unfold descents at once ih
      rw [List.countP_cons] at once
      cases haxis : step.axis with
      | descendant =>
          rw [haxis, beq_self_eq_true, if_pos rfl] at once
          have hnone := List.countP_eq_zero.1 (Nat.le_zero.1 (Nat.le_of_succ_le_succ once))
          refine ⟨[step], steps, rfl, fun _ hs => absurd hs List.not_mem_nil, fun other ho => ?_⟩
          cases hother : other.axis with
          | child => rfl
          | descendant => exact absurd (beq_iff_eq.2 hother) (hnone other ho)
      | child =>
          obtain ⟨before, after, rfl, hbefore, hafter⟩ :=
            ih (Nat.le_trans (Nat.le_add_right _ _) once)
          refine ⟨step :: before, after, rfl, fun other ho => ?_, hafter⟩
          cases before with
          | nil => cases ho
          | cons first before =>
              rcases List.mem_cons.1 ho with rfl | ho
              · exact haxis
              · exact hbefore other ho

/-- A name stands for a tag if it is known as one and no type is registered under it. -/
theorem Registry.resolve?_eq_tag_iff {π : Type} {registry : Registry π} {name : String} :
    registry.resolve? name = some (.tag name) ↔
      registry.type? name = none ∧ registry.isTag name = true := by
  unfold resolve?
  cases registry.type? name with
  | some type => simp
  | none => simp

/-- The steps name no types but tags that are known. -/
def Tagged {π : Type} (registry : Registry π) (steps : List Step) : Prop :=
  ∀ step ∈ steps, ∀ name ∈ step.typeName?, registry.resolve? name = some (.tag name)

namespace Tagged

variable {registry : Registry (Provider Id α ε)} {steps : List Step}

theorem structural {π : Type} {registry : Registry π} (h : Tagged registry steps) :
    Structural registry steps :=
  fun step hs name hn => (Registry.resolve?_eq_tag_iff.1 (h step hs name hn)).1

theorem knowsType (h : Tagged registry steps) : ∀ step ∈ steps, KnowsType registry step := by
  intro step hs name hn
  rw [h step hs name hn]
  rfl

/-- The types behind other names do not matter. -/
theorem map {π ρ : Type} {registry : Registry π} (h : Tagged registry steps) (f : π → ρ) :
    Tagged (registry.map f) steps := by
  intro step hs name hn
  obtain ⟨htype, htag⟩ := Registry.resolve?_eq_tag_iff.1 (h step hs name hn)
  refine Registry.resolve?_eq_tag_iff.2 ⟨?_, htag⟩
  rw [Registry.type?_map, htype]
  rfl

/-- An evaluation of such steps finds what they reach. -/
theorem evaluate (h : Tagged registry steps) (forest : Forest Id α) (text : String) (root : α) :
    (evaluate forest registry false ⟨text, steps⟩ root).run =
      .ok (reachAll forest steps [root]) := by
  obtain ⟨resolved, hresolved⟩ := exists_resolveSteps h.knowsType
  rw [evaluate_eq_applySteps hresolved, applySteps_of_structural h.structural hresolved]
  rfl

end Tagged

/-- In trees, steps of which one at most looks at all that is below find each node once. -/
theorem Branching.nodup_reachAll (b : Branching forest Part) (h : Founded forest size)
    {steps : List Step} (once : descents steps ≤ 1) {root : α} (hr : Part root) :
    (reachAll forest steps [root]).Nodup := by
  obtain ⟨before, after, rfl, hbefore, hafter⟩ := exists_split_of_descents once
  have hsteps : reachAll forest (before ++ after) [root] =
      reachAll forest after (reachAll forest before [root]) := List.foldl_append
  rw [hsteps]
  refine b.nodup_reachAll_children h hafter (fun n hn => ?_)
    ((b.nodup_preorder h hr).sublist (h.reachAll_sublist hbefore root))
  obtain ⟨node, hnode, hbelow⟩ := h.below_of_mem_reachAll hn
  exact b.of_below (List.mem_singleton.1 hnode ▸ hr) hbelow

end TreeQuery.Query
