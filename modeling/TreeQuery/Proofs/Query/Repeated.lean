/-
Nodes that are found more than once.

# What is dropped

An evaluation that is asked to drop repeated nodes does all that one does which is not asked to,
and then keeps of its nodes those whose address no earlier one has (`firstOfEach`,
`evaluate_dedupe`). So if nodes with one address are alike, nothing is lost.

# Kinds

Whether they are alike is a question about the nodes of one result. Nodes come in kinds
(`Kinds`): what is below a node is of its kind, and a type finds from the nodes of a kind nodes
of one kind, which may be another. A step keeps to the axis or asks one type, so from nodes of
one kind it reaches nodes of one kind. Hence all nodes of a result are of one kind
(`exists_kind_of_evaluate`), and it is enough that no two nodes of a kind share an address.
-/
import TreeQuery.Proofs.Query.Order

namespace TreeQuery.Query

open Expression (Program Step)

-- ================================================== the first of each

section FirstOfEach

variable {α : Type}

/-- The nodes with a key that no earlier one has. -/
def firstOfEach (key : α → String) (nodes : List α) : List α :=
  (nodes.zipIdx.filter fun (node, place) =>
    (nodes.take place).all fun earlier => key earlier != key node).map (·.1)

theorem firstOfEach_cons (key : α → String) (node : α) (nodes : List α) :
    firstOfEach key (node :: nodes) =
      node :: (firstOfEach key nodes).filter fun n => key n != key node := by
  unfold firstOfEach
  rw [List.zipIdx_cons, List.zipIdx_succ, List.filter_cons_of_pos rfl, List.map_cons,
    List.filter_map, List.map_map, List.filter_map, List.filter_filter]
  refine congrArg (node :: List.map _ ·) (List.filter_congr fun ⟨n, place⟩ _ => ?_)
  show ((node :: nodes).take (place + 1)).all (fun earlier => key earlier != key n) = _
  rw [List.take_succ_cons, List.all_cons, bne_comm]
  rfl

theorem dropRepeated_eq (key : α → String) (nodes : List α) :
    dropRepeated key nodes = firstOfEach key nodes := by
  induction nodes with
  | nil => rfl
  | cons node nodes ih => rw [firstOfEach_cons, ← ih, dropRepeated]

end FirstOfEach

/-- Dropping repeated nodes is the last thing an evaluation does. -/
theorem evaluate_dedupe {m : Type → Type} [Monad m] [LawfulMonad m] {α ε : Type}
    (forest : Forest m α) (registry : Registry (Provider m α ε)) (program : Program) (root : α) :
    evaluate forest registry true program root =
      firstOfEach forest.address <$> evaluate forest registry false program root := by
  unfold evaluate
  simp only [map_bind, map_pure, if_true, dropRepeated_eq]
  rfl

-- ============================================================== kinds

variable {α ε κ : Type} {forest : Forest Id α} {registry : Registry (Provider Id α ε)}
  {Is : κ → α → Prop}

/-- Nodes come in kinds. -/
structure Kinds (forest : Forest Id α) (registry : Registry (Provider Id α ε))
    (Is : κ → α → Prop) : Prop where
  /-- What is below a node is of its kind. -/
  below : ∀ {kind node}, Is kind node → ∀ child ∈ (forest.children node).run, Is kind child
  /-- From nodes of one kind a type finds nodes of one kind. -/
  finds : ∀ entry ∈ registry.types, ∀ kind, ∃ other, ∀ node, Is kind node →
    ∀ found, (entry.2.find node).run = .ok found → ∀ n ∈ found, Is other n

namespace Kinds

theorem visited (h : Kinds forest registry Is) {kind : κ} {fuel : Nat} {stack : List α}
    (hs : ∀ node ∈ stack, Is kind node) : ∀ node ∈ visited forest fuel stack, Is kind node := by
  induction fuel generalizing stack with
  | zero => exact fun node hn => by cases hn
  | succ fuel ih =>
      cases stack with
      | nil => exact fun node hn => by cases hn
      | cons first stack =>
          obtain ⟨hfirst, hrest⟩ := List.forall_mem_cons.1 hs
          rw [visited_cons]
          exact List.forall_mem_cons.2
            ⟨hfirst, ih (List.forall_mem_append.2 ⟨h.below hfirst, hrest⟩)⟩

theorem along (h : Kinds forest registry Is) {kind : κ} {node : α} (hn : Is kind node)
    (axis : Expression.Axis) : ∀ n ∈ along forest axis node, Is kind n := by
  cases axis with
  | child => exact h.below hn
  | descendant => exact h.visited (List.forall_mem_singleton.2 hn)

theorem findFromEach {provider : Provider Id α ε} {kind other : κ}
    (finds : ∀ node, Is kind node → ∀ found, (provider.find node).run = .ok found →
      ∀ n ∈ found, Is other n) {nodes found : List α} (hs : ∀ node ∈ nodes, Is kind node)
    (h : (findFromEach provider nodes).run = .ok found) : ∀ n ∈ found, Is other n := by
  induction nodes generalizing found with
  | nil =>
      obtain rfl := run_pure_eq_ok.1 h
      exact fun n hn => by cases hn
  | cons node nodes ih =>
      obtain ⟨hnode, hrest⟩ := List.forall_mem_cons.1 hs
      unfold Query.findFromEach at h
      obtain ⟨result, hresult, h⟩ := run_bind_eq_ok.1 h
      obtain rfl : provider.find node = result := Except.ok.inj hresult
      cases hfind : provider.find node with
      | error e =>
          rw [hfind] at h
          cases h
      | ok members =>
          rw [hfind] at h
          obtain ⟨more, hmore, h⟩ := run_bind_eq_ok.1 h
          obtain rfl := run_pure_eq_ok.1 h
          exact List.forall_mem_append.2 ⟨finds node hnode members hfind, ih hrest hmore⟩

/-- From the nodes of a kind a step finds nodes of one kind, before its predicates. -/
theorem exists_kind_of_expand (h : Kinds forest registry Is) (step : Step)
    {resolution : Option (Resolution (Provider Id α ε))}
    (known : Resolution.Known registry resolution) (kind : κ) :
    ∃ other, ∀ node, Is kind node → ∀ found, (expand forest step resolution node).run = .ok found →
      ∀ n ∈ found, Is other n := by
  have selects : ∀ node, Is kind node → ∀ found,
      (.ok (select forest step node).run : Except (Failure ε) (List α)) = .ok found →
      ∀ n ∈ found, Is kind n := by
    intro node hn found hfound
    rw [run_select] at hfound
    obtain rfl := Except.ok.inj hfound
    exact fun n hm => h.along hn step.axis n (List.mem_of_mem_filter hm)
  match resolution, known with
  | none, _ => exact ⟨kind, selects⟩
  | some (.tag _), _ => exact ⟨kind, selects⟩
  | some (.registered name type), known =>
      obtain ⟨entry, hentry, rfl⟩ := known name type rfl
      obtain ⟨other, finds⟩ := h.finds entry hentry kind
      refine ⟨other, fun node hn found hfound => ?_⟩
      unfold expand at hfound
      cases haxis : step.axis with
      | child =>
          simp only [haxis] at hfound
          exact findFromEach finds (List.forall_mem_singleton.2 hn) hfound
      | descendant =>
          simp only [haxis] at hfound
          obtain ⟨nodes, hnodes, hfound⟩ := run_bind_eq_ok.1 hfound
          obtain rfl : preorder forest node = nodes := Except.ok.inj hnodes
          exact findFromEach finds (h.along hn .descendant) hfound

/-- From nodes of one kind a step reaches nodes of one kind. -/
theorem exists_kind_of_applyStep (h : Kinds forest registry Is) (step : Step)
    {resolution : Option (Resolution (Provider Id α ε))}
    (known : Resolution.Known registry resolution) (kind : κ) :
    ∃ other, ∀ nodes found, (∀ node ∈ nodes, Is kind node) →
      (applyStep forest step resolution nodes).run = .ok found → ∀ n ∈ found, Is other n := by
  obtain ⟨other, expands⟩ := h.exists_kind_of_expand step known kind
  refine ⟨other, fun nodes => ?_⟩
  induction nodes with
  | nil =>
      intro found _ hfound
      obtain rfl := run_pure_eq_ok.1 hfound
      exact fun n hn => by cases hn
  | cons node nodes ih =>
      intro found hs hfound
      obtain ⟨hnode, hrest⟩ := List.forall_mem_cons.1 hs
      obtain ⟨members, hmembers, hfound⟩ := run_bind_eq_ok.1 hfound
      obtain ⟨kept, hkept, hfound⟩ := run_bind_eq_ok.1 hfound
      obtain ⟨more, hmore, hfound⟩ := run_bind_eq_ok.1 hfound
      obtain rfl := run_pure_eq_ok.1 hfound
      obtain rfl : (applyPredicates forest step.predicates members).run = kept :=
        Except.ok.inj hkept
      rw [run_applyPredicates]
      exact List.forall_mem_append.2 ⟨fun n hn => expands node hnode members hmembers n
        ((foldl_keep_sublist forest _ _).subset hn), ih more hrest hmore⟩

theorem exists_kind_of_applySteps (h : Kinds forest registry Is)
    {steps : List (Step × Option (Resolution (Provider Id α ε)))}
    (known : ∀ entry ∈ steps, Resolution.Known registry entry.2) {kind : κ} {nodes found : List α}
    (hs : ∀ node ∈ nodes, Is kind node) (hfound : (applySteps forest steps nodes).run = .ok found) :
    ∃ other, ∀ n ∈ found, Is other n := by
  induction steps generalizing kind nodes with
  | nil =>
      obtain rfl := run_pure_eq_ok.1 hfound
      exact ⟨kind, hs⟩
  | cons first steps ih =>
      obtain ⟨step, resolution⟩ := first
      obtain ⟨hfirst, hrest⟩ := List.forall_mem_cons.1 known
      obtain ⟨reached, hreached, hfound⟩ := run_bind_eq_ok.1 hfound
      obtain ⟨other, hother⟩ := h.exists_kind_of_applyStep step hfirst kind
      exact ih hrest (hother nodes reached hs hreached) hfound

/-- All nodes of a result are of one kind. -/
theorem exists_kind_of_evaluate (h : Kinds forest registry Is) {dedupe : Bool}
    {program : Program} {kind : κ} {root : α} {found : List α} (hr : Is kind root)
    (hfound : (evaluate forest registry dedupe program root).run = .ok found) :
    ∃ other, ∀ n ∈ found, Is other n := by
  obtain ⟨resolved, reached, hresolved, hreached, rfl⟩ := evaluate_eq_ok.1 hfound
  obtain ⟨other, hother⟩ := h.exists_kind_of_applySteps (known_of_resolveSteps hresolved)
    (List.forall_mem_singleton.2 hr) hreached
  refine ⟨other, fun n hn => hother n ?_⟩
  split at hn
  · exact (dropRepeated_sublist _ _).subset hn
  · exact hn

end Kinds

end TreeQuery.Query
