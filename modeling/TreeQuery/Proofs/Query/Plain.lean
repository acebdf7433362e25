/-
Queries of trees that answer without effects.

A question about such a tree has one answer, so an evaluation is a function of the node it
starts from, and the computations it is made of can be taken apart: they yield something when
their parts do (`run_bind_eq_ok`), and keeping the nodes for which the answer is yes is filtering
(`filterM_eq_filter`).

A step is taken from all nodes reached so far before the next step is taken from any. Each node
reached contributes the nodes found from it alone, in its turn, and what becomes of those later
depends on nothing else: steps taken from a list of nodes reach what they reach from each
(`applySteps_eq_ok`), and steps after steps go on from what the former reach
(`applySteps_append`). Steps without registered types cannot fail either, so what they reach is a
list (`reach`, `reachAll_of_evaluate`).
-/
import Mathlib.Data.List.Forall2
import TreeQuery.Query.Evaluate

namespace TreeQuery.Query

open Expression (Axis NodeTest Predicate Program Step)

-- ======================================================== computations

/-- A computation without effects yields something when its first part does and the rest does. -/
theorem run_bind_eq_ok {α β ε : Type} {a : ExceptT ε Id α} {f : α → ExceptT ε Id β} {z : β} :
    (a >>= f).run = .ok z ↔ ∃ x, a.run = .ok x ∧ (f x).run = .ok z := by
  rw [ExceptT.run_bind]
  match a.run with
  | .error e =>
      constructor
      · intro h
        cases h
      · rintro ⟨_, h, -⟩
        cases h
  | .ok x =>
      constructor
      · exact fun h => ⟨x, rfl, h⟩
      · rintro ⟨_, h, hz⟩
        obtain rfl := Except.ok.inj h
        exact hz

theorem run_pure_eq_ok {α ε : Type} {x z : α} : (pure x : ExceptT ε Id α).run = .ok z ↔ z = x := by
  show (Except.ok x : Except ε α) = .ok z ↔ z = x
  rw [Except.ok.injEq, eq_comm]

variable {α ε : Type} {forest : Forest Id α} {registry : Registry (Provider Id α ε)}

section Steps

variable {step : Step} {resolution : Option (Resolution (Provider Id α ε))}
  {steps later : List (Step × Option (Resolution (Provider Id α ε)))} {xs ys found : List α}

theorem applyStep_cons_eq_ok {x : α} :
    (applyStep forest step resolution (x :: xs)).run = .ok found ↔
      ∃ kept more, (applyStep forest step resolution [x]).run = .ok kept ∧
        (applyStep forest step resolution xs).run = .ok more ∧ found = kept ++ more := by
  simp only [applyStep, run_bind_eq_ok, run_pure_eq_ok]
  constructor
  · rintro ⟨here, hhere, kept, hkept, more, hmore, rfl⟩
    exact ⟨kept, more, ⟨here, hhere, kept, hkept, [], rfl, (List.append_nil kept).symm⟩, hmore, rfl⟩
  · rintro ⟨_, more, ⟨here, hhere, kept, hkept, _, rfl, rfl⟩, hmore, rfl⟩
    exact ⟨here, hhere, kept, hkept, more, hmore, by rw [List.append_nil]⟩

/-- A step taken from some nodes and then from others. -/
theorem applyStep_append_eq_ok : (applyStep forest step resolution (xs ++ ys)).run = .ok found ↔
    ∃ before after, (applyStep forest step resolution xs).run = .ok before ∧
      (applyStep forest step resolution ys).run = .ok after ∧ found = before ++ after := by
  induction xs generalizing found with
  | nil =>
      simp only [List.nil_append, applyStep, run_pure_eq_ok]
      constructor
      · exact fun h => ⟨[], found, rfl, h, rfl⟩
      · rintro ⟨_, _, rfl, h, rfl⟩
        exact h
  | cons x xs ih =>
      rw [List.cons_append, applyStep_cons_eq_ok]
      constructor
      · rintro ⟨kept, _, hkept, hmore, rfl⟩
        obtain ⟨before, after, hbefore, hafter, rfl⟩ := ih.1 hmore
        exact ⟨_, after, applyStep_cons_eq_ok.2 ⟨kept, before, hkept, hbefore, rfl⟩, hafter,
          (List.append_assoc _ _ _).symm⟩
      · rintro ⟨_, after, hfirst, hafter, rfl⟩
        obtain ⟨kept, before, hkept, hbefore, rfl⟩ := applyStep_cons_eq_ok.1 hfirst
        exact ⟨kept, _, hkept, ih.2 ⟨before, after, hbefore, hafter, rfl⟩,
          List.append_assoc _ _ _⟩

theorem applySteps_nil_eq_ok : (applySteps forest steps []).run = .ok found ↔ found = [] := by
  induction steps with
  | nil => exact run_pure_eq_ok
  | cons first steps ih =>
      obtain ⟨step, resolution⟩ := first
      simp only [applySteps, applyStep, run_bind_eq_ok, run_pure_eq_ok, exists_eq_left, ih]

/-- Steps taken from some nodes and then from others: each step keeps the two parts apart. -/
theorem applySteps_append_nodes_eq_ok : (applySteps forest steps (xs ++ ys)).run = .ok found ↔
    ∃ before after, (applySteps forest steps xs).run = .ok before ∧
      (applySteps forest steps ys).run = .ok after ∧ found = before ++ after := by
  induction steps generalizing xs ys with
  | nil => simp only [applySteps, run_pure_eq_ok, ↓existsAndEq, true_and]
  | cons first steps ih =>
      obtain ⟨step, resolution⟩ := first
      simp only [applySteps, run_bind_eq_ok, applyStep_append_eq_ok]
      constructor
      · rintro ⟨_, ⟨xs', ys', hxs, hys, rfl⟩, h⟩
        obtain ⟨before, after, hbefore, hafter, rfl⟩ := ih.1 h
        exact ⟨before, after, ⟨xs', hxs, hbefore⟩, ⟨ys', hys, hafter⟩, rfl⟩
      · rintro ⟨before, after, ⟨xs', hxs, hbefore⟩, ⟨ys', hys, hafter⟩, rfl⟩
        exact ⟨_, ⟨xs', ys', hxs, hys, rfl⟩, ih.2 ⟨before, after, hbefore, hafter, rfl⟩⟩

/-- Steps taken from some nodes reach what they reach from each, one node after another. -/
theorem applySteps_eq_ok : (applySteps forest steps xs).run = .ok found ↔
    ∃ parts, List.Forall₂ (fun x part => (applySteps forest steps [x]).run = .ok part) xs parts ∧
      found = parts.flatten := by
  induction xs generalizing found with
  | nil =>
      simp only [applySteps_nil_eq_ok, List.forall₂_nil_left_iff, exists_eq_left, List.flatten_nil]
  | cons x xs ih =>
      rw [← List.singleton_append, applySteps_append_nodes_eq_ok]
      simp only [List.singleton_append, List.forall₂_cons_left_iff, ih]
      constructor
      · rintro ⟨part, _, hpart, ⟨parts, hparts, rfl⟩, rfl⟩
        exact ⟨part :: parts, ⟨part, parts, hpart, hparts, rfl⟩, rfl⟩
      · rintro ⟨_, ⟨part, parts, hpart, hparts, rfl⟩, rfl⟩
        exact ⟨part, _, hpart, ⟨parts, hparts, rfl⟩, rfl⟩

/-- Steps after steps go on from what those reach. -/
theorem applySteps_append : applySteps forest (steps ++ later) xs =
    applySteps forest steps xs >>= applySteps forest later := by
  induction steps generalizing xs with
  | nil => exact (pure_bind _ _).symm
  | cons first steps ih =>
      obtain ⟨step, resolution⟩ := first
      simp only [List.cons_append, applySteps, bind_assoc, ih]

end Steps

-- ========================================================== resolution

section Resolution

variable {step : Step} {steps later : List Step}
  {resolved : List (Step × Option (Resolution (Provider Id α ε)))}

/-- Steps that name no types need no registry. -/
theorem resolveSteps_untyped {m : Type → Type} {registry : Registry (Provider m α ε)}
    (untyped : ∀ step ∈ steps, step.typeName? = none) :
    resolveSteps registry steps = .ok (steps.map fun step => (step, none)) := by
  induction steps with
  | nil => rfl
  | cons step steps ih =>
      obtain ⟨hstep, hsteps⟩ := List.forall_mem_cons.1 untyped
      have hresolve : resolveStep registry step = .ok none := by
        unfold resolveStep
        rw [hstep]
      simp only [resolveSteps, hresolve, ih hsteps, List.map_cons]

theorem resolveSteps_cons_eq_ok : resolveSteps registry (step :: steps) = .ok resolved ↔
    ∃ resolution more, resolveStep registry step = .ok resolution ∧
      resolveSteps registry steps = .ok more ∧ resolved = (step, resolution) :: more := by
  simp only [resolveSteps]
  cases resolveStep registry step with
  | error e => simp
  | ok resolution =>
      cases resolveSteps registry steps with
      | error e => simp
      | ok more => simp [eq_comm]

/-- Steps are resolved each on its own. -/
theorem resolveSteps_append_eq_ok : resolveSteps registry (steps ++ later) = .ok resolved ↔
    ∃ before after, resolveSteps registry steps = .ok before ∧
      resolveSteps registry later = .ok after ∧ resolved = before ++ after := by
  induction steps generalizing resolved with
  | nil =>
      constructor
      · exact fun h => ⟨[], resolved, rfl, h, rfl⟩
      · rintro ⟨before, after, hbefore, hafter, rfl⟩
        obtain rfl := Except.ok.inj hbefore
        exact hafter
  | cons step steps ih =>
      simp only [List.cons_append, resolveSteps_cons_eq_ok, ih]
      constructor
      · rintro ⟨resolution, _, hstep, ⟨before, after, hbefore, hafter, rfl⟩, rfl⟩
        exact ⟨_, after, ⟨resolution, before, hstep, hbefore, rfl⟩, hafter, rfl⟩
      · rintro ⟨_, after, ⟨resolution, before, hstep, hbefore, rfl⟩, hafter, rfl⟩
        exact ⟨resolution, _, hstep, ⟨before, after, hbefore, hafter, rfl⟩, rfl⟩

/-- What is found under a registered name has been registered. -/
theorem Registry.mem_types_of_resolve? {π : Type} {known : Registry π} {name other : String}
    {type : π} (h : known.resolve? name = some (.registered other type)) :
    ∃ entry ∈ known.types, entry.2 = type := by
  unfold Registry.resolve? at h
  split at h
  · rename_i found hfound
    obtain ⟨-, rfl⟩ := Resolution.registered.inj (Option.some.inj h)
    obtain ⟨before, after, htypes, -⟩ := List.lookup_eq_some_iff.1 hfound
    refine ⟨(name, found), ?_, rfl⟩
    rw [htypes]
    exact List.mem_append_right _ List.mem_cons_self
  · split at h
    · cases h
    · cases h

/-- What a step stands for, if it is no tag, has been registered. -/
def Resolution.Known {π : Type} (known : Registry π) (resolution : Option (Resolution π)) : Prop :=
  ∀ name type, resolution = some (.registered name type) → ∃ entry ∈ known.types, entry.2 = type

theorem known_of_resolveStep {resolution : Option (Resolution (Provider Id α ε))}
    (h : resolveStep registry step = .ok resolution) : Resolution.Known registry resolution := by
  intro name type hr
  subst hr
  unfold resolveStep at h
  split at h
  · cases h
  · split at h
    · rename_i hresolve
      obtain rfl := Option.some.inj (Except.ok.inj h)
      exact Registry.mem_types_of_resolve? hresolve
    · cases h

theorem known_of_resolveSteps (h : resolveSteps registry steps = .ok resolved) :
    ∀ entry ∈ resolved, Resolution.Known registry entry.2 := by
  induction steps generalizing resolved with
  | nil =>
      obtain rfl := Except.ok.inj h
      exact fun entry he => by cases he
  | cons step steps ih =>
      obtain ⟨resolution, more, hresolution, hmore, rfl⟩ := resolveSteps_cons_eq_ok.1 h
      exact List.forall_mem_cons.2 ⟨known_of_resolveStep hresolution, ih hmore⟩

end Resolution

-- ===================================================== what a step finds

theorem filterAuxM_eq (f : α → Bool) (xs kept : List α) :
    (xs.filterAuxM (fun x => (pure (f x) : Id Bool)) kept).run = (xs.filter f).reverse ++ kept := by
  induction xs generalizing kept with
  | nil => rfl
  | cons x xs ih =>
      show (xs.filterAuxM (fun x => (pure (f x) : Id Bool)) (cond (f x) (x :: kept) kept)).run = _
      rw [ih]
      cases h : f x with
      | false =>
          rw [List.filter_cons_of_neg (by rw [h]; decide)]
          rfl
      | true =>
          rw [List.filter_cons_of_pos h, List.reverse_cons, List.append_assoc]
          rfl

/-- Without effects, keeping nodes by their answers is filtering. -/
theorem filterM_eq_filter (f : α → Bool) (xs : List α) :
    (xs.filterM fun x => (pure (f x) : Id Bool)).run = xs.filter f := by
  show List.reverse (xs.filterAuxM (fun x => (pure (f x) : Id Bool)) []).run = _
  rw [filterAuxM_eq, List.append_nil, List.reverse_reverse]

/-- A node and all below it, in document order. -/
def preorder (forest : Forest Id α) (node : α) : List α := (forest.descendantsOrSelf node).run

/-- The nodes along an axis. -/
def along (forest : Forest Id α) (axis : Axis) (node : α) : List α :=
  match axis with
  | .child => (forest.children node).run
  | .descendant => preorder forest node

/-- Whether a node passes a test that is not for a registered type. -/
def passes (forest : Forest Id α) (test : NodeTest) (node : α) : Bool :=
  match test with
  | .any => true
  | .name name => (forest.name node).run == name
  | .type tag => (forest.tags node).run.contains tag

theorem run_select (forest : Forest Id α) (step : Step) (node : α) :
    (select forest step node).run =
      (along forest step.axis node).filter (passes forest step.test) := by
  obtain ⟨axis, test, predicates⟩ := step
  have halong : (alongAxis forest axis node).run = along forest axis node := by
    cases axis with
    | child => rfl
    | descendant => rfl
  rw [← halong]
  cases test with
  | any => exact (List.filter_eq_self.2 fun _ _ => rfl).symm
  | name name => exact filterM_eq_filter (passes forest (.name name)) _
  | type tag => exact filterM_eq_filter (passes forest (.type tag)) _

/-- What a predicate keeps. -/
def keep (forest : Forest Id α) (found : List α) : Predicate → List α
  | .attribute name value => found.filter fun node => (forest.property node name).run == some value
  | .hasChild name => found.filter fun node =>
      ((forest.children node).run.map fun child => (forest.name child).run).contains name
  | .position 0 => []
  | .position (place + 1) => found[place]?.toList

theorem run_hasChild (forest : Forest Id α) (node : α) (name : String) :
    (forest.hasChild node name).run =
      ((forest.children node).run.map fun child => (forest.name child).run).contains name := by
  show ((forest.children node).run.mapM forest.name).run.contains name = _
  rw [List.idRun_mapM]

theorem run_applyPredicate (forest : Forest Id α) (found : List α) (predicate : Predicate) :
    (applyPredicate forest found predicate).run = keep forest found predicate := by
  match predicate with
  | .attribute name value => exact filterM_eq_filter _ found
  | .hasChild name =>
      rw [keep]
      simp only [← run_hasChild]
      exact filterM_eq_filter _ found
  | .position 0 => rfl
  | .position (place + 1) => rfl

theorem run_applyPredicates (forest : Forest Id α) (predicates : List Predicate) (found : List α) :
    (applyPredicates forest predicates found).run = predicates.foldl (keep forest) found := by
  induction predicates generalizing found with
  | nil => rfl
  | cons predicate predicates ih =>
      rw [List.foldl_cons, ← ih, ← run_applyPredicate]
      rfl

/-- The nodes a step without a registered type reaches from a node. -/
def reach (forest : Forest Id α) (step : Step) (node : α) : List α :=
  step.predicates.foldl (keep forest)
    ((along forest step.axis node).filter (passes forest step.test))

/-- The nodes steps without registered types reach from some nodes. -/
def reachAll (forest : Forest Id α) (steps : List Step) (nodes : List α) : List α :=
  steps.foldl (fun reached step => reached.flatMap (reach forest step)) nodes

/-- No type that the steps name is registered: a name can be that of a tag only. -/
def Structural {π : Type} (registry : Registry π) (steps : List Step) : Prop :=
  ∀ step ∈ steps, ∀ name ∈ step.typeName?, registry.type? name = none

/-- What a step stands for that names no registered type. -/
def Resolution.IsTag {π : Type} : Option (Resolution π) → Prop
  | some (.registered ..) => False
  | _ => True

theorem isTag_of_resolveStep {step : Step} {resolution : Option (Resolution (Provider Id α ε))}
    (structural : ∀ name ∈ step.typeName?, registry.type? name = none)
    (h : resolveStep registry step = .ok resolution) : Resolution.IsTag resolution := by
  unfold resolveStep at h
  cases hname : step.typeName? with
  | none =>
      simp only [hname] at h
      obtain rfl := Except.ok.inj h
      trivial
  | some name =>
      simp only [hname, Registry.resolve?, structural name hname] at h
      split at h
      · rename_i found hfound
        obtain rfl := Except.ok.inj h
        split at hfound
        · obtain rfl := Option.some.inj hfound
          trivial
        · cases hfound
      · cases h

theorem applyStep_of_isTag {step : Step} {resolution : Option (Resolution (Provider Id α ε))}
    (h : Resolution.IsTag resolution) (nodes : List α) :
    applyStep forest step resolution nodes = pure (nodes.flatMap (reach forest step)) := by
  have hexpand : ∀ node,
      expand forest step resolution node = pure (select forest step node).run := by
    intro node
    match resolution, h with
    | none, _ => rfl
    | some (.tag _), _ => rfl
  induction nodes with
  | nil => rfl
  | cons node nodes ih =>
      unfold applyStep
      rw [hexpand, ih, List.flatMap_cons, reach, ← run_select, ← run_applyPredicates]
      rfl

theorem applySteps_of_isTag {steps : List (Step × Option (Resolution (Provider Id α ε)))}
    (h : ∀ entry ∈ steps, Resolution.IsTag entry.2) (nodes : List α) :
    applySteps forest steps nodes = pure (reachAll forest (steps.map (·.1)) nodes) := by
  induction steps generalizing nodes with
  | nil => rfl
  | cons first steps ih =>
      obtain ⟨step, resolution⟩ := first
      obtain ⟨hfirst, hrest⟩ := List.forall_mem_cons.1 h
      unfold applySteps
      rw [applyStep_of_isTag hfirst, pure_bind, ih hrest]
      rfl

/-- Steps taken without asking what their types stand for. -/
theorem applySteps_untyped (steps : List Step) (nodes : List α) :
    (applySteps forest
      (steps.map fun step => (step, (none : Option (Resolution (Provider Id α ε))))) nodes).run =
      .ok (reachAll forest steps nodes) := by
  rw [applySteps_of_isTag fun entry he => ?_, List.map_map]
  · show Except.ok (reachAll forest (steps.map id) nodes) = _
    rw [List.map_id]
  · obtain ⟨step, -, rfl⟩ := List.mem_map.1 he
    trivial

theorem resolved_of_structural {steps : List Step}
    {resolved : List (Step × Option (Resolution (Provider Id α ε)))}
    (structural : Structural registry steps) (h : resolveSteps registry steps = .ok resolved) :
    resolved.map (·.1) = steps ∧ ∀ entry ∈ resolved, Resolution.IsTag entry.2 := by
  induction steps generalizing resolved with
  | nil =>
      obtain rfl := Except.ok.inj h
      exact ⟨rfl, fun entry he => by cases he⟩
  | cons step steps ih =>
      obtain ⟨hstep, hsteps⟩ := List.forall_mem_cons.1 structural
      obtain ⟨resolution, more, hresolution, hmore, rfl⟩ := resolveSteps_cons_eq_ok.1 h
      obtain ⟨hmap, htags⟩ := ih hsteps hmore
      exact ⟨congrArg (step :: ·) hmap,
        List.forall_mem_cons.2 ⟨isTag_of_resolveStep hstep hresolution, htags⟩⟩

theorem applySteps_of_structural {steps : List Step}
    {resolved : List (Step × Option (Resolution (Provider Id α ε)))}
    (structural : Structural registry steps) (h : resolveSteps registry steps = .ok resolved)
    (nodes : List α) : applySteps forest resolved nodes = pure (reachAll forest steps nodes) := by
  obtain ⟨hmap, htags⟩ := resolved_of_structural structural h
  rw [applySteps_of_isTag htags, hmap]

/-- An evaluation answers with what its steps reach, without repeated nodes if so asked. -/
theorem evaluate_eq_ok {dedupe : Bool} {program : Program} {root : α} {found : List α} :
    (evaluate forest registry dedupe program root).run = .ok found ↔
      ∃ resolved reached, resolveSteps registry program.steps = .ok resolved ∧
        (applySteps forest resolved [root]).run = .ok reached ∧
        found = if dedupe then dropRepeated forest.address reached else reached := by
  unfold evaluate
  simp only [run_bind_eq_ok, run_pure_eq_ok]
  constructor
  · rintro ⟨resolved, hresolved, reached, hreached, rfl⟩
    exact ⟨resolved, reached, hresolved, hreached, rfl⟩
  · rintro ⟨resolved, reached, hresolved, hreached, rfl⟩
    exact ⟨resolved, hresolved, reached, hreached, rfl⟩

/-- What steps without registered types find is a list that needs no registry. -/
theorem reachAll_of_evaluate {dedupe : Bool} {program : Program} {root : α} {found : List α}
    (structural : Structural registry program.steps)
    (h : (evaluate forest registry dedupe program root).run = .ok found) :
    found = if dedupe then dropRepeated forest.address (reachAll forest program.steps [root])
      else reachAll forest program.steps [root] := by
  obtain ⟨resolved, reached, hresolved, hreached, rfl⟩ := evaluate_eq_ok.1 h
  rw [applySteps_of_structural structural hresolved, run_pure_eq_ok] at hreached
  rw [hreached]

end TreeQuery.Query
