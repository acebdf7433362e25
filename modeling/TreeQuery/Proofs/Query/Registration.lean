/-
What a history of registrations means for an evaluation.

# Histories

A registry is built up by registrations: of types, each under its own name, and of tags. What it has
become after some of them is told from their list alone: a type is found under a name if one was
registered under it, and then it is the last of these (`type?_after`); a tag is known if it is a
core tag or was made known (`isTag_after`). So two histories that agree in this are as good as each
other (`evaluate_congr`), and registrations may be exchanged, unless they are of two types of one
name (`typesUnder_exchange`).

# Unknown types

The types of all steps are looked up before anything else is done. If one is unknown, the first that
is ends the evaluation: it equals the failure, as a computation, so no question has been asked of
the tree, no provider has been called and nothing has changed (`evaluate_unknown`). If all are
known, an evaluation does what one does that is given the last provider under each name and no
registry, and that takes any other type for a tag (`evaluateWith`); its only failures are those of
the providers (`evaluate_known`).
-/
import Mathlib.Data.List.Sort
import TreeQuery.Proofs.Query.Names

namespace TreeQuery.Query

open Expression (Axis NodeTest Predicate Program Step)

-- ============================================================ histories

/-- One step in building up a registry. -/
inductive Registration (m : Type → Type) (α ε : Type) where
  /-- A type is registered under its name. -/
  | type (provider : Provider m α ε)
  /-- Tags are made known. -/
  | tags (names : List String)

namespace Registration

variable {m : Type → Type} {α ε : Type}

/-- The type that is registered. -/
def type? : Registration m α ε → Option (Provider m α ε)
  | .type provider => some provider
  | .tags _ => none

/-- Not both register a type under the same name. -/
def Independent (first second : Registration m α ε) : Prop :=
  ∀ p q, first = .type p → second = .type q → p.name ≠ q.name

/-- The types registered under a name, in their order. -/
def typesUnder (history : List (Registration m α ε)) (name : String) : List (Provider m α ε) :=
  (history.filterMap type?).filter fun provider => provider.name == name

/-- The type registered last under a name. -/
def lastType? (history : List (Registration m α ε)) (name : String) : Option (Provider m α ε) :=
  (typesUnder history name).getLast?

/-- A core tag, or a name that has been made known as a tag. -/
def IsTag (history : List (Registration m α ε)) (name : String) : Prop :=
  name ∈ Registry.coreTags ∨ ∃ names, .tags names ∈ history ∧ name ∈ names

/-- A name under which a type has been registered, or a tag. -/
def Known (history : List (Registration m α ε)) (name : String) : Prop :=
  (∃ provider, .type provider ∈ history ∧ provider.name = name) ∨ IsTag history name

variable {history earlier later : List (Registration m α ε)} {first second : Registration m α ε}
  {name : String}

theorem typesUnder_append (history more : List (Registration m α ε)) (name : String) :
    typesUnder (history ++ more) name = typesUnder history name ++ typesUnder more name := by
  unfold typesUnder
  rw [List.filterMap_append, List.filter_append]

/-- Independent registrations may be exchanged. -/
theorem typesUnder_exchange (h : first.Independent second) (name : String) :
    typesUnder (earlier ++ first :: second :: later) name =
      typesUnder (earlier ++ second :: first :: later) name := by
  have hpair : typesUnder [first, second] name = typesUnder [second, first] name := by
    unfold typesUnder
    match first, second with
    | .tags _, .tags _ => rfl
    | .tags _, .type _ => rfl
    | .type _, .tags _ => rfl
    | .type p, .type q =>
        have hne := h p q rfl rfl
        show List.filter _ [p, q] = List.filter _ [q, p]
        by_cases hp : p.name = name
        · have hq : ¬ (q.name == name) = true := fun hq => hne (hp.trans (beq_iff_eq.1 hq).symm)
          simp only [List.filter_cons, if_neg hq, List.filter_nil]
        · simp only [List.filter_cons, if_neg (mt beq_iff_eq.1 hp), List.filter_nil]
  have hexchange : ∀ a b : Registration m α ε, earlier ++ a :: b :: later =
      earlier ++ ([a, b] ++ later) := fun _ _ => rfl
  rw [hexchange, hexchange, typesUnder_append, typesUnder_append, hpair, typesUnder_append,
    typesUnder_append]

theorem mem_exchange {registration : Registration m α ε} :
    registration ∈ earlier ++ first :: second :: later ↔
      registration ∈ earlier ++ second :: first :: later :=
  ((List.Perm.swap second first later).append_left earlier).mem_iff

theorem lastType?_concat_type (history : List (Registration m α ε)) (provider : Provider m α ε)
    (name : String) : lastType? (history ++ [.type provider]) name =
      if name = provider.name then some provider else lastType? history name := by
  have hsingle : typesUnder [.type provider] name =
      if name = provider.name then [provider] else [] := by
    show List.filter (fun provider => provider.name == name) [provider] = _
    rw [List.filter_singleton]
    by_cases h : name = provider.name
    · rw [if_pos h, h, beq_self_eq_true]
      rfl
    · rw [if_neg h, beq_eq_false_iff_ne.2 (Ne.symm h)]
      rfl
  rw [lastType?, typesUnder_append, List.getLast?_append, hsingle]
  split
  · rfl
  · rfl

theorem lastType?_concat_tags (history : List (Registration m α ε)) (names : List String)
    (name : String) : lastType? (history ++ [.tags names]) name = lastType? history name := by
  rw [lastType?, typesUnder_append]
  exact congrArg List.getLast? (List.append_nil _)

theorem isTag_concat_type {provider : Provider m α ε} :
    IsTag (history ++ [.type provider]) name ↔ IsTag history name := by
  unfold IsTag
  simp only [List.mem_append, List.mem_singleton, reduceCtorEq, or_false]

theorem isTag_concat_tags {names : List String} :
    IsTag (history ++ [.tags names]) name ↔ name ∈ names ∨ IsTag history name := by
  unfold IsTag
  simp only [List.mem_append, List.mem_singleton, Registration.tags.injEq, or_and_right, exists_or,
    exists_eq_left]
  exact or_assoc.symm.trans or_comm

theorem known_concat_type {provider : Provider m α ε} :
    Known (history ++ [.type provider]) name ↔ name = provider.name ∨ Known history name := by
  unfold Known
  rw [isTag_concat_type]
  simp only [List.mem_append, List.mem_singleton, Registration.type.injEq, or_and_right, exists_or,
    exists_eq_left]
  rw [or_assoc, eq_comm]
  exact or_left_comm

theorem known_concat_tags {names : List String} :
    Known (history ++ [.tags names]) name ↔ name ∈ names ∨ Known history name := by
  unfold Known
  rw [isTag_concat_tags]
  simp only [List.mem_append, List.mem_singleton, reduceCtorEq, or_false]
  exact or_left_comm

end Registration

-- =========================================================== registries

namespace Registry

open Registration

variable {m : Type → Type} {α ε : Type} {history other : List (Registration m α ε)} {name : String}

/-- The registry after one more registration. -/
def add (registry : Registry (Provider m α ε)) :
    Registration m α ε → Registry (Provider m α ε)
  | .type provider => registry.register provider.name provider
  | .tags names => registry.addTags names

/-- The registry after a history of registrations. -/
def after (history : List (Registration m α ε)) : Registry (Provider m α ε) :=
  history.foldl add .core

theorem after_concat (history : List (Registration m α ε)) (registration : Registration m α ε) :
    after (history ++ [registration]) = (after history).add registration :=
  List.foldl_concat _ _ _ _

/-- Under a name the type registered last is found. -/
theorem type?_after (history : List (Registration m α ε)) (name : String) :
    (after history).type? name = lastType? history name := by
  induction history using List.reverseRecOn with
  | nil => rfl
  | append_singleton history registration ih =>
      rw [after_concat]
      cases registration with
      | tags names =>
          rw [lastType?_concat_tags]
          exact ih
      | type provider =>
          rw [lastType?_concat_type, ← ih]
          exact type?_register _ _ _ _

theorem isTag_after : (after history).isTag name = true ↔ IsTag history name := by
  unfold isTag
  rw [List.contains_iff_mem]
  induction history using List.reverseRecOn with
  | nil =>
      refine mem_sortedNames.trans ⟨.inl, ?_⟩
      rintro (h | ⟨_, h, -⟩)
      · exact h
      · cases h
  | append_singleton history registration ih =>
      rw [after_concat]
      cases registration with
      | type provider => exact ih.trans isTag_concat_type.symm
      | tags names =>
          exact mem_foldl_insertName.trans ((or_congr_right ih).trans isTag_concat_tags.symm)

theorem mem_names_after : name ∈ (after history).names ↔ Known history name := by
  induction history using List.reverseRecOn with
  | nil =>
      refine mem_sortedNames.trans ⟨fun h => .inr (.inl h), ?_⟩
      rintro (⟨_, h, -⟩ | h | ⟨_, h, -⟩)
      · cases h
      · exact h
      · cases h
  | append_singleton history registration ih =>
      rw [after_concat]
      cases registration with
      | type provider =>
          exact mem_names_register.trans ((or_congr_right ih).trans known_concat_type.symm)
      | tags names =>
          exact mem_names_addTags.trans ((or_congr_right ih).trans known_concat_tags.symm)

/-- What a known name stands for: the last type under it, or else a tag. -/
theorem resolve?_after (h : Known history name) : (after history).resolve? name =
    some (match lastType? history name with
      | some provider => .registered name provider
      | none => .tag name) := by
  have hsome : ((after history).resolve? name).isSome := isSome_resolve?_iff.2 (mem_names_after.2 h)
  unfold resolve? at hsome ⊢
  rw [type?_after] at hsome ⊢
  cases hlast : lastType? history name with
  | some provider => rfl
  | none =>
      rw [hlast] at hsome
      dsimp only at hsome ⊢
      split at hsome
      · rename_i htag
        rw [if_pos htag]
      · cases hsome

/-- Ascending lists of the same names are the same. -/
theorem typeNames_congr (same : ∀ name, Known history name ↔ Known other name) :
    (after history).typeNames = (after other).typeNames := by
  refine (pairwise_typeNames _).eq_of_mem_iff (pairwise_typeNames _) fun name => ?_
  rw [mem_typeNames, mem_typeNames, mem_names_after, mem_names_after, same]

end Registry

-- =========================================================== evaluation

open Registration

variable {m : Type → Type} {α ε : Type} {registry : Registry (Provider m α ε)}
  {history other : List (Registration m α ε)} {steps earlier later : List Step} {step : Step}
  {name : String}

/-- What the type of a step stands for, if it is known. -/
def meaning (history : List (Registration m α ε)) (step : Step) :
    Option (Resolution (Provider m α ε)) :=
  step.typeName?.map fun name =>
    match lastType? history name with
    | some provider => .registered name provider
    | none => .tag name

theorem resolveStep_known (known : ∀ name, step.typeName? = some name → Known history name) :
    resolveStep (.after history) step = .ok (meaning history step) := by
  unfold resolveStep meaning
  cases hname : step.typeName? with
  | none => rfl
  | some name => simp only [Registry.resolve?_after (known name hname), Option.map_some]

/-- The types of a first step and of the others. -/
theorem forall_mem_typeNames_cons {P : String → Prop}
    (h : ∀ name ∈ (step :: steps).filterMap Step.typeName?, P name) :
    (∀ name, step.typeName? = some name → P name) ∧
      ∀ name ∈ steps.filterMap Step.typeName?, P name := by
  simp only [List.mem_filterMap] at h ⊢
  exact ⟨fun name hname => h name ⟨step, List.mem_cons_self, hname⟩,
    fun name ⟨other, hother, hname⟩ => h name ⟨other, List.mem_cons_of_mem _ hother, hname⟩⟩

theorem resolveSteps_known (known : ∀ name ∈ steps.filterMap Step.typeName?, Known history name) :
    resolveSteps (.after history) steps =
      .ok (steps.map fun step => (step, meaning history step)) := by
  induction steps with
  | nil => rfl
  | cons step steps ih =>
      obtain ⟨hstep, hsteps⟩ := forall_mem_typeNames_cons known
      simp only [resolveSteps, resolveStep_known hstep, ih hsteps, List.map_cons]

/-- The first unknown type ends the look-up. -/
theorem resolveSteps_unknown (known : ∀ name ∈ earlier.filterMap Step.typeName?, Known history name)
    (named : step.typeName? = some name) (unknown : ¬ Known history name) :
    resolveSteps (.after history) (earlier ++ step :: later) =
      .error (.unknownType name ((Registry.after history).suggestion? name)) := by
  induction earlier with
  | nil =>
      have hstep := resolveStep_of_not_mem named fun h => unknown (Registry.mem_names_after.1 h)
      simp only [List.nil_append, resolveSteps, hstep]
  | cons first earlier ih =>
      obtain ⟨hfirst, hrest⟩ := forall_mem_typeNames_cons known
      simp only [List.cons_append, resolveSteps, resolveStep_known hfirst, ih hrest]

/-- Among steps with an unknown type there is a first. -/
theorem exists_first_unknown (unknown : ∃ name ∈ steps.filterMap Step.typeName?,
      ¬ Known history name) :
    ∃ earlier step later name, steps = earlier ++ step :: later ∧
      (∀ name ∈ earlier.filterMap Step.typeName?, Known history name) ∧
      step.typeName? = some name ∧ ¬ Known history name := by
  induction steps with
  | nil =>
      obtain ⟨name, h, -⟩ := unknown
      cases h
  | cons step steps ih =>
      by_cases hstep : ∃ name, step.typeName? = some name ∧ ¬ Known history name
      · obtain ⟨name, hname, hunknown⟩ := hstep
        exact ⟨[], step, steps, name, rfl, fun _ h => (List.not_mem_nil h).elim, hname, hunknown⟩
      · have hknown : ∀ name, step.typeName? = some name → Known history name :=
          fun name hname => Classical.not_not.1 fun h => hstep ⟨name, hname, h⟩
        obtain ⟨name, hmem, hunknown⟩ := unknown
        obtain ⟨other, hother, hname⟩ := List.mem_filterMap.1 hmem
        rcases List.mem_cons.1 hother with rfl | hother
        · exact absurd (hknown name hname) hunknown
        · obtain ⟨earlier, first, later, name, rfl, hearlier, hfirst, h⟩ :=
            ih ⟨name, List.mem_filterMap.2 ⟨other, hother, hname⟩, hunknown⟩
          refine ⟨step :: earlier, first, later, name, rfl, fun name hmem => ?_, hfirst, h⟩
          obtain ⟨other, hother, hname⟩ := List.mem_filterMap.1 hmem
          rcases List.mem_cons.1 hother with rfl | hother
          · exact hknown name hname
          · exact hearlier name (List.mem_filterMap.2 ⟨other, hother, hname⟩)

-- ================================================ without a registry

section

variable [Monad m] [LawfulMonad m] {forest : Forest m α} {ε' β γ : Type}

/-- What a step finds from a node, before its predicates, if it is known which type is meant by
which name. Other types are tags. -/
def findWith (forest : Forest m α) (meant : String → Option (Provider m α ε)) (step : Step)
    (node : α) : ExceptT ε m (List α) :=
  match step.typeName?.bind meant with
  | none => (select forest step node : m (List α))
  | some provider => do
    let contexts ← match step.axis with
      | .child => pure [node]
      | .descendant => (forest.descendantsOrSelf node : m (List α))
    return (← contexts.mapM fun context => ExceptT.mk (provider.find context)).flatten

/-- What a step reaches from the nodes reached before. -/
def reachWith (forest : Forest m α) (meant : String → Option (Provider m α ε)) (reached : List α)
    (step : Step) : ExceptT ε m (List α) := do
  let kept ← reached.mapM fun node => do
    let found ← findWith forest meant step node
    (applyPredicates forest step.predicates found : m (List α))
  return kept.flatten

/-- An evaluation by someone who knows what is meant. -/
def evaluateWith (forest : Forest m α) (meant : String → Option (Provider m α ε)) (dedupe : Bool)
    (program : Program) (root : α) : ExceptT ε m (List α) := do
  let reached ← program.steps.foldlM (reachWith forest meant) [root]
  return if dedupe then dropRepeated forest.address reached else reached

theorem adapt_bind (f : ε → ε') (act : ExceptT ε m β) (next : β → ExceptT ε m γ) :
    ExceptT.adapt f (act >>= next) =
      ExceptT.adapt f act >>= fun x => ExceptT.adapt f (next x) := by
  refine ExceptT.ext ?_
  rw [ExceptT.run_adapt, ExceptT.run_bind, ExceptT.run_bind, ExceptT.run_adapt, map_bind,
    bind_map_left]
  refine bind_congr fun result => ?_
  cases result with
  | error e => exact map_pure _ _
  | ok x => rfl

theorem adapt_pure (f : ε → ε') (x : β) :
    ExceptT.adapt f (pure x : ExceptT ε m β) = pure x :=
  ExceptT.ext (map_pure _ _)

theorem adapt_liftM (f : ε → ε') (act : m β) :
    ExceptT.adapt f (liftM act : ExceptT ε m β) = liftM act := by
  refine ExceptT.ext ?_
  rw [ExceptT.run_adapt, ExceptT.run_liftM, ExceptT.run_liftM, Functor.map_map]
  rfl

theorem findFromEach_eq (provider : Provider m α ε) (nodes : List α) :
    findFromEach provider nodes = ExceptT.adapt Failure.provider
      (List.flatten <$> nodes.mapM fun node => ExceptT.mk (provider.find node)) := by
  induction nodes with
  | nil =>
      rw [List.mapM_nil, map_pure, adapt_pure]
      rfl
  | cons node nodes ih =>
      rw [List.mapM_cons, map_bind, adapt_bind, findFromEach, ih]
      refine ExceptT.ext ?_
      rw [ExceptT.run_bind, ExceptT.run_bind, ExceptT.run_liftM, ExceptT.run_adapt, bind_map_left,
        bind_map_left]
      refine bind_congr fun result => ?_
      cases result with
      | error e => rfl
      | ok found =>
          refine congrArg ExceptT.run ?_
          simp only [map_eq_pure_bind, adapt_bind, adapt_pure, bind_assoc, pure_bind,
            List.flatten_cons]

theorem expand_meaning (history : List (Registration m α ε)) (step : Step) (node : α) :
    expand forest step (meaning history step) node =
      ExceptT.adapt Failure.provider (findWith forest (lastType? history) step node) := by
  unfold expand meaning findWith
  cases step.typeName? with
  | none => exact (adapt_liftM _ _).symm
  | some name =>
      simp only [Option.map_some, Option.bind_some]
      cases lastType? history name with
      | none => exact (adapt_liftM _ _).symm
      | some provider =>
          cases step.axis with
          | child =>
              dsimp only
              rw [findFromEach_eq, pure_bind, map_eq_pure_bind]
          | descendant =>
              simp only [findFromEach_eq, map_eq_pure_bind, adapt_bind, adapt_liftM]

theorem applyStep_meaning (history : List (Registration m α ε)) (step : Step) (reached : List α) :
    applyStep forest step (meaning history step) reached =
      ExceptT.adapt Failure.provider (reachWith forest (lastType? history) reached step) := by
  unfold reachWith
  induction reached with
  | nil =>
      rw [List.mapM_nil, pure_bind, adapt_pure]
      rfl
  | cons node reached ih =>
      rw [applyStep, ih, expand_meaning, List.mapM_cons]
      simp only [adapt_bind, adapt_pure, adapt_liftM, bind_assoc, pure_bind, List.flatten_cons]

theorem applySteps_meaning (history : List (Registration m α ε)) (steps : List Step)
    (reached : List α) :
    applySteps forest (steps.map fun step => (step, meaning history step)) reached =
      ExceptT.adapt Failure.provider
        (steps.foldlM (reachWith forest (lastType? history)) reached) := by
  induction steps generalizing reached with
  | nil => exact (adapt_pure _ _).symm
  | cons step steps ih =>
      rw [List.map_cons, applySteps, List.foldlM_cons, adapt_bind, applyStep_meaning]
      exact bind_congr fun reached => ih reached

end

-- ============================================================ the result

section

variable [Monad m] [LawfulMonad m] (forest : Forest m α) (dedupe : Bool) {program : Program}
  (root : α)

/-- With an unknown type among its steps an evaluation is the failure that names the first. -/
theorem evaluate_unknown (split : program.steps = earlier ++ step :: later)
    (known : ∀ name ∈ earlier.filterMap Step.typeName?, Known history name)
    (named : step.typeName? = some name) (unknown : ¬ Known history name) :
    evaluate forest (.after history) dedupe program root =
      throw (.unknownType name ((Registry.after history).suggestion? name)) := by
  unfold evaluate
  rw [split, resolveSteps_unknown known named unknown]
  refine ExceptT.ext ?_
  rw [ExceptT.run_bind]
  exact pure_bind _ _

/-- If all types are known, nobody asks the registry. -/
theorem evaluate_known (known : ∀ name ∈ program.typeNames, Known history name) :
    evaluate forest (.after history) dedupe program root = ExceptT.adapt Failure.provider
      (evaluateWith forest (lastType? history) dedupe program root) := by
  unfold evaluate evaluateWith
  have hsteps : resolveSteps (.after history) program.steps =
      .ok (program.steps.map fun step => (step, meaning history step)) := resolveSteps_known known
  rw [hsteps, adapt_bind, ← applySteps_meaning]
  simp only [adapt_pure]
  exact pure_bind _ _

/-- Histories in which each name has the same last type, and is a tag or none, are as good as each
other. -/
theorem evaluate_congr (types : ∀ name, lastType? history name = lastType? other name)
    (known : ∀ name, Known history name ↔ Known other name) :
    evaluate forest (.after history) dedupe program root =
      evaluate forest (.after other) dedupe program root := by
  by_cases hall : ∀ name ∈ program.typeNames, Known history name
  · rw [evaluate_known forest dedupe root hall, evaluate_known forest dedupe root
      fun name hname => (known name).1 (hall name hname), funext types]
  · have hsome : ∃ name ∈ program.typeNames, ¬ Known history name := by
      simpa only [not_forall, exists_prop] using hall
    obtain ⟨earlier, step, later, name, hsplit, hearlier, hname, hunknown⟩ :=
      exists_first_unknown hsome
    rw [evaluate_unknown forest dedupe root hsplit hearlier hname hunknown,
      evaluate_unknown forest dedupe root hsplit (fun name h => (known name).1 (hearlier name h))
        hname (mt (known name).2 hunknown)]
    unfold Registry.suggestion?
    rw [Registry.typeNames_congr known]

/-- Independent registrations may be exchanged. -/
theorem evaluate_exchange (before after : List (Registration m α ε))
    {first second : Registration m α ε} (h : first.Independent second) (program : Program) :
    evaluate forest (.after (before ++ first :: second :: after)) dedupe program root =
      evaluate forest (.after (before ++ second :: first :: after)) dedupe program root := by
  refine evaluate_congr forest dedupe root (fun name => ?_) fun name => ?_
  · unfold lastType?
    rw [typesUnder_exchange h]
  · unfold Known IsTag
    simp only [mem_exchange]

end

/-- After whatever registrations, an evaluation ends for an unknown type exactly if some step names
a type under which neither a type nor a tag has been registered. It is then the failure that names
the first such step, whatever tree it is for: nothing is asked and nothing changes. Otherwise each
step is taken with the last type registered under its name, or as one for a tag, and whatever fails
is a provider. So registrations may be exchanged, unless they are of two types of one name. -/
theorem evaluate_of_history {σ : Type} (forest : Forest (StateM σ) α)
    (history : List (Registration (StateM σ) α ε)) (dedupe : Bool) (program : Program) (root : α) :
    (∀ s, (∃ name suggestion later, (evaluate forest (.after history) dedupe program root).run s =
        (.error (.unknownType name suggestion), later)) ↔
      ∃ name ∈ program.typeNames, ¬ Known history name) ∧
    (∀ earlier step later name, program.steps = earlier ++ step :: later →
      (∀ name ∈ earlier.filterMap Step.typeName?, Known history name) →
      step.typeName? = some name → ¬ Known history name →
      evaluate forest (.after history) dedupe program root =
        throw (.unknownType name ((Registry.after history).suggestion? name))) ∧
    ((∀ name ∈ program.typeNames, Known history name) →
      evaluate forest (.after history) dedupe program root = ExceptT.adapt Failure.provider
        (evaluateWith forest (lastType? history) dedupe program root)) ∧
    ∀ before first second after, Independent first second →
      history = before ++ first :: second :: after →
      evaluate forest (.after history) dedupe program root =
        evaluate forest (.after (before ++ second :: first :: after)) dedupe program root := by
  refine ⟨fun s => ?_, fun earlier step later name hsplit hearlier hname hunknown =>
      evaluate_unknown forest dedupe root hsplit hearlier hname hunknown,
    evaluate_known forest dedupe root, ?_⟩
  · constructor
    · rintro ⟨name, suggestion, later, hrun⟩
      by_contra hall
      have hknown : ∀ name ∈ program.typeNames, Known history name := by
        simpa only [not_exists, not_and, not_not] using hall
      rw [evaluate_known forest dedupe root hknown] at hrun
      have hresult : (((evaluateWith forest (lastType? history) dedupe program root).run s).1
          |>.mapError Failure.provider) = .error (.unknownType name suggestion) :=
        congrArg Prod.fst hrun
      generalize ((evaluateWith forest (lastType? history) dedupe program root).run s).1 = result
        at hresult
      cases result with
      | error e => cases hresult
      | ok found => cases hresult
    · intro hsome
      obtain ⟨earlier, step, later, name, hsplit, hearlier, hname, hunknown⟩ :=
        exists_first_unknown hsome
      rw [evaluate_unknown forest dedupe root hsplit hearlier hname hunknown]
      exact ⟨name, _, s, rfl⟩
  · rintro before first second after h rfl
    exact evaluate_exchange forest dedupe root before after h program

-- ============================================================ a sample

/-- A node alone. -/
def lone : Forest (StateM Nat) Unit where
  address _ := "/"
  name _ := pure "lone"
  tags _ := pure []
  property _ _ := pure none
  children _ := pure []
  extent _ := pure 1

/-- A type that finds the node where it is asked, as often as it is told. It counts its calls. -/
def finding (name : String) (times : Nat) : Provider (StateM Nat) Unit String where
  name := name
  find node calls := (.ok (List.replicate times node), calls + 1)

/-- Two types of one name, and a tag between them. -/
def things : List (Registration (StateM Nat) Unit String) :=
  [.type (finding "Thing" 1), .tags ["Mark"], .type (finding "Thing" 2)]

/-- A step to the members of a type. -/
def toType (name : String) : Step := ⟨.child, .type name, []⟩

/-- An unknown type ends the evaluation although nothing would have reached its step. Without it the
later of the two types is asked, once, and it does not matter when the tag was made known. -/
theorem evaluate_of_history_things :
    evaluate lone (.after things) false ⟨"/Mark()/Nope()", [toType "Mark", toType "Nope"]⟩ () =
        throw (.unknownType "Nope" ((Registry.after things).suggestion? "Nope")) ∧
      (evaluate lone (.after things) false ⟨"/Thing()", [toType "Thing"]⟩ ()).run 0 =
        (.ok [(), ()], 1) ∧
      evaluate lone (.after things) false ⟨"/Thing()", [toType "Thing"]⟩ () =
        evaluate lone (.after ([.type (finding "Thing" 1)] ++ .type (finding "Thing" 2) ::
          .tags ["Mark"] :: [])) false ⟨"/Thing()", [toType "Thing"]⟩ () := by
  have hmark : Known things "Mark" :=
    .inr (.inr ⟨["Mark"], List.mem_cons_of_mem _ List.mem_cons_self, List.mem_cons_self⟩)
  have hthing : Known things "Thing" := .inl ⟨finding "Thing" 1, List.mem_cons_self, rfl⟩
  have hnope : ¬ Known things "Nope" := by
    rw [← Registry.mem_names_after]
    decide
  obtain ⟨-, hunknown, -, -⟩ := evaluate_of_history lone things false
    ⟨"/Mark()/Nope()", [toType "Mark", toType "Nope"]⟩ ()
  obtain ⟨-, -, hknown, hexchange⟩ := evaluate_of_history lone things false
    ⟨"/Thing()", [toType "Thing"]⟩ ()
  refine ⟨hunknown [toType "Mark"] (toType "Nope") [] "Nope" rfl ?_ rfl hnope, ?_, ?_⟩
  · exact List.forall_mem_singleton.2 hmark
  · rw [hknown (List.forall_mem_singleton.2 hthing)]
    rfl
  · refine hexchange [.type (finding "Thing" 1)] (.tags ["Mark"]) (.type (finding "Thing" 2)) [] ?_
      rfl
    rintro _ _ ⟨⟩

end TreeQuery.Query
