/-
Expressions written one after the other.

# The text

Nothing ends a step but what comes after it, and what comes after the last step of an expression
is white space or nothing. White space ahead of another expression goes with that, so two
derivations written one after the other are a derivation of both (`exists_derivation_append`).

# The nodes

Types are resolved step by step, so the types of both are those of one and of the other. Steps
after steps go on from what the former reach, and reach what they reach from each node of it
(`evaluate_eq_ok_iff_parts`). From both, an expression after another finds what it finds from each
match of the other, one match after another (`evaluate_append`).
-/
import TreeQuery.Proofs.Expression.Reading
import TreeQuery.Proofs.Query.Plain

namespace TreeQuery

-- ============================================================ the text

namespace Expression.Grammar

/-- White space after a step belongs to the step. -/
theorem exists_legs_blank {legs : List Leg} (nonempty : legs ≠ []) (blank : Blank) :
    ∃ others : List Leg, others.flatMap Leg.write = legs.flatMap Leg.write ++ blank.run ∧
      others.map Leg.value = legs.map Leg.value := by
  induction legs with
  | nil => exact absurd rfl nonempty
  | cons leg legs ih =>
      cases legs with
      | nil =>
          have both : ∀ c ∈ leg.after.run ++ blank.run, Unicode.isWhitespace c = true :=
            List.forall_mem_append.2 ⟨leg.after.blank, blank.blank⟩
          refine ⟨[{ leg with after := ⟨_, both⟩ }], ?_, rfl⟩
          simp [Leg.write]
      | cons next more =>
          obtain ⟨others, hwrite, hvalue⟩ := ih (List.cons_ne_nil next more)
          refine ⟨leg :: others, ?_, ?_⟩
          · show leg.write ++ others.flatMap Leg.write =
              leg.write ++ (next :: more).flatMap Leg.write ++ blank.run
            rw [hwrite, List.append_assoc]
          · exact congrArg (leg.value :: ·) hvalue

/-- Two derivations, one after the other, are one. -/
theorem exists_derivation_append (d e : Derivation) :
    ∃ both : Derivation, both.write = d.write ++ e.write ∧ both.steps = d.steps ++ e.steps := by
  obtain ⟨legs, hwrite, hvalue⟩ :=
    exists_legs_blank (List.cons_ne_nil d.first d.rest) e.before
  cases legs with
  | nil => cases hvalue
  | cons first more =>
      refine ⟨⟨d.before, first, more ++ e.legs⟩, ?_, ?_⟩
      · have hlegs : (first :: (more ++ e.legs)).flatMap Leg.write =
            d.legs.flatMap Leg.write ++ e.before.run ++ e.legs.flatMap Leg.write := by
          rw [← List.cons_append, List.flatMap_append, hwrite]
          rfl
        rw [Derivation.write_eq, d.write_eq, e.write_eq]
        show d.before.run ++ (first :: (more ++ e.legs)).flatMap Leg.write = _
        rw [hlegs]
        simp only [List.append_assoc]
      · show (first :: (more ++ e.legs)).map Leg.value = _
        rw [← List.cons_append, List.map_append, hvalue]
        rfl

end Expression.Grammar

namespace Expression

open Grammar

/-- Accepted expressions written one after the other are accepted, and have the steps of both. -/
theorem compile_append {e₁ e₂ : String} {p₁ p₂ : Program} (h₁ : compile e₁ = .ok p₁)
    (h₂ : compile e₂ = .ok p₂) :
    compile (e₁ ++ e₂) = .ok ⟨e₁ ++ e₂, p₁.steps ++ p₂.steps⟩ := by
  obtain ⟨d₁, rfl, hsteps₁⟩ := exists_derivation_of_compile h₁
  obtain ⟨d₂, rfl, hsteps₂⟩ := exists_derivation_of_compile h₂
  obtain ⟨both, hwrite, hsteps⟩ := exists_derivation_append d₁ d₂
  have htext : both.text = d₁.text ++ d₂.text := by
    rw [Derivation.text, hwrite, String.ofList_append]
    rfl
  rw [hsteps₁, hsteps₂, ← hsteps, ← htext]
  exact compile_text both

end Expression

-- =========================================================== the nodes

namespace Query

open Expression (Axis NodeTest Predicate Program Step)

variable {α ε : Type} {forest : Forest Id α} {registry : Registry (Provider Id α ε)}

-- ========================================================== resolution

section Resolution

variable {step : Step} {steps : List Step}

/-- The type that the step names, if it names one, is known. -/
def KnowsType (registry : Registry (Provider Id α ε)) (step : Step) : Prop :=
  ∀ name, step.typeName? = some name → (registry.resolve? name).isSome

/-- A type that is known stands for something. -/
theorem exists_resolveStep (h : KnowsType registry step) :
    ∃ resolution, resolveStep registry step = .ok resolution := by
  unfold resolveStep
  cases hname : step.typeName? with
  | none => exact ⟨none, rfl⟩
  | some name =>
      obtain ⟨resolution, hresolution⟩ := Option.isSome_iff_exists.1 (h name hname)
      exact ⟨some resolution, by simp only [hresolution]⟩

theorem exists_resolveSteps (h : ∀ step ∈ steps, KnowsType registry step) :
    ∃ resolved, resolveSteps registry steps = .ok resolved := by
  induction steps with
  | nil => exact ⟨[], rfl⟩
  | cons step steps ih =>
      obtain ⟨hstep, hsteps⟩ := List.forall_mem_cons.1 h
      obtain ⟨resolution, hresolution⟩ := exists_resolveStep hstep
      obtain ⟨resolved, hresolved⟩ := ih hsteps
      exact ⟨(step, resolution) :: resolved,
        resolveSteps_cons_eq_ok.2 ⟨resolution, resolved, hresolution, hresolved, rfl⟩⟩

end Resolution

-- ========================================================== evaluation

variable {program : Program} {root : α} {found : List α}

/-- Without dropping repeated nodes, an evaluation answers with what the steps reach. -/
theorem evaluate_eq_applySteps {resolved : List (Step × Option (Resolution (Provider Id α ε)))}
    (h : resolveSteps registry program.steps = .ok resolved) :
    evaluate forest registry false program root = applySteps forest resolved [root] := by
  unfold evaluate
  rw [h]
  exact bind_pure (applySteps forest resolved [root])

/-- Types that find members wherever they are asked to. -/
def Total (registry : Registry (Provider Id α ε)) : Prop :=
  ∀ entry ∈ registry.types, ∀ node, ∃ members, entry.2.find node = .ok members

theorem exists_findFromEach {provider : Provider Id α ε}
    (total : ∀ node, ∃ members, provider.find node = .ok members) (nodes : List α) :
    ∃ found, (findFromEach provider nodes).run = .ok found := by
  induction nodes with
  | nil => exact ⟨[], rfl⟩
  | cons node nodes ih =>
      obtain ⟨members, hmembers⟩ := total node
      obtain ⟨more, hmore⟩ := ih
      refine ⟨members ++ more, run_bind_eq_ok.2 ⟨.ok members, ?_, ?_⟩⟩
      · exact congrArg Except.ok hmembers
      · exact run_bind_eq_ok.2 ⟨more, hmore, rfl⟩

/-- What a resolution stands for, if it is a registered type, finds members everywhere. -/
def Finds (resolution : Option (Resolution (Provider Id α ε))) : Prop :=
  ∀ name type, resolution = some (.registered name type) →
    ∀ node, ∃ members, type.find node = .ok members

section Finds

variable {resolution : Option (Resolution (Provider Id α ε))}

theorem exists_expand (forest : Forest Id α) (step : Step) (finds : Finds resolution) (node : α) :
    ∃ found, (expand forest step resolution node).run = .ok found := by
  match resolution, finds with
  | none, _ => exact ⟨_, rfl⟩
  | some (.tag _), _ => exact ⟨_, rfl⟩
  | some (.registered name type), finds =>
      unfold expand
      cases step.axis with
      | child => exact exists_findFromEach (finds name type rfl) [node]
      | descendant =>
          obtain ⟨found, hfound⟩ :=
            exists_findFromEach (finds name type rfl) (forest.descendantsOrSelf node)
          exact ⟨found, run_bind_eq_ok.2 ⟨_, rfl, hfound⟩⟩

theorem exists_applyStep (forest : Forest Id α) (step : Step) (finds : Finds resolution)
    (nodes : List α) : ∃ found, (applyStep forest step resolution nodes).run = .ok found := by
  induction nodes with
  | nil => exact ⟨[], rfl⟩
  | cons node nodes ih =>
      obtain ⟨found, hfound⟩ := exists_expand forest step finds node
      obtain ⟨more, hmore⟩ := ih
      exact ⟨_, run_bind_eq_ok.2 ⟨found, hfound,
        run_bind_eq_ok.2 ⟨_, rfl, run_bind_eq_ok.2 ⟨more, hmore, rfl⟩⟩⟩⟩

theorem exists_applySteps {steps : List (Step × Option (Resolution (Provider Id α ε)))}
    (finds : ∀ entry ∈ steps, Finds entry.2) (nodes : List α) :
    ∃ found, (applySteps forest steps nodes).run = .ok found := by
  induction steps generalizing nodes with
  | nil => exact ⟨nodes, rfl⟩
  | cons first steps ih =>
      obtain ⟨step, resolution⟩ := first
      obtain ⟨hfirst, hrest⟩ := List.forall_mem_cons.1 finds
      obtain ⟨reached, hreached⟩ := exists_applyStep forest step hfirst nodes
      obtain ⟨found, hfound⟩ := ih hrest reached
      exact ⟨found, run_bind_eq_ok.2 ⟨reached, hreached, hfound⟩⟩

end Finds

/-- An evaluation whose types are known and find members wherever they are asked to succeeds. -/
theorem exists_evaluate (known : ∀ step ∈ program.steps, KnowsType registry step)
    (total : Total registry) :
    ∃ found, (evaluate forest registry false program root).run = .ok found := by
  obtain ⟨resolved, hresolved⟩ := exists_resolveSteps known
  rw [evaluate_eq_applySteps hresolved]
  refine exists_applySteps (fun entry he name type hentry node => ?_) [root]
  obtain ⟨known, hknown, rfl⟩ := known_of_resolveSteps hresolved entry he name type hentry
  exact total known hknown node

/-- The steps of two programs in a row find what those of the second find from each match of the
first. -/
theorem evaluate_eq_ok_iff_parts {first second : Program} (known : ∀ step ∈ program.steps,
    KnowsType registry step) (hsteps : program.steps = first.steps ++ second.steps) :
    (evaluate forest registry false program root).run = .ok found ↔
      ∃ reached parts, (evaluate forest registry false first root).run = .ok reached ∧
        List.Forall₂ (fun node part =>
          (evaluate forest registry false second node).run = .ok part) reached parts ∧
        found = parts.flatten := by
  rw [hsteps] at known
  obtain ⟨hfirst, hsecond⟩ := List.forall_mem_append.1 known
  obtain ⟨before, hbefore⟩ := exists_resolveSteps hfirst
  obtain ⟨after, hafter⟩ := exists_resolveSteps hsecond
  have hboth := resolveSteps_append_eq_ok.2 ⟨before, after, hbefore, hafter, rfl⟩
  rw [← hsteps] at hboth
  rw [evaluate_eq_applySteps hboth, applySteps_append, run_bind_eq_ok]
  simp only [evaluate_eq_applySteps hbefore, evaluate_eq_applySteps hafter]
  constructor
  · rintro ⟨reached, hreached, hfound⟩
    obtain ⟨parts, hparts, rfl⟩ := applySteps_eq_ok.1 hfound
    exact ⟨reached, parts, hreached, hparts, rfl⟩
  · rintro ⟨reached, parts, hreached, hparts, rfl⟩
    exact ⟨reached, hreached, applySteps_eq_ok.2 ⟨parts, hparts, rfl⟩⟩

/-- An expression after another finds what it finds from each match of the other, one match after
another, and compiles to the steps of both. With types that find members wherever they are asked
to there is always something found. -/
theorem evaluate_append {e₁ e₂ : String} {p₁ p₂ : Program}
    (h₁ : Expression.compile e₁ = .ok p₁) (h₂ : Expression.compile e₂ = .ok p₂) :
    ∃ p, Expression.compile (e₁ ++ e₂) = .ok p ∧ p.steps = p₁.steps ++ p₂.steps ∧
      ∀ {α ε : Type} (forest : Forest Id α) (registry : Registry (Provider Id α ε)) (root : α),
        (∀ step ∈ p₁.steps ++ p₂.steps, KnowsType registry step) →
        (∀ found, (evaluate forest registry false p root).run = .ok found ↔
          ∃ reached parts, (evaluate forest registry false p₁ root).run = .ok reached ∧
            List.Forall₂ (fun node part =>
              (evaluate forest registry false p₂ node).run = .ok part) reached parts ∧
            found = parts.flatten) ∧
        (Total registry → ∃ found, (evaluate forest registry false p root).run = .ok found) :=
  ⟨_, Expression.compile_append h₁ h₂, rfl, fun _ _ _ known =>
    ⟨fun _ => evaluate_eq_ok_iff_parts known rfl, exists_evaluate known⟩⟩

-- ============================================================ a sample

/-- The numbers from 0 to 6 as a tree: below 0 are 1 and 2, below 1 are 3 and 4, below 2 are 5
and 6. -/
def sevenNodes : Forest Id Nat where
  address node := toString node
  name node := toString node
  tags _ := ["Number"]
  property _ _ := none
  children node := if node < 3 then [2 * node + 1, 2 * node + 2] else []
  extent _ := 7

/-- A registry that knows the numbers. -/
def numbers : Registry (Provider Id Nat String) := Registry.core.addTags ["Number"]

theorem compile_all : Expression.compile "/* " = .ok ⟨"/* ", [⟨.child, .any, []⟩]⟩ := by
  decide +kernel

theorem compile_firstNumber : Expression.compile " /Number()[1]" =
    .ok ⟨" /Number()[1]", [⟨.child, .type "Number", [.position 1]⟩]⟩ := by
  decide +kernel

/-- The case of a position, which counts anew below each of two nodes. -/
theorem evaluate_append_sevenNodes :
    ∃ p, Expression.compile ("/* " ++ " /Number()[1]") = .ok p ∧
      (evaluate sevenNodes numbers false p 0).run = .ok [3, 5] := by
  obtain ⟨p, hp, -, h⟩ := evaluate_append compile_all compile_firstNumber
  have known : ∀ step ∈ [(⟨.child, .any, []⟩ : Step), ⟨.child, .type "Number", [.position 1]⟩],
      KnowsType numbers step := by
    refine List.forall_mem_cons.2 ⟨by rintro _ ⟨⟩, List.forall_mem_singleton.2 ?_⟩
    rintro _ ⟨⟩
    decide
  exact ⟨p, hp, ((h sevenNodes numbers 0 known).1 [3, 5]).2
    ⟨[1, 2], [[3], [5]], rfl, .cons rfl (.cons rfl .nil), rfl⟩⟩

end Query

end TreeQuery
