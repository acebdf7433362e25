/-
Printing is writing a derivation.

The text of a step has the shape of a derivation without white space: every printed value is a
literal whose quotes and backslashes are pairs, every printed position a run of digits without
leading zeros. So steps that can be written at all, those whose names are names and whose
positions are positions (`Step.Lexical`), are read back as they were printed; and steps that
have been read are of this kind, since each stands for a part of a derivation.
-/
import TreeQuery.Proofs.Expression.Reading

namespace TreeQuery.Expression

open Grammar

-- ====================================================== lexical steps

/-- The text can stand where the grammar has a name. -/
def IsName (text : String) : Prop := ∃ name : Name, name.text = text

namespace NodeTest

/-- The name that is tested for, if there is one, is a name. -/
def Lexical : NodeTest → Prop
  | .any => True
  | .name text => IsName text
  | .type text => IsName text

end NodeTest

namespace Predicate

/-- Names are names, positions are numbers from 1 to 2^64 - 1, and values are any texts. -/
def Lexical : Predicate → Prop
  | .attribute name _ => IsName name
  | .hasChild name => IsName name
  | .position place => 1 ≤ place ∧ place < UInt64.size

end Predicate

/-- The step can be written as an expression. -/
structure Step.Lexical (step : Step) : Prop where
  test : step.test.Lexical
  predicates : ∀ predicate ∈ step.predicates, predicate.Lexical

-- =========================================== what is derived is lexical

theorem isName_text (name : Name) : IsName name.text := ⟨name, rfl⟩

theorem lexical_condition (condition : Condition) : condition.value.Lexical := by
  cases condition with
  | property name before after value => exact isName_text name
  | hasChild name => exact isName_text name
  | position place => exact ⟨place.positive, place.bounded⟩

theorem lexical_test (test : Test) : test.value.Lexical := by
  cases test with
  | any => trivial
  | name n => exact isName_text n
  | type n => exact isName_text n

theorem lexical_leg (leg : Leg) : leg.value.Lexical where
  test := lexical_test leg.test
  predicates := by
    intro predicate hp
    obtain ⟨bracket, -, rfl⟩ := List.mem_map.1 hp
    exact lexical_condition bracket.condition

theorem lexical_steps (derivation : Derivation) :
    derivation.steps ≠ [] ∧ ∀ step ∈ derivation.steps, step.Lexical := by
  refine ⟨List.cons_ne_nil _ _, ?_⟩
  intro step hs
  obtain ⟨leg, -, rfl⟩ := List.mem_map.1 (show step ∈ derivation.legs.map Leg.value from hs)
  exact lexical_leg leg

-- =========================================== what is lexical is derived

/-- A printed value is pieces of a literal in single quotes. -/
theorem exists_pieces_of_value (value : List Char) :
    ∃ pieces : List (Piece '\''), pieces.flatMap Piece.write = value.flatMap escapeValue ∧
      pieces.map Piece.value = value := by
  induction value with
  | nil => exact ⟨[], rfl, rfl⟩
  | cons c value ih =>
      obtain ⟨pieces, hwrite, hvalue⟩ := ih
      by_cases hc : c = '\\' ∨ c = '\''
      · refine ⟨.pair c :: pieces, ?_, ?_⟩
        · simp only [List.flatMap_cons, hwrite, escapeValue, hc, if_true, Piece.write]
        · simp only [List.map_cons, hvalue, Piece.value]
      · obtain ⟨notBackslash, notQuote⟩ := not_or.1 hc
        refine ⟨.plain c notQuote notBackslash :: pieces, ?_, ?_⟩
        · simp only [List.flatMap_cons, hwrite, escapeValue, hc, if_false, Piece.write]
        · simp only [List.map_cons, hvalue, Piece.value]

theorem exists_literal (value : String) :
    ∃ literal : Literal, literal.write = '\'' :: value.toList.flatMap escapeValue ++ ['\''] ∧
      literal.value = value := by
  obtain ⟨pieces, hwrite, hvalue⟩ := exists_pieces_of_value value.toList
  refine ⟨⟨'\'', .inl rfl, pieces⟩, ?_, ?_⟩
  · rw [Literal.write, hwrite]
  · rw [Literal.value, hvalue, String.ofList_toList]

theorem exists_digits {place : Nat} (positive : 1 ≤ place) (bounded : place < UInt64.size) :
    ∃ digits : Digits, digits.run = Nat.toDigits 10 place ∧ digits.value = place := by
  have hvalue : Nat.ofDigitChars 10 (Nat.toDigits 10 place) 0 = place :=
    Nat.ofDigitChars_ten_toDigits
  refine ⟨⟨Nat.toDigits 10 place, fun c hc => ?_, ?_, ?_⟩, rfl, hvalue⟩
  · have hdigit := Nat.isDigit_of_mem_toDigits (by decide) (by decide) hc
    simpa [Char.isDigit, Char.le_def] using hdigit
  · rw [hvalue]
    exact positive
  · rw [hvalue]
    exact bounded

theorem exists_bracket {predicate : Predicate} (h : predicate.Lexical) :
    ∃ bracket : Bracket, bracket.write = predicate.print ∧ bracket.condition.value = predicate := by
  cases predicate with
  | «attribute» name value =>
      obtain ⟨name, rfl⟩ := h
      obtain ⟨literal, hwrite, rfl⟩ := exists_literal value
      refine ⟨⟨.none, .property name .none .none literal, .none⟩, ?_, rfl⟩
      simp [Bracket.write, Condition.write, Blank.none, hwrite, Predicate.print, Name.text]
  | hasChild name =>
      obtain ⟨name, rfl⟩ := h
      refine ⟨⟨.none, .hasChild name, .none⟩, ?_, rfl⟩
      simp [Bracket.write, Condition.write, Blank.none, Predicate.print, Name.text]
  | position place =>
      obtain ⟨digits, hrun, hvalue⟩ := exists_digits h.1 h.2
      refine ⟨⟨.none, .position digits, .none⟩, ?_, congrArg Predicate.position hvalue⟩
      simp [Bracket.write, Condition.write, Blank.none, Predicate.print, hrun]

theorem exists_brackets {predicates : List Predicate} (h : ∀ p ∈ predicates, p.Lexical) :
    ∃ brackets : List Bracket,
      brackets.flatMap Bracket.write = predicates.flatMap Predicate.print ∧
        (brackets.map fun bracket => bracket.condition.value) = predicates := by
  induction predicates with
  | nil => exact ⟨[], rfl, rfl⟩
  | cons predicate predicates ih =>
      rw [List.forall_mem_cons] at h
      obtain ⟨bracket, hwrite, hvalue⟩ := exists_bracket h.1
      obtain ⟨brackets, hwrites, hvalues⟩ := ih h.2
      refine ⟨bracket :: brackets, ?_, ?_⟩
      · rw [List.flatMap_cons, List.flatMap_cons, hwrite, hwrites]
      · rw [List.map_cons, hvalue, hvalues]

theorem exists_test {test : NodeTest} (h : test.Lexical) :
    ∃ derived : Test, derived.write = test.print ∧ derived.value = test := by
  cases test with
  | any => exact ⟨.any, rfl, rfl⟩
  | name text =>
      obtain ⟨name, rfl⟩ := h
      refine ⟨.name name, ?_, rfl⟩
      simp [Test.write, NodeTest.print, Name.text]
  | type text =>
      obtain ⟨name, rfl⟩ := h
      refine ⟨.type name, ?_, rfl⟩
      simp [Test.write, NodeTest.print, Name.text]

theorem exists_leg_of_lexical {step : Step} (h : step.Lexical) :
    ∃ leg : Leg, leg.write = step.print ∧ leg.value = step := by
  obtain ⟨test, hwrite, hvalue⟩ := exists_test h.test
  obtain ⟨brackets, hwrites, hvalues⟩ := exists_brackets h.predicates
  refine ⟨⟨step.axis, test, brackets, .none⟩, ?_, ?_⟩
  · simp [Leg.write, Step.print, hwrite, hwrites, Blank.none]
  · simp [Leg.value, hvalue, hvalues]

theorem exists_legs_of_lexical {steps : List Step} (h : ∀ step ∈ steps, step.Lexical) :
    ∃ legs : List Leg, legs.flatMap Leg.write = printSteps steps ∧
      legs.map Leg.value = steps := by
  induction steps with
  | nil => exact ⟨[], rfl, rfl⟩
  | cons step steps ih =>
      rw [List.forall_mem_cons] at h
      obtain ⟨leg, hwrite, hvalue⟩ := exists_leg_of_lexical h.1
      obtain ⟨legs, hwrites, hvalues⟩ := ih h.2
      refine ⟨leg :: legs, ?_, ?_⟩
      · rw [List.flatMap_cons, hwrite, hwrites]
        rfl
      · rw [List.map_cons, hvalue, hvalues]

/-- Steps that can be written are printed as a derivation of them. -/
theorem exists_derivation_of_lexical {steps : List Step} (nonempty : steps ≠ [])
    (h : ∀ step ∈ steps, step.Lexical) :
    ∃ derivation : Derivation, derivation.write = printSteps steps ∧
      derivation.steps = steps := by
  obtain ⟨legs, hwrite, hvalue⟩ := exists_legs_of_lexical h
  cases legs with
  | nil => exact absurd hvalue.symm nonempty
  | cons first more =>
      refine ⟨⟨.none, first, more⟩, ?_, hvalue⟩
      rw [Derivation.write_eq, ← hwrite]
      rfl

theorem compile_printSteps {steps : List Step} (nonempty : steps ≠ [])
    (h : ∀ step ∈ steps, step.Lexical) :
    compile (String.ofList (printSteps steps)) =
      .ok ⟨String.ofList (printSteps steps), steps⟩ := by
  obtain ⟨derivation, hwrite, rfl⟩ := exists_derivation_of_lexical nonempty h
  have hcompile := compile_text derivation
  rw [Derivation.text, hwrite] at hcompile
  exact hcompile

/-- Steps that can be written compile from what they print; programs consist of such steps, and so
they compile from what they print as well. -/
theorem compiled_as_printed :
    (∀ steps : List Step, steps ≠ [] → (∀ step ∈ steps, step.Lexical) →
        compile (String.ofList (printSteps steps)) =
          .ok ⟨String.ofList (printSteps steps), steps⟩) ∧
      ∀ (expression : String) (program : Program), compile expression = .ok program →
        program.steps ≠ [] ∧ (∀ step ∈ program.steps, step.Lexical) ∧
          compile program.text = .ok ⟨program.text, program.steps⟩ := by
  refine ⟨fun steps nonempty h => compile_printSteps nonempty h, ?_⟩
  intro expression program h
  obtain ⟨derivation, -, hsteps⟩ := exists_derivation_of_compile h
  obtain ⟨nonempty, lexical⟩ := lexical_steps derivation
  rw [← hsteps] at nonempty lexical
  exact ⟨nonempty, lexical, compile_printSteps nonempty lexical⟩

/-- A step with a value in which quotes and backslashes need an escape and brackets do not. -/
def quotedStep : Step := ⟨.descendant, .any, [.attribute "name" "it's [1]\\"]⟩

/-- A program of this step, with white space in its expression. -/
def spaced : Program := ⟨" //*[@name = 'it\\'s [1]\\\\'] ", [quotedStep]⟩

theorem lexical_quotedStep : quotedStep.Lexical := by
  have hparts : ['a', 'm', 'e'].all isNamePart = true := by decide
  refine ⟨trivial, List.forall_mem_singleton.2 ⟨⟨'n', ['a', 'm', 'e'], by decide, ?_⟩, rfl⟩⟩
  intro c hc
  simpa [isNamePart, or_assoc] using List.all_eq_true.1 hparts c hc

/-- The step is read back as it is printed, and the program is printed without white space. -/
theorem compiled_as_printed_quoted :
    spaced.text = "//*[@name='it\\'s [1]\\\\']" ∧
      compile "//*[@name='it\\'s [1]\\\\']" =
        .ok ⟨"//*[@name='it\\'s [1]\\\\']", [quotedStep]⟩ ∧
      compile spaced.expression = .ok spaced ∧
      compile spaced.text = .ok ⟨spaced.text, spaced.steps⟩ := by
  have hprinted : String.ofList (printSteps [quotedStep]) = "//*[@name='it\\'s [1]\\\\']" := by
    decide
  have hspaced : compile spaced.expression = .ok spaced := by decide +kernel
  obtain ⟨hsteps, hprogram⟩ := compiled_as_printed
  have hstep := hsteps [quotedStep] (List.cons_ne_nil _ _)
    (List.forall_mem_singleton.2 lexical_quotedStep)
  rw [hprinted] at hstep
  exact ⟨hprinted, hstep, hspaced, (hprogram _ _ hspaced).2.2⟩

end TreeQuery.Expression
