/-
The types that expressions can name.

A name in an expression starts with a letter or an underscore and goes on with letters, digits and
a few marks (`isName_iff`). A type with such a name is the one step of the shortest expression that
names it (`compile_type`); no expression at all names a type with any other name
(`isName_of_mem_typeNames`), although the text that would name it may well mean something else.
-/
import TreeQuery.Proofs.Expression.Printing

namespace TreeQuery.Expression

open Grammar

variable {name : String}

theorem isName_iff : IsName name ↔
    ∃ c rest, name.toList = c :: rest ∧ isNameStart c = true ∧ ∀ d ∈ rest, isNamePart d = true := by
  constructor
  · rintro ⟨written, rfl⟩
    exact ⟨written.first, written.rest, String.toList_ofList, written.isNameStart_first,
      written.isNamePart_rest⟩
  · rintro ⟨c, rest, he, hstart, hrest⟩
    have hread : readName? (c :: rest) = some (name, []) := by
      rw [← List.append_nil (c :: rest), List.cons_append, readName?, if_pos hstart,
        Text.takeWhile_run hrest Text.ends_nil, Text.dropWhile_run hrest Text.ends_nil, ← he,
        String.ofList_toList]
    obtain ⟨written, -, htext⟩ := exists_name hread
    exact ⟨written, htext.symm⟩

instance : Decidable (IsName name) :=
  decidable_of_iff ((name.toList.head?.any isNameStart && name.toList.tail.all isNamePart) = true)
    (by
      rw [isName_iff, Bool.and_eq_true, List.all_eq_true]
      cases name.toList with
      | nil => simp
      | cons c rest =>
          constructor
          · rintro ⟨hstart, hrest⟩
            exact ⟨c, rest, rfl, hstart, hrest⟩
          · rintro ⟨c, rest, he, hstart, hrest⟩
            obtain ⟨rfl, rfl⟩ := List.cons.inj he
            exact ⟨hstart, hrest⟩)

instance (test : NodeTest) : Decidable test.Lexical :=
  match test with
  | .any => .isTrue trivial
  | .name text => inferInstanceAs (Decidable (IsName text))
  | .type text => inferInstanceAs (Decidable (IsName text))

instance (predicate : Predicate) : Decidable predicate.Lexical :=
  match predicate with
  | .attribute name _ => inferInstanceAs (Decidable (IsName name))
  | .hasChild name => inferInstanceAs (Decidable (IsName name))
  | .position place => inferInstanceAs (Decidable (1 ≤ place ∧ place < UInt64.size))

instance (step : Step) : Decidable step.Lexical :=
  decidable_of_iff (step.test.Lexical ∧ ∀ predicate ∈ step.predicates, predicate.Lexical)
    ⟨fun h => ⟨h.1, h.2⟩, fun h => ⟨h.test, h.predicates⟩⟩

/-- An expression that is written as its steps are printed. -/
theorem compile_of_print {steps : List Step} {expression : String} (nonempty : steps ≠ [])
    (lexical : ∀ step ∈ steps, step.Lexical) (he : expression.toList = printSteps steps) :
    compile expression = .ok ⟨expression, steps⟩ := by
  have hcompile := compile_printSteps nonempty lexical
  rwa [← he, String.ofList_toList] at hcompile

/-- A test alone is a step without predicates, and that is the whole of its expression. -/
theorem compile_test (test : NodeTest) (h : test.Lexical) {expression : String}
    (he : expression.toList = '/' :: test.print) :
    compile expression = .ok ⟨expression, [⟨.child, test, []⟩]⟩ := by
  have hlexical : (⟨.child, test, []⟩ : Step).Lexical := ⟨h, fun predicate hp => by cases hp⟩
  refine compile_of_print (List.cons_ne_nil _ []) (List.forall_mem_singleton.2 hlexical) ?_
  rw [he]
  simp [printSteps, Step.print, Axis.print]

theorem compile_name (h : IsName name) :
    compile ("/" ++ name) = .ok ⟨"/" ++ name, [⟨.child, .name name, []⟩]⟩ := by
  refine compile_test (.name name) h ?_
  rw [String.toList_append]
  rfl

theorem compile_type (h : IsName name) :
    compile ("/" ++ name ++ "()") = .ok ⟨"/" ++ name ++ "()", [⟨.child, .type name, []⟩]⟩ := by
  refine compile_test (.type name) h ?_
  rw [String.toList_append, String.toList_append]
  rfl

/-- The types of a program have names that can be written. -/
theorem isName_of_mem_typeNames {expression : String} {program : Program}
    (h : compile expression = .ok program) (hn : name ∈ program.typeNames) : IsName name := by
  obtain ⟨derivation, -, hsteps⟩ := exists_derivation_of_compile h
  obtain ⟨step, hstep, hname⟩ := List.mem_filterMap.1 hn
  rw [hsteps] at hstep
  have hlexical := ((lexical_steps derivation).2 step hstep).test
  unfold Step.typeName? at hname
  split at hname
  · rename_i text htest
    obtain rfl := Option.some.inj hname
    rw [htest] at hlexical
    exact hlexical
  · cases hname

end TreeQuery.Expression
