/-
Which configurations are valid, and what is reported of those that are not.

What is wrong with a configuration is counted issue by issue (`Config.violations`): a name for each
place where it is blank, and for each place but the first where it stands, and every other fault for
each definition that has it. What is reported is just that (`count_issues`), so nothing is missed,
nothing is reported twice, and nothing is reported of a valid configuration
(`issues_eq_nil_iff`).

The names are gone through with those before them at hand. A name that has been seen is counted
again each time, and one that has not from the second time on: with this the induction over the
names goes through (`count_duplicateName`).
-/
import Mathlib.Data.List.Nodup
import TreeQuery.Config.Basic

namespace TreeQuery

/-- Whether an issue is a fault of a microgrammar, apart from its name. -/
def MicrogrammarDefinition.violates (definition : MicrogrammarDefinition) (issue : ConfigIssue) :
    Bool :=
  Config.isBlank definition.grammar && issue == .blankGrammar definition.name

/-- Whether an issue is a fault of a pattern, apart from its name. -/
def PatternDefinition.violates (definition : PatternDefinition) (issue : ConfigIssue) : Bool :=
  (Config.isBlank definition.pattern && issue == .blankPattern definition.name) ||
    ((Language.ofName? definition.language).isNone &&
      issue == .unknownLanguage definition.name definition.language)

namespace Config

/-- How often names have a fault. -/
def nameViolations (names : List String) : ConfigIssue → Nat
  | .blankName => names.countP isBlank
  | .duplicateName name => if isBlank name then 0 else names.count name - 1
  | _ => 0

/-- How often a configuration has a fault. -/
def violations (config : Config) (issue : ConfigIssue) : Nat :=
  nameViolations config.names issue +
    config.microgrammars.countP (·.violates issue) + config.patterns.countP (·.violates issue)

/-- The names are all different and none is blank, there is something in each definition, and the
languages of all patterns are known. -/
structure Valid (config : Config) : Prop where
  named : ∀ name ∈ config.names, isBlank name = false
  distinct : config.names.Nodup
  grammars : ∀ definition ∈ config.microgrammars, isBlank definition.grammar = false
  patterns : ∀ definition ∈ config.patterns, isBlank definition.pattern = false
  languages : ∀ definition ∈ config.patterns,
    ∃ language, Language.parse definition.language = .ok language

variable {seen names : List String} {name : String} {config : Config}

-- ================================================================ names

theorem count_blankName (seen names : List String) :
    (nameIssues seen names).count .blankName = names.countP isBlank := by
  fun_induction nameIssues seen names with
  | case1 => rfl
  | case2 seen name rest hblank ih =>
      rw [List.count_cons_self, ih, List.countP_cons_of_pos hblank]
  | case3 seen name rest hblank _ ih =>
      rw [List.count_cons_of_ne (by simp), ih, List.countP_cons_of_neg hblank]
  | case4 seen name rest hblank _ ih => rw [ih, List.countP_cons_of_neg hblank]

/-- A name is reported each time it stands again. -/
theorem count_duplicateName (filled : isBlank name = false) (seen names : List String) :
    (nameIssues seen names).count (.duplicateName name) =
      if name ∈ seen then names.count name else names.count name - 1 := by
  fun_induction nameIssues seen names with
  | case1 => simp
  | case2 seen other rest hblank ih =>
      have hne : other ≠ name := by
        rintro rfl
        rw [filled] at hblank
        cases hblank
      rw [List.count_cons_of_ne (by simp), ih, List.count_cons_of_ne hne]
  | case3 seen other rest _ hseen ih =>
      rw [List.contains_iff_mem] at hseen
      by_cases hne : other = name
      · subst hne
        rw [List.count_cons_self, ih, if_pos hseen, if_pos hseen, List.count_cons_self]
      · rw [List.count_cons_of_ne (by simpa using hne), ih, List.count_cons_of_ne hne]
  | case4 seen other rest _ hseen ih =>
      rw [List.contains_iff_mem] at hseen
      by_cases hne : other = name
      · subst hne
        rw [ih, if_pos List.mem_cons_self, if_neg hseen, List.count_cons_self]
        rfl
      · simp only [ih, List.mem_cons, Ne.symm hne, false_or, List.count_cons_of_ne hne]

/-- Blank names are not reported as standing again, and of names nothing else is reported. -/
theorem mem_nameIssues {issue : ConfigIssue} (h : issue ∈ nameIssues seen names) :
    issue = .blankName ∨ ∃ name, issue = .duplicateName name ∧ isBlank name = false := by
  fun_induction nameIssues seen names with
  | case1 => cases h
  | case2 seen name rest _ ih =>
      rcases List.mem_cons.1 h with rfl | h
      · exact .inl rfl
      · exact ih h
  | case3 seen name rest hblank _ ih =>
      rcases List.mem_cons.1 h with rfl | h
      · exact .inr ⟨name, rfl, Bool.eq_false_iff.2 hblank⟩
      · exact ih h
  | case4 seen name rest _ _ ih => exact ih h

theorem count_nameIssues (names : List String) (issue : ConfigIssue) :
    (nameIssues [] names).count issue = nameViolations names issue := by
  have hother : (∀ name, issue = .duplicateName name → isBlank name = true) →
      issue ≠ .blankName → (nameIssues [] names).count issue = 0 := by
    intro hblank hne
    refine List.count_eq_zero.2 fun hm => ?_
    rcases mem_nameIssues hm with rfl | ⟨name, rfl, hfilled⟩
    · exact hne rfl
    · rw [hblank name rfl] at hfilled
      cases hfilled
  cases issue with
  | blankName => exact count_blankName [] names
  | duplicateName name =>
      show _ = if isBlank name then 0 else names.count name - 1
      cases hblank : isBlank name with
      | true =>
          refine hother (fun other he => ?_) (by simp)
          obtain rfl := ConfigIssue.duplicateName.inj he
          exact hblank
      | false => rw [count_duplicateName hblank, if_neg List.not_mem_nil, if_neg Bool.false_ne_true]
  | blankGrammar => exact hother (by simp) (by simp)
  | blankPattern => exact hother (by simp) (by simp)
  | unknownLanguage => exact hother (by simp) (by simp)

/-- Names without faults are all different, and none is blank. -/
theorem nameViolations_eq_zero_iff : (∀ issue, nameViolations names issue = 0) ↔
    (∀ name ∈ names, isBlank name = false) ∧ names.Nodup := by
  constructor
  · intro h
    have named : ∀ name ∈ names, isBlank name = false := fun name hn =>
      Bool.eq_false_iff.2 (List.countP_eq_zero.1 (h .blankName) name hn)
    refine ⟨named, List.nodup_iff_count_le_one.2 fun name => ?_⟩
    by_cases hn : name ∈ names
    · have hcount := h (.duplicateName name)
      unfold nameViolations at hcount
      dsimp only at hcount
      rw [named name hn] at hcount
      exact Nat.sub_eq_zero_iff_le.1 hcount
    · rw [List.count_eq_zero_of_not_mem hn]
      exact Nat.zero_le 1
  · rintro ⟨named, distinct⟩ issue
    cases issue with
    | blankName =>
        exact List.countP_eq_zero.2 fun name hn => Bool.eq_false_iff.1 (named name hn)
    | duplicateName name =>
        have hcount : names.count name ≤ 1 := List.nodup_iff_count_le_one.1 distinct name
        show (if isBlank name then 0 else names.count name - 1) = 0
        split
        · rfl
        · omega
    | blankGrammar => rfl
    | blankPattern => rfl
    | unknownLanguage => rfl

-- ========================================================== definitions

/-- If each definition is reported once or not at all, those that are reported are counted. -/
theorem count_flatMap_eq_countP {δ : Type} {report : δ → List ConfigIssue} {issue : ConfigIssue}
    {faulty : δ → Bool} (h : ∀ definition,
      (report definition).count issue = if faulty definition then 1 else 0)
    (definitions : List δ) : (definitions.flatMap report).count issue =
      definitions.countP faulty := by
  induction definitions with
  | nil => rfl
  | cons definition rest ih =>
      rw [List.flatMap_cons, List.count_append, ih, h, List.countP_cons, Nat.add_comm]

theorem count_ite_singleton (faulty : Bool) (issue other : ConfigIssue) :
    (if faulty then [other] else []).count issue = if faulty && issue == other then 1 else 0 := by
  cases faulty with
  | true =>
      rw [if_pos rfl, List.count_singleton, BEq.comm]
      rfl
  | false => rfl

theorem count_grammarIssues (issue : ConfigIssue) (definition : MicrogrammarDefinition) :
    (grammarIssues definition).count issue = if definition.violates issue then 1 else 0 :=
  count_ite_singleton _ issue _

theorem count_patternIssues (issue : ConfigIssue) (definition : PatternDefinition) :
    (patternIssues definition).count issue = if definition.violates issue then 1 else 0 := by
  unfold patternIssues PatternDefinition.violates
  rw [List.count_append, count_ite_singleton, count_ite_singleton]
  by_cases h : issue = .blankPattern definition.name
  · subst h
    simp
  · simp [h]

theorem violates_grammar_iff {definition : MicrogrammarDefinition} :
    (∀ issue, definition.violates issue = false) ↔ isBlank definition.grammar = false := by
  unfold MicrogrammarDefinition.violates
  constructor
  · intro h
    simpa using h (.blankGrammar definition.name)
  · intro h issue
    rw [h]
    rfl

theorem violates_pattern_iff {definition : PatternDefinition} :
    (∀ issue, definition.violates issue = false) ↔ isBlank definition.pattern = false ∧
      (Language.ofName? definition.language).isNone = false := by
  unfold PatternDefinition.violates
  constructor
  · intro h
    constructor
    · simpa using h (.blankPattern definition.name)
    · simpa using h (.unknownLanguage definition.name definition.language)
  · rintro ⟨hpattern, hlanguage⟩ issue
    rw [hpattern, hlanguage]
    rfl

-- ======================================================== configurations

/-- Every fault is reported as often as it is there. -/
theorem count_issues (config : Config) (issue : ConfigIssue) :
    config.issues.count issue = config.violations issue := by
  unfold issues violations
  rw [List.count_append, List.count_append, count_nameIssues,
    count_flatMap_eq_countP (count_grammarIssues issue),
    count_flatMap_eq_countP (count_patternIssues issue)]

theorem violations_eq_zero_iff {issue : ConfigIssue} : config.violations issue = 0 ↔
    nameViolations config.names issue = 0 ∧
      (∀ definition ∈ config.microgrammars, definition.violates issue = false) ∧
      ∀ definition ∈ config.patterns, definition.violates issue = false := by
  unfold violations
  simp only [Nat.add_eq_zero_iff, List.countP_eq_zero, Bool.not_eq_true, and_assoc]

/-- A language that is known can be read. -/
theorem isNone_ofName?_iff {text : String} : (Language.ofName? text).isNone = false ↔
    ∃ language, Language.parse text = .ok language := by
  unfold Language.parse
  cases Language.ofName? text with
  | none => simp
  | some language => simp

/-- A configuration is valid if it has no fault. -/
theorem valid_iff : config.Valid ↔ ∀ issue, config.violations issue = 0 := by
  simp only [violations_eq_zero_iff, forall_and]
  rw [nameViolations_eq_zero_iff]
  constructor
  · intro h
    refine ⟨⟨h.named, h.distinct⟩, fun issue definition hd => ?_, fun issue definition hd => ?_⟩
    · exact violates_grammar_iff.2 (h.grammars definition hd) issue
    · exact violates_pattern_iff.2 ⟨h.patterns definition hd,
        isNone_ofName?_iff.2 (h.languages definition hd)⟩ issue
  · rintro ⟨⟨named, distinct⟩, hgrammars, hpatterns⟩
    have filled : ∀ definition ∈ config.microgrammars, isBlank definition.grammar = false :=
      fun definition hd => violates_grammar_iff.1 fun issue => hgrammars issue definition hd
    have known : ∀ definition ∈ config.patterns, isBlank definition.pattern = false ∧
        (Language.ofName? definition.language).isNone = false :=
      fun definition hd => violates_pattern_iff.1 fun issue => hpatterns issue definition hd
    exact ⟨named, distinct, filled, fun definition hd => (known definition hd).1,
      fun definition hd => isNone_ofName?_iff.1 (known definition hd).2⟩

/-- Nothing is reported of valid configurations, and of no others. -/
theorem issues_eq_nil_iff : config.issues = [] ↔ config.Valid := by
  rw [valid_iff, List.eq_nil_iff_forall_not_mem]
  exact forall_congr' fun issue => by rw [← count_issues, List.count_eq_zero]

end Config

end TreeQuery
