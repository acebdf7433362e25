/-
The names that a registry knows, and what they stand for.

A registry is built up by registering types and adding tags. What a name stands for after that is
told by the last type registered under it (`type?_register`), or else by the tags; and the names
that stand for something are those of the types and the tags (`isSome_resolve?_iff`). Listed, they
are in strictly ascending order (`pairwise_typeNames`), so none is listed twice.
-/
import Mathlib.Order.Basic
import Mathlib.Data.String.Basic
import TreeQuery.Proofs.Project.Files
import TreeQuery.Query.Evaluate

namespace TreeQuery.Query

-- ======================================================= names in order

theorem mem_insertName {name other : String} {names : List String} :
    other ∈ insertName name names ↔ other = name ∨ other ∈ names := by
  fun_induction insertName name names with
  | case1 => simp
  | case2 => simp
  | case3 => simp
  | case4 n rest _ _ ih =>
      rw [List.mem_cons, ih, List.mem_cons]
      exact or_left_comm

theorem mem_foldl_insertName {name : String} {tags known : List String} :
    name ∈ tags.foldl (fun known tag => insertName tag known) known ↔
      name ∈ tags ∨ name ∈ known := by
  induction tags generalizing known with
  | nil => exact (or_iff_right List.not_mem_nil).symm
  | cons tag tags ih =>
      rw [List.foldl_cons, ih, mem_insertName, List.mem_cons]
      exact or_left_comm.trans or_assoc.symm

theorem mem_sortedNames {name : String} {names : List String} :
    name ∈ sortedNames names ↔ name ∈ names := by
  unfold sortedNames
  induction names with
  | nil => exact Iff.rfl
  | cons first rest ih => rw [List.foldr_cons, mem_insertName, ih, List.mem_cons]

theorem pairwise_insertName {names : List String} (h : names.Pairwise (· < ·)) (name : String) :
    (insertName name names).Pairwise (· < ·) := by
  fun_induction insertName name names with
  | case1 => exact List.pairwise_singleton _ _
  | case2 n rest hlt =>
      refine List.pairwise_cons.2 ⟨fun other ho => ?_, h⟩
      rcases List.mem_cons.1 ho with rfl | ho
      · exact hlt
      · exact hlt.trans (List.rel_of_pairwise_cons h ho)
  | case3 => exact h
  | case4 n rest hle hne ih =>
      obtain ⟨hfirst, hrest⟩ := List.pairwise_cons.1 h
      refine List.pairwise_cons.2 ⟨fun other ho => ?_, ih hrest⟩
      rcases mem_insertName.1 ho with rfl | ho
      · exact lt_of_le_of_ne (not_lt.1 hle) (Ne.symm hne)
      · exact hfirst other ho

theorem pairwise_sortedNames (names : List String) : (sortedNames names).Pairwise (· < ·) := by
  unfold sortedNames
  induction names with
  | nil => exact .nil
  | cons name rest ih => exact pairwise_insertName ih name

namespace Registry

variable {π : Type} {registry : Registry π} {name : String}

-- ============================================================ the types

theorem isSome_type?_iff : (registry.type? name).isSome ↔ name ∈ registry.types.map Prod.fst := by
  unfold type?
  induction registry.types with
  | nil => exact iff_of_false Bool.false_ne_true List.not_mem_nil
  | cons entry types ih =>
      rw [List.lookup_cons, List.map_cons, List.mem_cons]
      by_cases h : name = entry.1
      · rw [beq_iff_eq.2 h]
        exact iff_of_true rfl (.inl h)
      · rw [beq_eq_false_iff_ne.2 h]
        exact ih.trans (or_iff_right h).symm

/-- A type that has been registered takes the place of any other under its name, and of no other
type. -/
theorem type?_register (registry : Registry π) (other : String) (type : π) (name : String) :
    (registry.register other type).type? name =
      if name = other then some type else registry.type? name :=
  lookup_cons_filter registry.types other name type

theorem resolve?_of_type? {type : π} (h : registry.type? name = some type) :
    registry.resolve? name = some (.registered name type) := by
  unfold resolve?
  rw [h]

-- ============================================================ the names

/-- The names that stand for something. -/
def names (registry : Registry π) : List String := registry.types.map Prod.fst ++ registry.tags

theorem isSome_resolve?_iff : (registry.resolve? name).isSome ↔ name ∈ registry.names := by
  rw [names, List.mem_append, ← isSome_type?_iff, resolve?]
  cases registry.type? name with
  | some type => exact iff_of_true rfl (.inl rfl)
  | none =>
      simp only [Option.isSome_none, Bool.false_eq_true, false_or]
      unfold isTag
      split
      · rename_i htag
        exact iff_of_true rfl (List.contains_iff_mem.1 htag)
      · rename_i htag
        exact iff_of_false Bool.false_ne_true fun hmem => htag (List.contains_iff_mem.2 hmem)

theorem mem_names_register {other : String} {type : π} :
    name ∈ (registry.register other type).names ↔ name = other ∨ name ∈ registry.names := by
  have hfilter : name ∈ (registry.types.filter (·.1 != other)).map Prod.fst ↔
      name ∈ registry.types.map Prod.fst ∧ name ≠ other := by
    simp only [List.mem_map, List.mem_filter, bne_iff_ne]
    constructor
    · rintro ⟨entry, ⟨he, hne⟩, rfl⟩
      exact ⟨⟨entry, he, rfl⟩, hne⟩
    · rintro ⟨⟨entry, he, rfl⟩, hne⟩
      exact ⟨entry, ⟨he, hne⟩, rfl⟩
  unfold names register
  rw [List.map_cons, List.cons_append, List.mem_cons, List.mem_append, List.mem_append, hfilter]
  by_cases h : name = other
  · exact iff_of_true (.inl h) (.inl h)
  · simp only [h, false_or, ne_eq, not_false_eq_true, and_true]

theorem mem_names_addTags {tags : List String} :
    name ∈ (registry.addTags tags).names ↔ name ∈ tags ∨ name ∈ registry.names := by
  unfold names addTags
  rw [List.mem_append, List.mem_append, mem_foldl_insertName]
  exact or_left_comm

/-- Listed are the names that stand for something. -/
theorem mem_typeNames : name ∈ registry.typeNames ↔ name ∈ registry.names := by
  unfold typeNames names
  rw [mem_sortedNames, List.mem_append, List.mem_append]
  exact or_comm

/-- The names are listed in ascending order, each once. -/
theorem pairwise_typeNames (registry : Registry π) : registry.typeNames.Pairwise (· < ·) :=
  pairwise_sortedNames _

theorem isTag_addTags (tags : List String) (h : registry.isTag name = true) :
    (registry.addTags tags).isTag name = true := by
  rw [isTag, List.contains_iff_mem] at h ⊢
  exact mem_foldl_insertName.2 (.inr h)

end Registry

-- ================================================================ steps

variable {m : Type → Type} {α ε : Type} {registry : Registry (Provider m α ε)}
variable {step : Expression.Step} {name : String}

/-- A step is understood if it names nothing, or a name that stands for something. -/
theorem resolveStep_eq_ok_iff (h : step.typeName? = some name) :
    (∃ resolution, resolveStep registry step = .ok resolution) ↔ name ∈ registry.names := by
  rw [← Registry.isSome_resolve?_iff]
  simp only [resolveStep, h]
  cases registry.resolve? name with
  | some resolution => exact iff_of_true ⟨_, rfl⟩ rfl
  | none =>
    refine iff_of_false ?_ Bool.false_ne_true
    rintro ⟨_, he⟩
    cases he

/-- Any other name is unknown. -/
theorem resolveStep_of_not_mem (h : step.typeName? = some name) (hn : name ∉ registry.names) :
    resolveStep registry step = .error (.unknownType name (registry.suggestion? name)) := by
  have hnone : registry.resolve? name = none :=
    Option.not_isSome_iff_eq_none.1 fun hsome => hn (Registry.isSome_resolve?_iff.1 hsome)
  simp only [resolveStep, h, hnone]

end TreeQuery.Query
