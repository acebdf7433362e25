/-
Which tags an engine knows of those that nodes carry.

A type step names a tag or a registered type, and a name that is neither fails before any node is
looked at. An engine that knows the views of all languages knows the core tags and, for each
language, the type of its views and its tags (`Engine.knownNames`), and nothing else.

The root of a view carries its type and the tag of the language, and the members of a YAML file
carry tags of the language only. But a member of a program carries its kind as well
(`View.tags_of_row`), and the kinds of a grammar are not among the tags of its language. So a step
that names a tag which a node of the project carries is understood, unless the tag is the kind of a
member of a program (`carriedTags_of_reached`).
-/
import TreeQuery.Proofs.Engine.Types
import TreeQuery.Proofs.Query.Names
import TreeQuery.Proofs.Session.Ancestors
import TreeQuery.Proofs.Snapshot.Listing
import TreeQuery.Proofs.View.Elements

namespace TreeQuery

variable {grammars : Grammars}

-- ======================================================= unknown names

namespace Engine

/-- An evaluation ends if a step is not understood. -/
theorem evaluate_of_unresolved (engine : Engine grammars) {expression : String}
    {program : Expression.Program} {name : String} {suggestion : Option String}
    (compiled : Expression.compile expression = .ok program)
    (unresolved : Query.resolveSteps engine.registry program.steps =
      .error (.unknownType name suggestion)) (root : Node) (w : Workspace grammars) :
    ∃ later, (engine.evaluate expression root).run w =
      (.error (.unknownType name suggestion), later) := by
  have hfails : (Query.evaluate (Workspace.forest grammars) engine.registry engine.dedupe program
      root).run = pure (.error (.unknownType name suggestion)) := by
    unfold Query.evaluate
    rw [unresolved]
    rfl
  refine ⟨{ w with programs := (w.programs.fetch expression).2 }, ?_⟩
  rw [evaluate_run, Act.bind_apply, program_eq, compiled]
  show ((Query.evaluate _ _ _ _ _).run >>= _ : Act grammars _) _ = _
  rw [hfails]
  rfl

end Engine

-- ================================================================ views

namespace View

variable {language : Language} {source : String} {tree : SyntaxTree} {i : Nat} {entry : Entry}

/-- The members of a YAML file carry tags of the language. -/
theorem Yaml.tagsOf_subset (shape : Option Yaml.Shape) (pair : Bool) :
    ∀ tag ∈ Yaml.tagsOf shape pair, tag ∈ Language.yaml.tags := by
  revert pair
  cases shape with
  | none => decide
  | some shape =>
      cases shape with
      | map => decide
      | sequence => decide
      | scalar => decide

/-- The members of a program carry the tag of the language and their kinds. -/
theorem tags_of_program (hl : language ≠ .yaml)
    (h : (project language source tree).entries[i]? = some entry) (hi : i ≠ 0) :
    entry.member.tags = [language.nodeTag, entry.member.kind] := by
  obtain ⟨i, rfl⟩ := Nat.exists_eq_succ_of_ne_zero hi
  have hmap : ((project language source tree).entries.tail.map fun entry =>
      (entry.member.tags, entry.member.kind)) =
        tree.namedThroughout.map fun node => ([language.nodeTag, node.kind], node.kind) :=
    map_tail_entries_project (fun member => (member.tags, member.kind)) _ (fun _ => rfl) hl tree
  have hmem : entry ∈ (project language source tree).entries.tail :=
    List.mem_of_getElem? (i := i) (by rw [List.getElem?_tail]; exact h)
  have hpair := List.mem_map_of_mem (f := fun entry : Entry =>
    (entry.member.tags, entry.member.kind)) hmem
  rw [hmap] at hpair
  obtain ⟨node, -, he⟩ := List.mem_map.1 hpair
  obtain ⟨htags, hkind⟩ := Prod.mk.inj he
  rw [← htags, ← hkind]

/-- What a row of a view carries: the root its type, besides tags of the language; and a member of a
program its kind. -/
theorem tags_of_row (h : (project language source tree).entries[i]? = some entry) {tag : String}
    (ht : tag ∈ entry.member.tags) :
    tag ∈ language.tags ∨ (i = 0 ∧ tag = language.viewType) ∨
      (i ≠ 0 ∧ language ≠ .yaml ∧ tag = entry.member.kind) := by
  have hnode : language.nodeTag ∈ language.tags := List.mem_cons_self
  by_cases hi : i = 0
  · subst hi
    obtain ⟨part, hpart, hmember, -⟩ := row h
    obtain rfl := Option.some.inj hpart
    rw [hmember] at ht
    rcases List.mem_cons.1 ht with rfl | ht
    · exact .inr (.inl ⟨rfl, rfl⟩)
    · obtain rfl := List.mem_singleton.1 ht
      exact .inl hnode
  · by_cases hl : language = .yaml
    · subst hl
      obtain ⟨part, hpart, hmember, -⟩ := row h
      rw [hmember] at ht
      have horigin := origin_of_row hpart hi
      cases horigin with
      | bare hpair hv hnone => exact .inl (Yaml.tagsOf_subset none true _ ht)
      | value name key fallback hv => exact .inl (Yaml.tagsOf_subset _ _ _ ht)
    · rw [tags_of_program hl h hi] at ht
      rcases List.mem_cons.1 ht with rfl | ht
      · exact .inl hnode
      · exact .inr (.inr ⟨hi, hl, List.mem_singleton.1 ht⟩)

/-- What stands at a location of a view has its row in the table, the first if it is the root. -/
theorem exists_row_of_at? {view part : View} {location : Location}
    (h : view.at? location = some part) : ∃ i entry, view.entries[i]? = some entry ∧
      entry.member = part.label ∧ (location = [] → i = 0) := by
  obtain ⟨entry, he, hlocation, hlabel⟩ := exists_mem_entriesFrom h none 0 []
  rw [List.nil_append] at hlocation
  obtain ⟨i, hi⟩ := List.mem_iff_getElem?.1 he
  refine ⟨i, entry, hi, hlabel.symm, fun hroot => ?_⟩
  have hnodup : (view.entries.map Entry.location).Nodup := nodup_locations_entriesFrom _ _ _ _
  have hlength : i < (view.entries.map Entry.location).length := by
    rw [List.length_map]
    exact (List.getElem?_eq_some_iff.1 hi).1
  refine (List.getElem?_inj hlength hnodup).1 ?_
  have hzero : (view.entries.map Entry.location)[0]? = some [] := by
    cases view with
    | node member children => rfl
  rw [hzero, List.getElem?_map]
  exact congrArg (Option.map Entry.location) hi |>.trans (by rw [Option.map_some, hlocation, hroot])

end View

-- ============================================================= sessions

namespace Session

/-- The tags of a language and the types of its views are known. -/
theorem mem_knownNames {language : Language} {tag : String}
    (h : tag = language.viewType ∨ tag ∈ language.tags) : tag ∈ Engine.knownNames := by
  refine List.mem_append_right _ (List.mem_flatMap.2 ⟨language, ?_, List.mem_cons.2 h⟩)
  cases language <;> decide

/-- Every tag in a view but the type of its root is a tag of the language, or the kind of a member
of a program. An engine that knows the views of all languages understands a step if it names a core
tag, the type of a language's views or a tag of a language, and no other. So after any run it
understands a step that names what a node with a place in the project carries, unless that is the
kind of a member of a program. -/
theorem carriedTags_of_reached :
    (∀ (language : Language) (source : String) (tree : SyntaxTree) {i : Nat} {entry : View.Entry},
      (View.project language source tree).entries[i]? = some entry →
      ∀ tag ∈ entry.member.tags, tag ≠ language.viewType →
        tag ∈ language.tags ∨ (i ≠ 0 ∧ language ≠ .yaml ∧ tag = entry.member.kind)) ∧
    (∀ {step : Expression.Step} {tag : String}, step.typeName? = some tag →
      ((∃ resolution, Query.resolveStep (Engine.withLanguages : Engine grammars).registry step =
        .ok resolution) ↔ tag ∈ Engine.knownNames)) ∧
    ∀ {changes : ProjectPath → Nat} {s : Session grammars}, Reached changes s →
      (∀ file, changes file < UInt64.size) → ∀ node ∈ s.held, s.workspace.Present node →
      ∀ tag ∈ s.workspace.tags node, tag ∈ Engine.knownNames ∨
        ∃ member part, node = .text (.member member) ∧ member.location ≠ [] ∧
          member.language ≠ .yaml ∧ s.workspace.resolve? member = some part ∧
          tag = part.label.kind := by
  refine ⟨fun language source tree i entry h tag ht hne => ?_, fun h => ?_, ?_⟩
  · rcases View.tags_of_row h ht with hknown | ⟨-, htype⟩ | hkind
    · exact .inl hknown
    · exact absurd htype hne
    · exact .inr hkind
  · rw [Query.resolveStep_eq_ok_iff h, Engine.mem_names_withLanguages]
  · intro changes s hr few node _ present tag ht
    have hcore : tag ∈ Query.Registry.coreTags → tag ∈ Engine.knownNames :=
      List.mem_append_left _
    cases node with
    | directory path =>
        refine .inl (hcore ?_)
        rw [show s.workspace.tags (.directory path) = if path.isEmpty then ["Project"] else
          ["Directory"] from rfl] at ht
        split at ht
        · exact List.mem_singleton.1 ht ▸ by decide
        · exact List.mem_singleton.1 ht ▸ by decide
    | detached tree => exact present.elim
    | text node =>
        cases node with
        | file path => exact .inl (hcore (List.mem_singleton.1 ht ▸ by decide))
        | occurrence handle grammar context index born => exact present.elim
        | binding handle grammar context index born name => exact present.elim
        | member member =>
            have hview := (sound_of_reached hr few).coherent.view member.file member.language
            obtain ⟨part, hpart⟩ := Option.ne_none_iff_exists'.1 fun hnone =>
              Option.isSome_iff_ne_none.1 present (View.indexOf?_eq_none_iff.2 hnone)
            have hresolved : s.workspace.resolve? member = some part := by
              rw [Workspace.resolve?, hview, hpart]
            have htags : s.workspace.tags (.text (.member member)) = part.label.tags := by
              show (s.workspace.member member).tags = _
              rw [Workspace.member, hresolved]
            obtain ⟨i, entry, hi, hlabel, hroot⟩ := View.exists_row_of_at? hpart
            rw [htags, ← hlabel] at ht
            rcases View.tags_of_row hi ht with hknown | ⟨-, htype⟩ | ⟨hne, hl, hkind⟩
            · exact .inl (mem_knownNames (.inr hknown))
            · exact .inl (mem_knownNames (.inl htype))
            · exact .inr ⟨member, part, rfl, fun h => hne (hroot h), hl, hresolved,
                hlabel ▸ hkind⟩

-- ============================================================ a sample

/-- The step to the children that carry a tag. -/
def tagStep (tag : String) : Expression.Step := ⟨.child, .type tag, []⟩

/-- The case of a letter, seen as a node of a Python file. -/
theorem carriedTags_of_reached_letter :
    (∃ entry, (View.project .python "zz" (initials.parse .python "zz")).entries[1]? = some entry ∧
      ("letter" ∈ Language.python.tags ∨
        (1 ≠ 0 ∧ Language.python ≠ .yaml ∧ "letter" = entry.member.kind))) ∧
    (∃ resolution, Query.resolveStep (Engine.withLanguages : Engine initials).registry
      (tagStep "PythonNode") = .ok resolution) ∧
    (∃ changes, Reached changes refilled ∧ ∀ file, changes file < UInt64.size) ∧
    .text (.member letterNode) ∈ refilled.held ∧
    ("letter" ∈ Engine.knownNames ∨
      ∃ member part, Node.text (.member letterNode) = .text (.member member) ∧
        member.location ≠ [] ∧ member.language ≠ .yaml ∧
        refilled.workspace.resolve? member = some part ∧ "letter" = part.label.kind) := by
  obtain ⟨hviews, hsteps, -⟩ := @carriedTags_of_reached initials
  obtain ⟨-, -, hnodes⟩ := @carriedTags_of_reached initials
  obtain ⟨changes, hr, hmost⟩ := recorded_refilled
  have few : ∀ file, changes file < UInt64.size := fun file =>
    Nat.lt_of_le_of_lt (hmost file) (by decide)
  have held : .text (.member letterNode) ∈ refilled.held := by
    rw [held_refilled]
    exact letter_mem_sightings
  have present : refilled.workspace.Present (.text (.member letterNode)) :=
    Option.isSome_iff_exists.2 ⟨1, indexOf?_refilled⟩
  refine ⟨⟨_, rfl, ?_⟩, (hsteps rfl).2 (by decide), ⟨_, hr.reached, few⟩, held, ?_⟩
  · exact hviews .python "zz" (initials.parse .python "zz") (i := 1) rfl "letter"
      (List.mem_of_getLast? rfl) (by decide)
  · exact hnodes hr.reached few _ held present "letter" (by decide +kernel)

/-- The tree of a program of one function. -/
def functionTree : SyntaxTree :=
  View.plainNode "source_file" 0 9 [View.plainNode "function_item" 0 9
    [.node ⟨"fn", ⟨0, 2⟩, false, false, false, none⟩ [],
      View.fieldNode .name "identifier" 3 4 [],
      View.plainNode "parameters" 4 6 [View.tokenNode "(" 4, View.tokenNode ")" 5],
      View.plainNode "block" 7 9 [View.tokenNode "\x7b" 7, View.tokenNode "\x7d" 8]]]

/-- A parser for which every source is such a program. -/
def functions : Grammars where
  parse _ _ := functionTree
  find _ _ _ := some []

/-- A session in which the program has been added. -/
def programmed : Session functions :=
  (start "p" .empty .empty).step (.addFile "a.rs" "fn a() \x7b\x7d")

/-- The function is found and carries its kind, which is no tag of the language, and an engine that
knows the views of all languages fails at a step that names it. -/
theorem kind_unknown :
    ((((Engine.withLanguages : Engine functions).evaluate "/a.rs/RustFile()/*"
        (.directory [])).run programmed.workspace).1.toOption.map fun nodes =>
      nodes.map fun node => (node.address, programmed.workspace.tags node)) =
        some [("/a.rs/RustFile()/function_item", ["RustNode", "function_item"])] ∧
    "function_item" ≠ Language.rust.viewType ∧ "function_item" ∉ Language.rust.tags ∧
    ∃ suggestion later,
      ((Engine.withLanguages : Engine functions).evaluate "/a.rs/RustFile()/function_item()"
        (.directory [])).run programmed.workspace =
        (.error (.unknownType "function_item" suggestion), later) := by
  refine ⟨by decide +kernel, by decide, by decide, ?_⟩
  have hcompiled : Expression.compile "/a.rs/RustFile()/function_item()" =
      .ok ⟨"/a.rs/RustFile()/function_item()",
        [⟨.child, .name "a.rs", []⟩, tagStep "RustFile", tagStep "function_item"]⟩ := by
    decide +kernel
  let registry := (Engine.withLanguages : Engine functions).registry
  have hfile : Query.resolveStep registry ⟨.child, .name "a.rs", []⟩ = .ok none := rfl
  have hview : ∃ type, Query.resolveStep registry (tagStep "RustFile") = .ok type :=
    (Query.resolveStep_eq_ok_iff rfl).2 (Engine.mem_names_withLanguages.2 (by decide))
  obtain ⟨type, htype⟩ := hview
  have hkind : Query.resolveStep registry (tagStep "function_item") =
      .error (.unknownType "function_item" (registry.suggestion? "function_item")) :=
    Query.resolveStep_of_not_mem rfl fun hmem =>
      absurd (Engine.mem_names_withLanguages.1 hmem) (by decide)
  have hsteps : Query.resolveSteps registry
      [⟨.child, .name "a.rs", []⟩, tagStep "RustFile", tagStep "function_item"] =
      .error (.unknownType "function_item" (registry.suggestion? "function_item")) := by
    simp only [Query.resolveSteps, hfile, htype, hkind]
  exact ⟨_, Engine.evaluate_of_unresolved _ hcompiled hsteps _ _⟩

end Session

end TreeQuery
