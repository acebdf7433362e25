/-
What an engine finds does not depend on how the texts came about.

A workspace holds views, remembers what nodes have seen and written, and keeps programs and
patterns it has read. None of that shows: whatever a run of actions has done, an expression
finds from the root of the project what it finds in a project made anew from the same files,
in the same order, each match looking the same from all sides, or fails in the same way.
-/
import TreeQuery.Proofs.Session.Basic
import TreeQuery.Proofs.Snapshot.Survey

namespace TreeQuery.Session

variable {grammars : Grammars} {changes : ProjectPath → Nat} {s : Session grammars}

/-- After any run of actions, an engine finds what it finds in a new project of the same name, to
which the files have been added with their present texts in any order. -/
theorem survey_of_reached (hr : Reached changes s) (few : ∀ file, changes file < UInt64.size)
    (types : Query.Registry BuiltIn) (dedupe : Bool) (expression : String)
    {files : List (ProjectPath × String)} (order : files.Perm s.workspace.project.texts) :
    ∃ made, (Project.empty s.workspace.project.name).addAll files = .ok made ∧
      ∀ (programs : Expression.ProgramCache) (patterns : PatternCache grammars),
        (((Engine.ofTypes grammars types dedupe).survey expression).run s.workspace).1 =
          (((Engine.ofTypes grammars types dedupe).survey expression).run
            { project := made, programs, patterns }).1 := by
  have hs := sound_of_reached hr few
  have written : ∀ path ∈ s.workspace.project.paths,
      ProjectPath.parse? (ProjectPath.write path) = some path := by
    intro path hp
    obtain ⟨document, hd⟩ := Project.mem_paths_iff.1 hp
    refine hs.written _ ?_
    rw [hd]
    rfl
  obtain ⟨made, hmade, hname, htexts⟩ := Project.addAll_texts written order
  refine ⟨made, hmade, fun programs patterns => ?_⟩
  have hfresh : ({ project := made, programs, patterns } : Workspace grammars).Coherent :=
    Workspace.coherent_of_fresh rfl rfl rfl
  have hsnap : ({ project := made, programs, patterns } : Workspace grammars).snapshot =
      s.workspace.snapshot := by
    show (⟨made.name, made.texts⟩ : Snapshot grammars) = ⟨_, _⟩
    rw [hname, htexts]
  rw [hs.coherent.survey_eq, hfresh.survey_eq, hsnap]

/-- The case of a letter replaced through its node. -/
theorem survey_of_reached_scanned :
    ∃ made, (Project.empty "p").addAll [(["a.txt"], "a ccc")] = .ok made ∧
      ∀ (programs : Expression.ProgramCache) (patterns : PatternCache blind),
        (((Engine.ofTypes blind (Query.Registry.core.register "letter" (.microgrammar letter))
            false).survey "//letter()").run
              (scanned.step (.update (letterAt 1) "ccc")).workspace).1 =
          (((Engine.ofTypes blind (Query.Registry.core.register "letter" (.microgrammar letter))
            false).survey "//letter()").run { project := made, programs, patterns }).1 := by
  refine survey_of_reached (reached_scanned.step (.update (letterAt 1) "ccc") fun node hn => ?_)
    (fun file => ?_) _ false "//letter()" (List.Perm.refl _)
  · obtain rfl := Option.mem_some_iff.1 hn
    rw [held_scanned]
    simp
  · have hle := changed_le_one scanned.workspace
      (scanned.step (.update (letterAt 1) "ccc")).workspace file
    show 0 + changed _ _ file < UInt64.size
    rw [Nat.zero_add]
    exact Nat.lt_of_le_of_lt hle (by decide)

end TreeQuery.Session
