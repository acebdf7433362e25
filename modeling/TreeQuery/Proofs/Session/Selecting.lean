/-
Every node can be selected.

An expression can name the way to a file or directory name by name, whatever the names are, and
goes on to a member of the view of a file by the names and numbers of the members above it. It is
accepted, and from the root of the project it finds the one node there and no other. The first
half needs no types, so it holds with every engine; the second needs the types of the views.
-/
import TreeQuery.Proofs.Session.Members
import TreeQuery.Proofs.Snapshot.Selection
import TreeQuery.Proofs.Snapshot.Shown
import TreeQuery.Proofs.View.Addresses

namespace TreeQuery

open Expression (Step compile printSteps)

variable {grammars : Grammars}

-- ============================================================= engines

/-- Steps that name no types are taken by every engine alike. -/
theorem Engine.evaluate_untyped (engine : Engine grammars) {expression : String}
    {program : Expression.Program} (compiled : compile expression = .ok program)
    (untyped : ∀ step ∈ program.steps, step.typeName? = none) (root : Node)
    (w : Workspace grammars) :
    (engine.evaluate expression root).run w =
      ((ofTypes grammars .core engine.dedupe).evaluate expression root).run w := by
  have hsame : Query.evaluate (Workspace.forest grammars) engine.registry engine.dedupe program
      root = Query.evaluate (Workspace.forest grammars) (ofTypes grammars .core
        engine.dedupe).registry engine.dedupe program root := by
    unfold Query.evaluate
    rw [Query.resolveSteps_untyped untyped, Query.resolveSteps_untyped untyped]
  rw [evaluate_run, evaluate_run, Act.bind_apply, Act.bind_apply, program_eq, compiled]
  show (_ >>= _ : Act grammars (Except EngineError (List Node))) _ =
    (_ >>= _ : Act grammars (Except EngineError (List Node))) _
  rw [hsame]
  rfl

namespace Engine

/-- The types of an engine that knows the views of every language. -/
def languageTypes : Query.Registry BuiltIn :=
  Language.all.foldl (fun types language =>
    (types.register language.viewType (.language language)).addTags language.tags) .core

theorem type?_languageTypes (language : Language) :
    languageTypes.type? language.viewType = some (.language language) := by
  cases language with
  | rust => rfl
  | java => rfl
  | scala => rfl
  | python => rfl
  | yaml => rfl

/-- The engine that knows the views of every language leads a name of theirs to the language. -/
theorem resolve?_languageTypes {S : Snapshot grammars} (language : Language) :
    (languageTypes.map S.provider).resolve? language.viewType =
      some (.registered language.viewType (S.provider (.language language))) := by
  have htype : (languageTypes.map S.provider).type? language.viewType =
      some (S.provider (.language language)) := by
    rw [Query.Registry.type?_map, type?_languageTypes]
    rfl
  unfold Query.Registry.resolve?
  simp only [htype]

end Engine

namespace Workspace

variable {w : Workspace grammars}

/-- Only what a directory has under a name shows the place there. -/
theorem Shows.eq_entry {later : Workspace grammars} {node : Node} {directory : ProjectPath}
    {name : String} (h : later.Shows node (w.snapshot.placeAt (directory ++ [name]))) :
    node = w.entry directory name := by
  unfold Snapshot.placeAt at h
  rw [w.lookup_snapshot, Option.isSome_map] at h
  unfold entry
  dsimp only
  split
  · rename_i hfile
    rw [if_pos hfile] at h
    exact h.eq_file
  · rename_i hfile
    rw [if_neg hfile] at h
    exact h.eq_directory

/-- Any engine finds a file or directory by the way to it. -/
theorem Coherent.evaluate_named (hw : w.Coherent) (engine : Engine grammars)
    {directory file : ProjectPath} {name : String} (hm : file ∈ w.project.paths)
    (hp : directory ++ [name] <+: file) :
    ∃ later, (engine.evaluate (String.ofList (printSteps ((directory ++ [name]).map Step.named)))
      (.directory [])).run w = (.ok [w.entry directory name], later) := by
  have nonempty : directory ++ [name] ≠ [] := List.concat_ne_nil name directory
  have hcompile := Expression.compile_named nonempty
  rw [← w.paths_snapshot] at hm
  have hplace : w.snapshot.evaluate .core engine.dedupe _ (.directory []) = .ok _ :=
    (Snapshot.evaluate_eq_ok hcompile).2
      (w.snapshot.evaluate_named w.arranged_snapshot nonempty hm hp engine.dedupe _)
  obtain ⟨found, later, hrun, hshows⟩ := (hw.shows_directory []).exists_of_evaluate hplace
  rw [engine.evaluate_untyped hcompile Snapshot.typeName?_named, hrun]
  cases hshows with
  | cons hnode hrest =>
      cases hrest
      exact ⟨later, by rw [hnode.eq_entry]⟩

/-- An engine that knows the views finds a member by the way to it. -/
theorem Coherent.evaluate_numbered (hw : w.Coherent) (dedupe : Bool) {file : ProjectPath}
    {language : Language} {way : Location} (hm : file ∈ w.project.paths)
    (hl : Language.ofPath? (ProjectPath.write file) = some language)
    (few : (w.view file language).size < UInt64.size)
    (stands : ((w.view file language).at? way).isSome) :
    let steps := file.map Step.named ++ .view language :: way.map .numbered
    let expression := String.ofList (printSteps steps)
    compile expression = .ok ⟨expression, steps⟩ ∧
      ∃ node later,
        ((Engine.ofTypes grammars Engine.languageTypes dedupe).evaluate expression
          (.directory [])).run w = (.ok [.text (.member node)], later) ∧
        node.file = file ∧ node.language = language ∧ node.location = way := by
  have hcompile := Expression.compile_numbered file language fun segment hs =>
    Nat.lt_of_le_of_lt (View.ordinal_lt_size stands segment hs) few
  refine ⟨hcompile, ?_⟩
  rw [hw.view_snapshot] at stands
  rw [← w.paths_snapshot] at hm
  have hplace := (Snapshot.evaluate_eq_ok hcompile).2
    (w.snapshot.evaluate_numbered w.arranged_snapshot hm hl
      (Engine.resolve?_languageTypes language) stands dedupe _)
  obtain ⟨found, later, hrun, hshows⟩ := (hw.shows_directory []).exists_of_evaluate hplace
  cases hshows with
  | cons hnode hrest =>
      cases hrest
      obtain ⟨node, rfl, hfile, hlanguage, hlocation⟩ := hnode.exists_member
      exact ⟨node, later, hrun, hfile, hlanguage, hlocation⟩

end Workspace

namespace Session

variable {changes : ProjectPath → Nat} {s : Session grammars}

/-- After any run of actions, every node of the project but its root, and every entry in the view
of a file, is selected by the expression that names the way to it: the expression is accepted, and
finds this node and nothing else. For files and directories it does so with any engine. -/
theorem selected_of_reached (hr : Reached changes s) (few : ∀ file, changes file < UInt64.size) :
    (∀ (engine : Engine grammars) (directory : ProjectPath) (name : String),
      ∀ file ∈ s.workspace.project.paths, directory ++ [name] <+: file →
        let steps := (directory ++ [name]).map Step.named
        let expression := String.ofList (printSteps steps)
        compile expression = .ok ⟨expression, steps⟩ ∧
          ∃ later, (engine.evaluate expression (.directory [])).run s.workspace =
            (.ok [s.workspace.entry directory name], later)) ∧
    ∀ (dedupe : Bool) (language : Language), ∀ file ∈ s.workspace.project.paths,
      Language.ofPath? (ProjectPath.write file) = some language →
      let table := (s.workspace.view file language).entries
      table.length < UInt64.size →
      ∀ (index : Fin table.length) (way : Location), View.Way table index way →
        let steps := file.map Step.named ++ .view language :: way.map .numbered
        let expression := String.ofList (printSteps steps)
        compile expression = .ok ⟨expression, steps⟩ ∧
          ∃ node later,
            (({ Engine.withLanguages with dedupe } : Engine grammars).evaluate expression
              (.directory [])).run s.workspace = (.ok [.text (.member node)], later) ∧
            node.file = file ∧ node.language = language ∧ node.location = way := by
  have hcoherent := (sound_of_reached hr few).coherent
  constructor
  · intro engine directory name file hm hp steps expression
    exact ⟨Expression.compile_named (List.concat_ne_nil name directory),
      hcoherent.evaluate_named engine hm hp⟩
  · intro dedupe language file hm hl table hlength index way hway steps expression
    obtain ⟨part, hpart, -⟩ := View.at?_of_mem_entries (List.getElem_mem index.isLt)
    rw [← Fin.getElem_fin, ← View.way_iff.1 hway] at hpart
    have hsize : (s.workspace.view file language).size < UInt64.size := by
      rw [← View.length_entriesFrom none 0 []]
      exact hlength
    rw [Engine.withLanguages_eq_ofTypes]
    exact hcoherent.evaluate_numbered dedupe hm hl hsize (Option.isSome_iff_exists.2 ⟨part, hpart⟩)

-- ============================================================ a sample

/-- A session in which a file of two statements has been added, under names with a quote and
brackets. -/
def quoted : Session letterStatements :=
  (start "p" .empty .empty).step (.addFile "it's/[1].py" "p\nq\n")

theorem reached_quoted : Reached (fun _ => 0) quoted :=
  (Reached.start "p" .empty .empty).addFile "it's/[1].py" "p\nq\n"

theorem length_entries_quoted :
    (quoted.workspace.view ["it's", "[1].py"] .python).entries.length = 3 := by
  decide

/-- The second statement, which is the last entry of the view. -/
def lastStatement : Fin (quoted.workspace.view ["it's", "[1].py"] .python).entries.length :=
  ⟨2, by rw [length_entries_quoted]; decide⟩

theorem way_lastStatement :
    View.Way (quoted.workspace.view ["it's", "[1].py"] .python).entries lastStatement
      [⟨"expression_statement", 1⟩] :=
  View.way_iff.2 (by decide)

theorem text_directory : String.ofList (printSteps (["it's"].map Step.named)) =
    "/*[@name='it\\'s']" := by decide

theorem text_lastStatement :
    String.ofList (printSteps (["it's", "[1].py"].map Step.named ++ .view .python ::
      [⟨"expression_statement", 1⟩].map .numbered)) =
    "/*[@name='it\\'s']/*[@name='[1].py']/PythonFile()/*[@name='expression_statement'][2]" := by
  decide

/-- The case of a directory, and of the second statement of the file below it. -/
theorem selected_of_reached_quoted :
    (∃ later, (Engine.bare.evaluate "/*[@name='it\\'s']" (.directory [])).run
        quoted.workspace = (.ok [.directory ["it's"]], later)) ∧
    ∃ node later, (({ Engine.withLanguages with dedupe := true } : Engine _).evaluate
        "/*[@name='it\\'s']/*[@name='[1].py']/PythonFile()/*[@name='expression_statement'][2]"
        (.directory [])).run quoted.workspace = (.ok [.text (.member node)], later) ∧
      node.file = ["it's", "[1].py"] ∧ node.language = .python ∧
      node.location = [⟨"expression_statement", 1⟩] := by
  obtain ⟨named, numbered⟩ := selected_of_reached reached_quoted fun _ => by decide
  rw [← text_directory, ← text_lastStatement]
  constructor
  · exact (named .bare [] "it's" ["it's", "[1].py"] (by decide +kernel) ⟨_, rfl⟩).2
  · exact (numbered true .python ["it's", "[1].py"] (by decide +kernel) (by decide +kernel)
      (by rw [length_entries_quoted]; decide) _ _ way_lastStatement).2

end Session

end TreeQuery
