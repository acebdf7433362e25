/-
The files of a project, found from its root.

# The walk

A walk from a directory comes, for each of its names in order, to the file of that name or to all
that is at and below the directory of that name. So the files it comes to are those whose paths lie
below the directory, in the order of their paths (`filter_preorder`).

# Questions that change nothing

Nothing is remembered of directories and files, so whatever is asked about them leaves a workspace
as it is, and is answered from its snapshot (`forests_settled`). Whoever looks for files therefore
finds all of them, whatever the engine knows besides, as long as no type goes by the name of the tag
(`evaluate_allFiles`). Writing to each of them in turn changes each document once (`visit_files`).
-/
import TreeQuery.Proofs.Project.Listing
import TreeQuery.Proofs.Query.Names
import TreeQuery.Proofs.Query.Once
import TreeQuery.Proofs.Session.Ordered
import TreeQuery.Proofs.Snapshot.Agreement
import TreeQuery.Proofs.Snapshot.Places
import TreeQuery.Proofs.Workspace.Batches

namespace TreeQuery

open Query (Comparison preorder)

variable {grammars : Grammars}

-- ============================================================= the walk

namespace Snapshot

variable {S : Snapshot grammars}

/-- Whether a place carries the tag of files. -/
abbrev isFile (S : Snapshot grammars) : Place → Bool := Query.passes S.forest (.type "File")

theorem isFile_directory (path : ProjectPath) : S.isFile (.directory path) = false := by
  show (if path.isEmpty then ["Project"] else ["Directory"]).contains "File" = false
  split
  · decide
  · decide

/-- A directory has a file under a name if there is one at the path. -/
theorem entry_eq (S : Snapshot grammars) (directory : ProjectPath) (name : String) :
    S.entry directory name = if directory ++ [name] ∈ S.texts.map (·.1) then
      .file (directory ++ [name]) else .directory (directory ++ [name]) := by
  have hsome : (S.texts.lookup (directory ++ [name])).isSome ↔
      directory ++ [name] ∈ S.texts.map (·.1) := by
    rw [List.lookup_isSome_iff, List.mem_map]
    exact exists_congr fun entry => and_congr_right fun _ => by rw [beq_iff_eq, eq_comm]
  unfold entry
  simp only [hsome]

/-- The files that a walk from a directory comes to are those below it, in order. -/
theorem filter_preorder (arranged : ProjectPath.Arranged (S.texts.map (·.1)))
    (directory : ProjectPath) :
    (preorder S.forest (.directory directory)).filter S.isFile =
      ((S.texts.map (·.1)).filter (ProjectPath.inside directory)).map Place.file := by
  induction hsize : S.size (.directory directory) using Nat.strongRecOn generalizing directory with
  | ind n ih =>
      have hchildren : (S.forest.children (.directory directory)).run =
          (S.namesBelow directory).map (S.entry directory) := rfl
      rw [S.founded.preorder_eq, List.filter_cons_of_neg (by rw [isFile_directory]; decide),
        hchildren, List.filter_flatMap, List.flatMap_map,
        ProjectPath.filter_inside arranged.ascending, List.map_flatMap]
      refine List.flatMap_congr fun name hn => ?_
      have hlt := S.founded.size_lt (hchildren ▸ List.mem_map_of_mem hn)
      rw [S.entry_eq] at hlt ⊢
      by_cases hm : directory ++ [name] ∈ S.texts.map (·.1)
      · rw [if_pos hm, ProjectPath.under_of_mem arranged hm, S.founded.preorder_eq]
        rfl
      · rw [if_neg hm] at hlt ⊢
        rw [ProjectPath.under_of_not_mem hm, ih _ (hsize ▸ hlt) _ rfl]

end Snapshot

-- ============================================ questions without effects

namespace Act

open Workspace

/-- Computations that leave the workspace as it is, and return what there is without effects. -/
def settled (grammars : Grammars) : Comparison (Act grammars) Id where
  World := Workspace grammars
  le w v := w = v
  refl _ := rfl
  trans h h' := h.trans h'
  Alike w R a b := (a w).2 = w ∧ R w (a w).1 b.run
  pure h := ⟨rfl, h⟩
  bind {α β γ δ W R Q a b f g} ha hf := by
    obtain ⟨hw, hx⟩ := ha
    show (f (a W).1 (a W).2).2 = W ∧ Q W (f (a W).1 (a W).2).1 (g b.run).run
    rw [hw]
    exact hf W _ _ rfl hx

/-- The node is the directory or the file that the place is. -/
inductive Plain (S : Snapshot grammars) (w : Workspace grammars) : Node → Place → Prop
  | directory (path : ProjectPath) (seen : w.snapshot = S) :
      Plain S w (.directory path) (.directory path)
  | file (path : ProjectPath) (seen : w.snapshot = S) : Plain S w (.file path) (.file path)

theorem plain_entry (w : Workspace grammars) (directory : ProjectPath) (name : String) :
    Plain w.snapshot w (w.entry directory name) (w.snapshot.entry directory name) := by
  unfold Workspace.entry Snapshot.entry
  simp only [w.lookup_snapshot, Option.isSome_map]
  split
  · exact .file _ rfl
  · exact .directory _ rfl

theorem plain_children (w : Workspace grammars) (directory : ProjectPath) :
    (settled grammars).Alike w ((settled grammars).Each (Plain w.snapshot))
      (children (.directory directory)) (w.snapshot.forest.children (.directory directory)) := by
  refine ⟨rfl, ?_⟩
  have hnames : w.snapshot.namesBelow directory = w.project.namesBelow directory := by
    unfold Snapshot.namesBelow Project.namesBelow
    rw [w.paths_snapshot]
  show List.Forall₂ (Plain w.snapshot w)
    ((w.project.namesBelow directory).map (w.entry directory))
    ((w.snapshot.namesBelow directory).map (w.snapshot.entry directory))
  rw [hnames, List.forall₂_map_left_iff, List.forall₂_map_right_iff]
  exact List.forall₂_same.2 fun name _ => plain_entry w directory name

/-- Whatever is asked about directories and files changes nothing. -/
theorem forests_settled (S : Snapshot grammars) :
    (settled grammars).Forests (Plain S) (Workspace.forest grammars) S.forest where
  persistent := by
    rintro _ _ node place rfl h
    exact h
  address := by
    rintro w _ _ (⟨path, rfl⟩ | ⟨path, rfl⟩)
    · rfl
    · rfl
  name := by
    rintro w _ _ (⟨path, rfl⟩ | ⟨path, rfl⟩)
    · exact ⟨rfl, rfl⟩
    · exact ⟨rfl, rfl⟩
  tags := by
    rintro w _ _ (⟨path, rfl⟩ | ⟨path, rfl⟩)
    · exact ⟨rfl, rfl⟩
    · exact ⟨rfl, rfl⟩
  property := by
    rintro w _ _ key (⟨path, rfl⟩ | ⟨path, rfl⟩)
    · exact ⟨rfl, rfl⟩
    · exact ⟨rfl, rfl⟩
  children := by
    rintro w _ _ (⟨path, rfl⟩ | ⟨path, rfl⟩)
    · exact plain_children w path
    · exact ⟨rfl, .nil⟩
  extent := by
    rintro w _ _ (⟨path, rfl⟩ | ⟨path, rfl⟩)
    · refine ⟨rfl, ?_⟩
      show w.directoryBound = (w.snapshot.texts.map (·.1)).foldr _ 1
      rw [w.paths_snapshot]
      rfl
    · exact ⟨rfl, rfl⟩

end Act

-- ============================================================= engines

namespace Query

open Expression (Step)

variable {α ε : Type}

/-- Nodes with different addresses are all kept. -/
theorem dropRepeated_of_nodup {address : α → String} {nodes : List α}
    (distinct : (nodes.map address).Nodup) : dropRepeated address nodes = nodes := by
  induction nodes with
  | nil => rfl
  | cons node nodes ih =>
      rw [List.map_cons, List.nodup_cons] at distinct
      rw [dropRepeated, ih distinct.2, List.filter_eq_self.2]
      intro other ho
      exact bne_iff_ne.2 fun he => distinct.1 (he ▸ List.mem_map_of_mem ho)

/-- An evaluation of one step that names a known tag. -/
theorem evaluate_tag {m : Type → Type} [Monad m] [LawfulMonad m] {forest : Forest m α}
    {registry : Registry (Provider m α ε)} {step : Step} {tag : String}
    (named : step.typeName? = some tag) (known : registry.resolve? tag = some (.tag tag))
    (dedupe : Bool) (text : String) (root : α) :
    (evaluate forest registry dedupe ⟨text, [step]⟩ root).run =
      (fun outcome => outcome.map fun reached =>
        if dedupe then dropRepeated forest.address reached else reached) <$>
      (applySteps forest [(step, some (.tag tag))] [root]).run := by
  have hsteps : resolveSteps registry [step] = .ok [(step, some (.tag tag))] := by
    simp only [resolveSteps, resolveStep, named, known]
  unfold evaluate
  rw [hsteps]
  show (((pure [(step, some (.tag tag))] : ExceptT (Failure ε) m _) >>= fun steps =>
    applySteps forest steps [root] >>= fun reached =>
      pure (if dedupe then dropRepeated forest.address reached else reached)).run) = _
  rw [pure_bind, ExceptT.run_bind, map_eq_pure_bind]
  refine bind_congr fun outcome => ?_
  cases outcome with
  | error failure => rfl
  | ok reached => rfl

end Query

namespace Engine

/-- The engine knows the core tags and what has been registered since. -/
inductive Made : Engine grammars → Prop
  | core (dedupe : Bool) : Made ⟨.core, dedupe⟩
  | addType {engine : Engine grammars} (type : NodeType grammars) :
      Made engine → Made (engine.addType type)
  | addTags {engine : Engine grammars} (tags : List String) :
      Made engine → Made (engine.addTags tags)

variable {engine : Engine grammars} {w : Workspace grammars}

/-- The tags of projects are not forgotten. -/
theorem Made.isTag (made : engine.Made) {tag : String} (core : tag ∈ Query.Registry.coreTags) :
    engine.registry.isTag tag = true := by
  induction made with
  | core dedupe =>
      have hall : ∀ tag ∈ Query.Registry.coreTags,
          (Query.sortedNames Query.Registry.coreTags).contains tag = true := by decide
      exact hall tag core
  | addType type _ ih => exact ih
  | addTags tags _ ih => exact Query.Registry.isTag_addTags tags ih

-- ============================================================== finding

/-- The expression that looks for all files. -/
def allFiles : String := "//File()"

/-- Its step. -/
def fileStep : Expression.Step := ⟨.descendant, .type "File", []⟩

theorem compile_allFiles : Expression.compile allFiles = .ok ⟨allFiles, [fileStep]⟩ :=
  Expression.compile_of_print (by decide) (by decide) (by decide)

/-- Without effects it finds the files of a project in order. -/
theorem reachAll_fileStep (w : Workspace grammars) :
    Query.reachAll w.snapshot.forest [fileStep] [.directory []] =
      w.project.paths.map Place.file := by
  have harranged : ProjectPath.Arranged (w.snapshot.texts.map (·.1)) := by
    rw [w.paths_snapshot]
    exact w.project.arranged
  show (preorder w.snapshot.forest (.directory [])).filter w.snapshot.isFile ++ [] = _
  rw [List.append_nil, Snapshot.filter_preorder harranged,
    ProjectPath.filter_inside_root harranged, w.paths_snapshot]

/-- What the step does from a node, its name taken for a tag. -/
def searchFiles {m : Type → Type} [Monad m] {α : Type} (forest : Query.Forest m α) (root : α) :
    ExceptT (Query.Failure NodeError) m (List α) :=
  Query.applySteps forest [(fileStep, some (.tag "File"))] [root]

/-- In a workspace it finds them too, and changes nothing. -/
theorem searchFiles_run (w : Workspace grammars) :
    (searchFiles (Workspace.forest grammars) (.directory [])).run w =
      (.ok (w.project.paths.map .file), w) := by
  have hplain : searchFiles w.snapshot.forest (.directory []) =
      pure (w.project.paths.map Place.file) := by
    unfold searchFiles
    rw [Query.applySteps_of_isTag (List.forall_mem_singleton.2 (by trivial))]
    exact congrArg pure (reachAll_fileStep w)
  have halike : (Act.settled grammars).Alike w
      ((Act.settled grammars).Outcome ((Act.settled grammars).Each (Act.Plain w.snapshot)))
      (searchFiles (Workspace.forest grammars) (.directory [])).run
      (searchFiles w.snapshot.forest (.directory [])).run := by
    refine Comparison.alike_applySteps (Act.forests_settled w.snapshot) ?_
      (.cons (.directory [] rfl) .nil)
    exact .cons ⟨rfl, rfl⟩ .nil
  rw [hplain] at halike
  generalize (searchFiles (Workspace.forest grammars) (.directory [])).run = search at halike ⊢
  obtain ⟨hw, hfound⟩ := halike
  refine Prod.ext ?_ hw
  generalize (search w).1 = result at hfound ⊢
  cases result with
  | error e => exact hfound.elim
  | ok found =>
      have hfound : List.Forall₂ (Act.Plain w.snapshot w) found
        (w.project.paths.map Place.file) := hfound
      refine congrArg Except.ok ?_
      rw [List.forall₂_map_right_iff] at hfound
      rw [← List.forall₂_eq_eq_eq, List.forall₂_map_right_iff]
      refine hfound.imp fun node path h => ?_
      cases h
      rfl

/-- Looking for all files finds them in order, each once, whatever the engine knows besides. -/
theorem evaluate_allFiles (made : engine.Made) (free : engine.registry.type? "File" = none)
    (legible : ∀ path ∈ w.project.paths, path.Legible) :
    ∃ later, (engine.evaluate allFiles (.directory [])).run w =
      (.ok (w.project.paths.map .file), later) ∧ later.project = w.project := by
  have hresolve : engine.registry.resolve? "File" = some (.tag "File") :=
    Query.Registry.resolve?_eq_tag_iff.2 ⟨free, made.isTag (by decide)⟩
  have hdistinct : ((w.project.paths.map Node.file).map Node.address).Nodup := by
    rw [List.map_map]
    refine List.Nodup.map_on (fun path hp other ho he => ?_) w.project.nodup_paths
    exact ProjectPath.address_inj (legible path hp) (legible other ho) he
  have hdropped : (if engine.dedupe then
      Query.dropRepeated (Workspace.forest grammars).address (w.project.paths.map Node.file)
      else w.project.paths.map Node.file) = w.project.paths.map Node.file := by
    split
    · exact Query.dropRepeated_of_nodup hdistinct
    · rfl
  have hsearch : (Query.evaluate (Workspace.forest grammars) engine.registry engine.dedupe
      ⟨allFiles, [fileStep]⟩ (.directory [])).run = (fun outcome => outcome.map fun reached =>
        if engine.dedupe then Query.dropRepeated (Workspace.forest grammars).address reached
        else reached) <$> (searchFiles (Workspace.forest grammars) (.directory [])).run :=
    Query.evaluate_tag rfl hresolve engine.dedupe allFiles (.directory [])
  refine ⟨{ w with programs := (w.programs.fetch allFiles).2 }, ?_, rfl⟩
  rw [evaluate_run, Act.bind_apply, program_eq, compile_allFiles]
  show ((Query.evaluate (Workspace.forest grammars) engine.registry engine.dedupe _ _).run >>= _)
    { w with programs := (w.programs.fetch allFiles).2 } = _
  rw [hsearch, Act.bind_apply, map_eq_pure_bind, Act.bind_apply, searchFiles_run]
  exact Prod.ext (congrArg Except.ok hdropped) rfl

-- ============================================================== writing

/-- Writing a text to files replaces the text of each, and nothing else. -/
theorem visit_files {paths : List ProjectPath} (distinct : paths.Nodup) (text : String)
    (w : Workspace grammars) :
    ∃ later, visit (Act.rewrite text) (paths.map .file) w =
        ((paths.map fun _ => (), none), later) ∧
      later.project.paths = w.project.paths ∧
      ∀ path, later.project.document? path = if path ∈ paths then
        (w.project.document? path).map fun document => (document.replaceAll text).2
        else w.project.document? path := by
  induction paths generalizing w with
  | nil => exact ⟨w, rfl, rfl, fun path => (if_neg List.not_mem_nil).symm⟩
  | cons first paths ih =>
      obtain ⟨hfirst, hrest⟩ := List.nodup_cons.1 distinct
      have hone : Act.rewrite text (.file first) w =
        (.ok (), w.setDocument first ((w.document first).replaceAll text).2) := rfl
      have hdocument : ∀ path,
          (w.setDocument first ((w.document first).replaceAll text).2).project.document? path =
            if path = first then
              (w.project.document? first).map fun document => (document.replaceAll text).2
            else w.project.document? path := by
        intro path
        show (w.project.setDocument first _).document? path = _
        rw [Project.document?_setDocument]
        unfold Workspace.document
        cases w.project.document? first with
        | none => rfl
        | some document => rfl
      obtain ⟨later, hvisit, hpaths, hlater⟩ :=
        ih hrest (w.setDocument first ((w.document first).replaceAll text).2)
      refine ⟨later, ?_, hpaths.trans Project.paths_setDocument, fun path => ?_⟩
      · rw [List.map_cons, Act.visit_cons, hone]
        dsimp only
        rw [hvisit]
        rfl
      · rw [hlater, hdocument]
        by_cases he : path = first
        · subst he
          rw [if_neg hfirst, if_pos rfl, if_pos List.mem_cons_self]
        · rw [if_neg he]
          simp only [List.mem_cons, he, false_or]

end Engine

-- ============================================================ the files

/-- The paths of files that have been added can be read back. -/
theorem Project.legible_after {project : Project} (h : ∀ path ∈ project.paths, path.Legible)
    (calls : List (String × String)) : ∀ path ∈ (project.after calls).paths, path.Legible := by
  induction calls generalizing project with
  | nil => exact h
  | cons call rest ih =>
      obtain ⟨text, content⟩ := call
      rw [after_cons]
      refine ih ?_
      cases hadd : project.add text content with
      | error e =>
          rw [after_of_error hadd]
          exact h
      | ok result =>
          obtain ⟨path, added⟩ := result
          obtain ⟨hparse, -, -, hfiles⟩ := add_eq_ok_iff.1 hadd
          rw [after_of_ok hadd]
          intro other ho
          obtain ⟨entry, he, rfl⟩ := List.mem_map.1 ho
          rw [hfiles] at he
          rcases ProjectPath.mem_insert.1 he with rfl | he
          · exact ProjectPath.legible_of_parse? hparse
          · exact h _ (List.mem_map_of_mem he)

namespace Workspace

/-- In a workspace with the files that calls have added, whatever has become of their texts: the
tree of folders built along lists the files of the project, in strict order of their paths; an
engine without a type of the name `File` finds just these from the root, once each and in this
order; and when it writes a text to all of them, there is an answer for each, each document has the
text, and there are no other files. -/
theorem files_of_calls {w : Workspace grammars} {name : String} {calls : List (String × String)}
    (added : w.project.paths = ((Project.empty name).after calls).paths) {engine : Engine grammars}
    (made : engine.Made) (free : engine.registry.type? "File" = none) (text : String) :
    let paths := w.project.paths
    (Folder.after [] calls).paths = paths ∧ paths.Pairwise (· < ·) ∧
      (∃ later, (engine.evaluate "//File()" (.directory [])).run w =
        (.ok (paths.map .file), later) ∧ later.project = w.project) ∧
      ∃ answers later, (engine.visitMatches "//File()" (.directory []) (Act.rewrite text)).run w =
          (.ok (answers, none), later) ∧
        answers.length = paths.length ∧ later.project.paths = paths ∧
        (∀ path, later.project.document? path =
          (w.project.document? path).map fun document => (document.replaceAll text).2) ∧
        ∀ path ∈ paths, later.content path = text := by
  intro paths
  have hfolder : (Folder.after [] calls).Shows ((Project.empty name).after calls) :=
    (Folder.shows_empty name).after calls
  have hlegible : ∀ path ∈ w.project.paths, path.Legible := by
    rw [added]
    exact Project.legible_after (fun path hm => by cases hm) calls
  obtain ⟨seen, heval, hseen⟩ := Engine.evaluate_allFiles made free hlegible
  obtain ⟨later, hvisit, hpaths, hlater⟩ :=
    Engine.visit_files w.project.nodup_paths text seen
  rw [hseen] at hpaths hlater
  have hdocument : ∀ path, later.project.document? path =
      (w.project.document? path).map fun document => (document.replaceAll text).2 := by
    intro path
    rw [hlater]
    split
    · rfl
    · rename_i hm
      have hnone : w.project.document? path = none :=
        Option.eq_none_iff_forall_ne_some.2 fun document hd =>
          hm (Project.mem_paths_iff.2 ⟨document, hd⟩)
      rw [hnone]
      rfl
  refine ⟨hfolder.paths.trans added.symm, w.project.arranged.ascending, ⟨seen, heval, hseen⟩,
    w.project.paths.map fun _ => (), later, ?_, List.length_map _, hpaths, hdocument,
    fun path hm => ?_⟩
  · show (engine.evaluate Engine.allFiles (.directory []) >>= _).run w = _
    rw [Act.run_bind_apply, heval]
    exact congrArg (fun outcome => (Except.ok outcome.1, outcome.2)) hvisit
  · obtain ⟨document, hd⟩ := Project.mem_paths_iff.1 hm
    unfold Workspace.content Workspace.document
    rw [hdocument, hd]
    exact Document.content_replaceAll document text

-- ============================================================ a sample

/-- A workspace in which a file lies beside a directory whose name begins like its own. -/
def beside : Workspace Session.blind where
  project := (Project.empty "p").after [("a.txt", "x"), ("a/b", "y")]

/-- The file in the directory comes first, and both get the text. -/
theorem files_of_calls_beside :
    beside.project.paths = [["a", "b"], ["a.txt"]] ∧
      ∃ answers later, ((Engine.bare.addTags ["Note"]).visitMatches "//File()" (.directory [])
          (Act.rewrite "z")).run beside = (.ok (answers, none), later) ∧
        answers.length = 2 ∧ later.project.paths = [["a", "b"], ["a.txt"]] ∧
        later.content ["a", "b"] = "z" ∧ later.content ["a.txt"] = "z" := by
  have hpaths : beside.project.paths = [["a", "b"], ["a.txt"]] := by decide +kernel
  have hadded : beside.project.paths =
    ((Project.empty "p").after [("a.txt", "x"), ("a/b", "y")]).paths := rfl
  obtain ⟨-, -, -, answers, later, hrun, hcount, hlater, -, htexts⟩ :=
    files_of_calls hadded ((Engine.Made.core false).addTags ["Note"]) rfl "z"
  rw [hpaths] at hcount hlater htexts
  exact ⟨hpaths, answers, later, hrun, hcount, hlater, htexts _ List.mem_cons_self,
    htexts _ (List.mem_cons_of_mem _ List.mem_cons_self)⟩

end Workspace

end TreeQuery
