/-
Sessions: a workspace together with the nodes its callers hold.

# The machine

A session begins with a project without files and the node of its root. An action is anything
a caller can do: add a file, change one as a whole, by an edit or through any node it holds,
save, look at nodes, walk from them, evaluate expressions. It fails or succeeds; either way it
leaves a workspace behind, and the nodes it answers with are held from then on. Actions on
nodes are for those who hold the nodes; nothing else restricts their order.

# The count

`Reached changes s` says that some run of actions leads to `s` and counts, for each file, the
actions that changed its text. What is proved of sessions is for runs with fewer than 2^64
changes of each file, which is as far as generations tell them apart.

# The invariant

`Sound changes s` is kept by every action (`Sound.step`): the workspace is coherent, the nodes
held are known to it, the generation of each document is the number of its changes, and the
path of each file can be read back from what it is written as.
-/
import TreeQuery.Proofs.Workspace.Writing

namespace TreeQuery

open Text (Span)

variable {grammars : Grammars}

-- ============================================================= actions

/-- Something a caller does. -/
inductive Action where
  | addFile (path content : String)
  | setContent (file : ProjectPath) (text : String)
  | replaceText (file : ProjectPath) (old new : String)
  | applyEdit (file : ProjectPath) (edit : Edit)
  | markClean (file : ProjectPath)
  | update (node : TextNode) (text : String)
  /-- Asks for the name, the tags or a property. -/
  | look (node : Node)
  | value (node : TextNode)
  | extent (node : TextNode)
  | children (node : Node)
  | parent (node : Node)
  | ancestors (node : Node)
  /-- Views a file in a language, whatever its extension says. -/
  | viewRoot (file : ProjectPath) (language : Language)
  /-- Views a node as a type. -/
  | find (type : BuiltIn) (node : Node)
  | evaluate (types : Query.Registry BuiltIn) (dedupe : Bool) (expression : String)
      (root : Node)

namespace Action

/-- The node an action is done to. -/
def subject? : Action → Option Node
  | .addFile .. => none
  | .setContent file _ | .replaceText file .. | .applyEdit file _ | .markClean file
  | .viewRoot file _ => some (.file file)
  | .update node _ | .value node | .extent node => some (.text node)
  | .look node | .children node | .parent node | .ancestors node | .find _ node
  | .evaluate _ _ _ node => some node

/-- What is found, or nothing in case of an error. -/
def foundOr {ε : Type} : Except ε (List Node) → List Node
  | .ok nodes => nodes
  | .error _ => []

/-- Does it, and answers with the nodes the caller gets. -/
def run : Action → Act grammars (List Node)
  | .addFile path content => return match ← Act.addFile path content with
      | .ok file => [.file file]
      | .error _ => []
  | .setContent file text => do
    Act.setContent file text
    return []
  | .replaceText file old new => do
    let _ ← Act.replaceInFile file old new
    return []
  | .applyEdit file edit => do
    let _ ← Act.applyEdit file edit
    return []
  | .markClean file => do
    Act.markClean file
    return []
  | .update node text => do
    let _ ← (Act.update node text).run
    return []
  | .look node => do
    Act.look node
    return []
  | .value node => do
    let _ ← Act.value node
    return []
  | .extent node => do
    let _ ← Act.extent node
    return []
  | .children node => Act.children node
  | .parent node => return (← Act.parent? node).toList
  | .ancestors node => Act.ancestors node
  | .viewRoot file language => return [.text (.member (← Act.viewRoot file language))]
  | .find type node => return foundOr (← type.provider.find node)
  | .evaluate types dedupe expression root =>
    return foundOr (← ((Engine.ofTypes grammars types dedupe).evaluate expression root).run)

end Action

-- ============================================================ sessions

/-- A workspace and the nodes held. -/
structure Session (grammars : Grammars) where
  workspace : Workspace grammars
  held : List Node

namespace Session

/-- The session after an action. -/
def step (s : Session grammars) (action : Action) : Session grammars :=
  ⟨(action.run s.workspace).2, s.held ++ (action.run s.workspace).1⟩

/-- How many changes of a file's text lie between two workspaces one step apart: at most one. A
file that is added has not been changed. -/
def changed (w later : Workspace grammars) (file : ProjectPath) : Nat :=
  if (w.project.document? file).isSome ∧ later.content file ≠ w.content file then 1 else 0

theorem changed_le_one (w later : Workspace grammars) (file : ProjectPath) :
    changed w later file ≤ 1 := by
  unfold changed
  split
  · exact Nat.le_refl _
  · exact Nat.zero_le _

theorem changed_of_project {w later : Workspace grammars} {file : ProjectPath}
    (h : later.project = w.project) : changed w later file = 0 := by
  exact if_neg fun hc => hc.2 (Workspace.content_of_project h file)

/-- A project without files, in which nothing has been looked at. The programs and patterns read
before are any. -/
def start (name : String) (programs : Expression.ProgramCache)
    (patterns : PatternCache grammars) : Session grammars :=
  ⟨{ project := .empty name, programs, patterns }, [.directory []]⟩

/-- A run of actions leads to the session, with so many changes of each file. -/
inductive Reached : (ProjectPath → Nat) → Session grammars → Prop
  | start (name : String) (programs : Expression.ProgramCache)
      (patterns : PatternCache grammars) : Reached (fun _ => 0) (start name programs patterns)
  | step {changes : ProjectPath → Nat} {s : Session grammars} (action : Action) :
      Reached changes s → (∀ node ∈ action.subject?, node ∈ s.held) →
      Reached (fun file => changes file + changed s.workspace (s.step action).workspace file)
        (s.step action)

-- =========================================================== invariant

/-- What holds of every session. -/
structure Sound (changes : ProjectPath → Nat) (s : Session grammars) : Prop where
  coherent : s.workspace.Coherent
  known : ∀ node ∈ s.held, s.workspace.Knows node
  counted : ∀ file, (s.workspace.document file).generation.toNat = changes file
  written : ∀ file, (s.workspace.project.document? file).isSome →
    ProjectPath.parse? (ProjectPath.write file) = some file

theorem sound_start (name : String) (programs : Expression.ProgramCache)
    (patterns : PatternCache grammars) :
    Sound (fun _ => 0) (start name programs patterns) where
  coherent := Workspace.coherent_of_fresh rfl rfl rfl
  known := by
    intro node hm
    rw [List.mem_singleton.1 hm]
    trivial
  counted := fun _ => rfl
  written := by
    intro file hf
    cases hf

end Session

-- ============================================================ one step

/-- An answer made of what a question returns. -/
theorem Act.Keeps.answers {w : Workspace grammars} {α : Type} {a : Act grammars α}
    {P : Workspace grammars → α → Prop} (h : a.Keeps w P) (hw : w.Coherent) (f : α → List Node)
    (hf : ∀ v x, P v x → ∀ node ∈ f x, v.Knows node) :
    w.Stepped ((do return f (← a) : Act grammars (List Node)) w).2 ∧
      ∀ node ∈ ((do return f (← a) : Act grammars (List Node)) w).1,
        ((do return f (← a) : Act grammars (List Node)) w).2.Knows node := by
  obtain ⟨hstep, hx⟩ := h.stepped hw
  exact ⟨hstep, hf _ _ hx⟩

namespace Action

open Act Workspace

theorem knows_foundOr {v : Workspace grammars} {ε : Type} {result : Except ε (List Node)}
    (h : ∀ nodes, result = .ok nodes → ∀ n ∈ nodes, v.Knows n) :
    ∀ n ∈ foundOr result, v.Knows n := by
  intro n hn
  cases result with
  | error e => cases hn
  | ok nodes => exact h nodes rfl n hn

theorem run_addFile (path content : String) (w : Workspace grammars) :
    (addFile path content).run w =
      (match (Act.addFile path content w).1 with
        | .ok file => [.file file]
        | .error _ => [], (Act.addFile path content w).2) := rfl

theorem stepped_addFile {w : Workspace grammars} (path content : String) (hw : w.Coherent) :
    w.Stepped ((addFile path content).run w).2 ∧
      ∀ node ∈ ((addFile path content).run w).1,
        ((addFile path content).run w).2.Knows node := by
  rw [run_addFile, addFile_run]
  cases hadd : w.project.add path content with
  | error e => exact ⟨(Onward.refl w).stepped hw, fun node hn => by cases hn⟩
  | ok added =>
      obtain ⟨file, project⟩ := added
      refine ⟨stepped_add hadd, fun node hn => ?_⟩
      rw [List.mem_singleton.1 hn]
      refine ⟨?_, fun handle hm => by cases hm⟩
      show (project.document? file).isSome
      rw [(Project.document?_of_add hadd).2, if_pos rfl]
      rfl

/-- An action whose subject is known is a step, and it answers with nodes that are known then. -/
theorem stepped_run {w : Workspace grammars} (hw : w.Coherent) (action : Action)
    (hs : ∀ node ∈ action.subject?, w.Knows node) :
    w.Stepped (action.run w).2 ∧ ∀ node ∈ (action.run w).1, (action.run w).2.Knows node := by
  have nothing : ∀ {v : Workspace grammars}, ∀ n ∈ ([] : List Node), v.Knows n := by
    intro v n hn
    cases hn
  cases action with
  | addFile path content => exact stepped_addFile path content hw
  | setContent file text => exact ⟨stepped_setContent text (hs _ rfl).1, nothing⟩
  | replaceText file old new =>
      exact ⟨stepped_replaceInFile old new hw (hs _ rfl).1, nothing⟩
  | applyEdit file edit => exact ⟨stepped_applyEdit edit hw (hs _ rfl).1, nothing⟩
  | markClean file => exact ⟨stepped_setDocument (hs _ rfl).1 (.inl ⟨rfl, rfl⟩), nothing⟩
  | update node text => exact ⟨stepped_update text hw (hs _ rfl), nothing⟩
  | look node => exact ⟨((keeps_look (hs _ rfl)).stepped hw).1, nothing⟩
  | value node => exact ⟨((keeps_value (hs _ rfl)).stepped hw).1, nothing⟩
  | extent node => exact ⟨((keeps_extent (hs _ rfl)).stepped hw).1, nothing⟩
  | children node => exact (keeps_children (hs _ rfl)).stepped hw
  | parent node =>
      exact (keeps_parent? (hs _ rfl)).answers hw _ fun v above ha n hn =>
        ha n (Option.mem_toList.1 hn)
  | ancestors node => exact (keeps_ancestorsWithin _ (hs _ rfl)).stepped hw
  | viewRoot file language =>
      refine (keeps_viewRoot language (hs _ rfl).1).answers hw
        (fun root => [.text (.member root)]) fun v root hr n hn => ?_
      rw [List.mem_singleton.1 hn]
      exact hr
  | find type node =>
      exact (keeps_find type (hs _ rfl)).answers hw foundOr fun v result => knows_foundOr
  | evaluate types dedupe expression root =>
      exact (Engine.keeps_evaluate types dedupe expression (hs _ rfl)).answers hw foundOr
        fun v result => knows_foundOr

end Action

namespace Session

variable {changes : ProjectPath → Nat} {s : Session grammars}

/-- The generations of a later workspace count its changes as well. -/
theorem Sound.counts (hs : Sound changes s) {later : Workspace grammars}
    (adv : s.workspace.Advances later) {file : ProjectPath}
    (few : changes file + changed s.workspace later file < UInt64.size) :
    (later.document file).generation.toNat =
      changes file + changed s.workspace later file := by
  have hcount := hs.counted file
  cases hf : s.workspace.project.document? file with
  | none =>
      rw [Workspace.document_of_none hf] at hcount
      have hzero : changes file = 0 := hcount.symm
      rw [adv.unborn file hf, hzero]
      unfold changed
      rw [hf, if_neg fun h => by cases h.1]
      rfl
  | some document =>
      have hsome : (s.workspace.project.document? file).isSome := by rw [hf]; rfl
      unfold changed at few ⊢
      rcases adv.revised file hsome with ⟨hc, hg⟩ | ⟨hc, hg⟩
      · rw [if_neg fun h => h.2 hc, hg]
        exact hcount
      · rw [if_pos ⟨hsome, hc⟩] at few ⊢
        rw [hg, Generation.toNat_next (by rw [hcount]; exact few), hcount]

/-- There is room for a change of a text with few changes, the new one counted. -/
theorem Sound.room (hs : Sound changes s) {later : Workspace grammars}
    (few : ∀ file, changes file + changed s.workspace later file < UInt64.size) :
    s.workspace.Room later := by
  intro file hne
  rw [UInt64.lt_iff_toNat_lt]
  have hcount := hs.counted file
  have hlt : (s.workspace.document file).generation.toNat + 1 < UInt64.size := by
    cases hf : s.workspace.project.document? file with
    | none =>
        rw [Workspace.document_of_none hf]
        show (0 : Nat) + 1 < UInt64.size
        decide
    | some document =>
        have hfew := few file
        unfold changed at hfew
        rw [if_pos ⟨by rw [hf]; rfl, hne⟩] at hfew
        rw [hcount]
        exact hfew
  rw [Generation.toNat_next hlt]
  exact Nat.lt_succ_self _

/-- Every action keeps the invariant. -/
theorem Sound.step (hs : Sound changes s) (action : Action)
    (subject : ∀ node ∈ action.subject?, node ∈ s.held)
    (few : ∀ file,
      changes file + changed s.workspace (s.step action).workspace file < UInt64.size) :
    Sound (fun file => changes file + changed s.workspace (s.step action).workspace file)
      (s.step action) := by
  obtain ⟨⟨adv, hcoherent⟩, hnodes⟩ := action.stepped_run hs.coherent
    fun node hn => hs.known node (subject node hn)
  refine ⟨hcoherent hs.coherent (hs.room few), fun node hn => ?_,
    fun file => hs.counts adv (few file), fun file hf => ?_⟩
  · rcases List.mem_append.1 hn with hn | hn
    · exact adv.knows (hs.known node hn)
    · exact hnodes node hn
  · rcases adv.written file hf with hf | hw
    · exact hs.written file hf
    · exact hw

/-- What holds of every session: its runs keep the invariant. -/
theorem sound_of_reached (hr : Reached changes s) (few : ∀ file, changes file < UInt64.size) :
    Sound changes s := by
  induction hr with
  | start name programs patterns => exact sound_start name programs patterns
  | step action _ subject ih =>
      refine (ih fun file => Nat.lt_of_le_of_lt (Nat.le_add_right _ _) (few file)).step action
        subject few

-- ============================================================ a sample

/-- A step between texts that are the same does not count. -/
theorem Reached.still (hr : Reached changes s) (action : Action)
    (subject : ∀ node ∈ action.subject?, node ∈ s.held)
    (same : ∀ file, changed s.workspace (s.step action).workspace file = 0) :
    Reached changes (s.step action) := by
  have hstep := hr.step action subject
  have heq : (fun file => changes file + changed s.workspace (s.step action).workspace file) =
      changes := funext fun file => by rw [same, Nat.add_zero]
  rw [heq] at hstep
  exact hstep

/-- Adding a file changes no text. -/
theorem Reached.addFile (hr : Reached changes s) (path content : String) :
    Reached changes (s.step (.addFile path content)) := by
  refine hr.still _ (fun _ hn => by cases hn) fun file => if_neg fun ⟨hsome, hne⟩ => hne ?_
  have hstep : (s.step (.addFile path content)).workspace =
      (Act.addFile path content s.workspace).2 := rfl
  rw [hstep, Act.addFile_run]
  cases hadd : s.workspace.project.add path content with
  | error e => rfl
  | ok added =>
      obtain ⟨other, project⟩ := added
      obtain ⟨hnone, hdocument⟩ := Project.document?_of_add hadd
      have hother : file ≠ other := by
        rintro rfl
        rw [hnone] at hsome
        cases hsome
      show ((project.document? file).getD _).content =
        ((s.workspace.project.document? file).getD _).content
      rw [hdocument, if_neg hother]

/-- A run that yields something yields that. -/
theorem run_eq_of_toOption {ε α : Type} {a : ExceptT ε (Act grammars) α}
    {w : Workspace grammars} {x : α} (h : (a.run w).1.toOption = some x) :
    a.run w = (.ok x, (a.run w).2) := by
  refine Prod.ext ?_ rfl
  cases hresult : (a.run w).1 with
  | error e =>
      rw [hresult] at h
      cases h
  | ok y =>
      rw [hresult] at h
      exact congrArg _ (Option.some.inj h)

/-- A run that yields something of which this is known yields such a thing. -/
theorem exists_run {ε α β : Type} {a : ExceptT ε (Act grammars) α} {w : Workspace grammars}
    {f : α → β} {y : β} (h : (a.run w).1.toOption.map f = some y) :
    ∃ x later, a.run w = (.ok x, later) ∧ f x = y := by
  obtain ⟨x, hx, hy⟩ := Option.map_eq_some_iff.1 h
  exact ⟨x, _, run_eq_of_toOption hx, hy⟩

/-- The grammar `a`, whose occurrences are that letter. -/
def letter : Microgrammar where
  name := "letter"
  grammar := "a"
  submatchers := []
  bindings := []
  inner := .one [(97, 97)]
  whole := .seq (.seq (.assertion .textStart) (.one [(97, 97)])) (.assertion .textEnd)

/-- Parsers that see a text as a whole only. -/
def blind : Grammars where
  parse _ source := .node ⟨"program", .whole source, true, false, false, none⟩ []
  find _ _ _ := some []

/-- A session in which a file has been added. -/
def filed : Session blind := (start "p" .empty .empty).step (.addFile "a.txt" "a a")

/-- A session in which the letters of the file have been found. -/
def scanned : Session blind := filed.step (.find (.microgrammar letter) (.file ["a.txt"]))

/-- The letters found, from the left. -/
def letterAt (index : Nat) : TextNode :=
  .occurrence index letter (.file ["a.txt"]) index ⟨⟨2 * index, 2 * index + 1⟩, "a", []⟩

theorem held_scanned : scanned.held =
    [.directory [], .file ["a.txt"], .text (letterAt 0), .text (letterAt 1)] := rfl

theorem reached_filed : Reached (fun _ => 0) filed :=
  .still (.start _ _ _) _ (fun node hn => by cases hn) fun file => rfl

theorem reached_scanned : Reached (fun _ => 0) scanned := by
  refine reached_filed.still _ (fun node hn => ?_) fun file => changed_of_project rfl
  obtain rfl := Option.mem_some_iff.1 hn
  exact List.mem_cons_of_mem _ List.mem_cons_self

end Session

end TreeQuery
