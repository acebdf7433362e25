/-
Sessions on the record: runs of actions with the notes they take.

`Recorded changes notes s` is `Reached changes s` with the notes of the run, in their order; every
session that can be reached is recorded with some (`Reached.recorded`). What a law says holds
after every such run of all nodes in views that are held, or that held nodes were found in
(`kept_of_recorded`). The invariant is a kept record that knows all nodes held, and each action
leads from one such record to the next (`Action.leads_run`).
-/
import TreeQuery.Proofs.Session.Basic
import TreeQuery.Proofs.Workspace.Recording

namespace TreeQuery

variable {grammars : Grammars} {law : Law grammars} {r : Record grammars}

namespace Action

open Act Record

/-- The notes of an action. -/
def notes (action : Action) (w : Workspace grammars) : List Note :=
  match action with
  | .update node text => Workspace.updateNotes node text w
  | .value node => w.valueNotes node
  | .extent node => Workspace.extentNotes node w
  | .find type node => Workspace.findNotes type node w
  | .evaluate types dedupe expression root => w.evaluateNotes types dedupe expression root
  | _ => []

/-- A step with its notes, and the nodes that it answers with. -/
def Led (law : Law grammars) (r : Record grammars) (result : List Node × Workspace grammars)
    (more : List Note) : Prop :=
  r.Kept law → r.workspace.Room result.2 → ∃ s : Record grammars, s.workspace = result.2 ∧
    s.notes = r.notes ++ more ∧
    (∀ handle node, r.issued handle = some node → s.issued handle = some node) ∧ s.Kept law ∧
    ∀ node ∈ result.1, s.Knows node

theorem led_of_leads {later : Workspace grammars} {more : List Note}
    (h : r.Leads law later more) : Led law r ([], later) more := by
  intro hr room
  obtain ⟨s, hs, hnotes, -, hissued, hkept⟩ := h hr room
  exact ⟨s, hs, hnotes, hissued, hkept, fun node hn => by cases hn⟩

/-- A question, answered with the nodes made of what it returns. -/
theorem led_of_tells {α : Type} {a : Act grammars α} {notes : Workspace grammars → List Note}
    {R : Record grammars → α → Prop} (h : Tells law r a notes R) (f : α → List Node)
    (hf : ∀ s x, R s x → ∀ node ∈ f x, s.Knows node) :
    Led law r (f (a r.workspace).1, (a r.workspace).2) (notes r.workspace) := by
  intro hr _
  obtain ⟨s, hs, hnotes, hrs, hkept, hx⟩ := h hr
  exact ⟨s, hs, hnotes, hrs.issued, hkept, hf s _ hx⟩

theorem knows_foundOr_of {s : Record grammars} {ε : Type} {result : Except ε (List Node)}
    (h : ∀ nodes, result = .ok nodes → ∀ n ∈ nodes, s.Knows n) :
    ∀ n ∈ foundOr result, s.Knows n := by
  intro n hn
  cases result with
  | error e => cases hn
  | ok nodes => exact h nodes rfl n hn

theorem led_addFile (path content : String) :
    Led law r ((addFile path content).run r.workspace) [] := by
  rw [run_addFile, addFile_run]
  cases hadd : r.workspace.project.add path content with
  | error e => exact led_of_leads leads_refl
  | ok added =>
      obtain ⟨file, project⟩ := added
      intro hr room
      have hkept := hr.still (Workspace.stepped_add hadd) room rfl
      refine ⟨r.moved _ [], rfl, rfl, fun _ _ h => h, hkept, fun node hn => ?_⟩
      rw [List.mem_singleton.1 hn]
      refine knows_file ?_
      show (project.document? file).isSome
      rw [(Project.document?_of_add hadd).2, if_pos rfl]
      rfl

/-- An action whose subject is known leads to a kept record that knows what it answers with. -/
theorem led_run (action : Action) (hs : ∀ node ∈ action.subject?, r.Knows node) :
    Led law r (action.run r.workspace) (action.notes r.workspace) := by
  have nothing : ∀ {s : Record grammars}, ∀ n ∈ ([] : List Node), s.Knows n := by
    intro s n hn
    cases hn
  cases action with
  | addFile path content => exact led_addFile path content
  | setContent file text =>
      exact led_of_leads (leads_still (fun _ => stepped_setContent text (hs _ rfl).1.1) rfl)
  | replaceText file old new =>
      have hm : (replaceInFile file old new r.workspace).2.memories = r.workspace.memories := by
        rcases replaceInFile_snd file old new r.workspace with h | ⟨text, h⟩
        · rw [h]
        · rw [h]
          rfl
      exact led_of_leads (leads_still
        (fun hr => stepped_replaceInFile old new hr.coherent (hs _ rfl).1.1) hm)
  | applyEdit file edit =>
      have hm : (Act.applyEdit file edit r.workspace).2.memories = r.workspace.memories := by
        unfold Act.applyEdit
        rw [get_bind_apply]
        cases (r.workspace.document file).apply edit with
        | error e => rfl
        | ok answer => rfl
      exact led_of_leads (leads_still
        (fun hr => stepped_applyEdit edit hr.coherent (hs _ rfl).1.1) hm)
  | markClean file =>
      exact led_of_leads (leads_still
        (fun _ => Workspace.stepped_setDocument (hs _ rfl).1.1 (.inl ⟨rfl, rfl⟩)) rfl)
  | update node text => exact led_of_leads (leads_update text (hs _ rfl))
  | look node => exact led_of_tells (lawful_look (hs _ rfl)) (fun _ => []) fun _ _ _ => nothing
  | value node => exact led_of_tells (tells_value (hs _ rfl)) (fun _ => []) fun _ _ _ => nothing
  | extent node => exact led_of_tells (tells_extent (hs _ rfl)) (fun _ => []) fun _ _ _ => nothing
  | children node => exact led_of_tells (lawful_children (hs _ rfl)) id fun _ _ h => h
  | parent node =>
      exact led_of_tells (lawful_parent? (hs _ rfl)) Option.toList fun s above ha n hn =>
        ha n (Option.mem_toList.1 hn)
  | ancestors node => exact led_of_tells (lawful_ancestorsWithin _ (hs _ rfl)) id fun _ _ h => h
  | viewRoot file language =>
      refine led_of_tells (lawful_viewRoot language (hs _ rfl).1.1)
        (fun root => [.text (.member root)]) fun s root hroot n hn => ?_
      rw [List.mem_singleton.1 hn]
      exact hroot
  | find type node =>
      exact led_of_tells (tells_find type (hs _ rfl)) foundOr fun s result => knows_foundOr_of
  | evaluate types dedupe expression root =>
      exact led_of_tells (tells_evaluate types dedupe expression (hs _ rfl)) foundOr
        fun s result => knows_foundOr_of

end Action

namespace Session

variable {changes : ProjectPath → Nat} {notes : List Note} {s : Session grammars}

/-- A run of actions leads to the session, with so many changes of each file and these notes. -/
inductive Recorded : (ProjectPath → Nat) → List Note → Session grammars → Prop
  | start (name : String) (programs : Expression.ProgramCache)
      (patterns : PatternCache grammars) :
      Recorded (fun _ => 0) [] (start name programs patterns)
  | step {changes : ProjectPath → Nat} {notes : List Note} {s : Session grammars}
      (action : Action) :
      Recorded changes notes s → (∀ node ∈ action.subject?, node ∈ s.held) →
      Recorded (fun file => changes file + changed s.workspace (s.step action).workspace file)
        (notes ++ action.notes s.workspace) (s.step action)

theorem Recorded.reached (h : Recorded changes notes s) : Reached changes s := by
  induction h with
  | start name programs patterns => exact .start name programs patterns
  | step action _ subject ih => exact ih.step action subject

/-- Every run takes some notes. -/
theorem Reached.recorded (h : Reached changes s) : ∃ notes, Recorded changes notes s := by
  induction h with
  | start name programs patterns => exact ⟨[], .start name programs patterns⟩
  | step action _ subject ih =>
      obtain ⟨notes, hnotes⟩ := ih
      exact ⟨_, hnotes.step action subject⟩

/-- No file has changed at the start. -/
theorem Recorded.begun (name : String) (programs : Expression.ProgramCache)
    (patterns : PatternCache grammars) :
    ∃ changes, Recorded changes [] (Session.start name programs patterns) ∧
      ∀ file, changes file ≤ 0 :=
  ⟨_, .start name programs patterns, fun _ => Nat.le_refl 0⟩

/-- A step changes a file once at most. -/
theorem Recorded.next {most : Nat}
    (h : ∃ changes, Recorded changes notes s ∧ ∀ file, changes file ≤ most) (action : Action)
    (subject : ∀ node ∈ action.subject?, node ∈ s.held) :
    ∃ changes, Recorded changes (notes ++ action.notes s.workspace) (s.step action) ∧
      ∀ file, changes file ≤ most + 1 := by
  obtain ⟨changes, hr, hmost⟩ := h
  exact ⟨_, hr.step action subject, fun file => Nat.add_le_add (hmost file)
    (changed_le_one s.workspace (s.step action).workspace file)⟩

/-- After any run, with its notes, a law holds of the nodes in views that are held or that held
nodes were found in. -/
theorem kept_of_recorded (law : Law grammars) (h : Recorded changes notes s)
    (few : ∀ file, changes file < UInt64.size) :
    ∃ r : Record grammars, r.workspace = s.workspace ∧ r.notes = notes ∧ r.Kept law ∧
      ∀ node ∈ s.held, r.Knows node := by
  induction h with
  | start name programs patterns =>
      refine ⟨⟨_, [], fun _ => none⟩, rfl, rfl, ?_, fun node hn => ?_⟩
      · exact {
          coherent := Workspace.coherent_of_fresh rfl rfl rfl
          noted := fun _ h => nomatch h
          handle := fun _ _ h => nomatch h
          known := fun _ _ h => nomatch h
          lawful := fun _ _ h => nomatch h }
      · rw [List.mem_singleton.1 hn]
        exact .inl rfl
  | @step changes notes s action h subject ih =>
      have hfew : ∀ file, changes file < UInt64.size := fun file =>
        Nat.lt_of_le_of_lt (Nat.le_add_right _ _) (few file)
      obtain ⟨r, hr, hnotes, hkept, hheld⟩ := ih hfew
      have hsound := sound_of_reached h.reached hfew
      have hstep := (action.stepped_run hsound.coherent
        fun node hn => hsound.known node (subject node hn)).1
      have hroom := hsound.room few
      rw [show (s.step action).workspace = (action.run s.workspace).2 from rfl, ← hr] at hroom
      rw [← hr] at hstep
      obtain ⟨t, ht, htnotes, hissued, htkept, hanswers⟩ :=
        action.led_run (fun node hn => hheld node (subject node hn)) hkept hroom
      rw [← ht] at hstep
      refine ⟨t, by rw [ht, hr]; rfl, by rw [htnotes, hnotes, hr], htkept, fun node hn => ?_⟩
      rcases List.mem_append.1 hn with hn | hn
      · exact Record.knows_of_advances hstep.advances hissued (hheld node hn)
      · exact hanswers node (hr ▸ hn)

end Session

end TreeQuery
