/-
What writing keeps. An operation that changes texts leaves a coherent workspace coherent, as
long as the generation of a text it changes has somewhere to go.

A step forward in the history of a workspace is the same whatever made it: files stay, each of
their documents is revised at most once, and a new file starts at generation zero under a path
that can be read back (`Workspace.Advances`). Looking is such a step, and so is every write.
-/
import TreeQuery.Proofs.Workspace.Looking
import TreeQuery.Proofs.Workspace.Splicing

namespace TreeQuery

open Text (Span)

variable {grammars : Grammars}

namespace Workspace

variable {w later : Workspace grammars}

-- ============================================================== steps

/-- A workspace one step further on. -/
structure Advances (w later : Workspace grammars) : Prop where
  name : later.project.name = w.project.name
  handles : w.nextHandle ≤ later.nextHandle
  files : ∀ file, (w.project.document? file).isSome → (later.project.document? file).isSome
  revised : ∀ file, (w.project.document? file).isSome →
    (w.document file).Revised (later.document file)
  unborn : ∀ file, w.project.document? file = none → (later.document file).generation = 0
  written : ∀ file, (later.project.document? file).isSome →
    (w.project.document? file).isSome ∨ ProjectPath.parse? (ProjectPath.write file) = some file

theorem document_of_none {file : ProjectPath} (h : w.project.document? file = none) :
    w.document file = { path := ProjectPath.write file, content := "" } := by
  unfold document
  rw [h]
  rfl

/-- A node that is known is known after the step. -/
theorem Advances.knows (h : w.Advances later) {node : Node} (hn : w.Knows node) :
    later.Knows node := by
  cases node with
  | directory path => trivial
  | detached tree => trivial
  | text node =>
      exact ⟨h.files _ hn.1, fun handle hm => Nat.lt_of_lt_of_le (hn.2 handle hm) h.handles⟩

theorem advances_of_project (hp : later.project = w.project)
    (hh : w.nextHandle ≤ later.nextHandle) : w.Advances later := by
  have hdoc := document_of_project hp
  refine ⟨by rw [hp], hh, fun file hf => hp ▸ hf, fun file _ => ?_, fun file hf => ?_,
    fun file hf => .inl (hp ▸ hf)⟩
  · rw [hdoc]
    exact .refl _
  · rw [hdoc, document_of_none hf]

theorem Onward.advances (h : w.Onward later) : w.Advances later :=
  advances_of_project h.project h.handles

/-- Another document for a file is a step, if it is the file's document revised. -/
theorem advances_setDocument {file : ProjectPath} {document : Document}
    (hr : (w.document file).Revised document) (hp : later.project =
      w.project.setDocument file document) (hh : w.nextHandle ≤ later.nextHandle) :
    w.Advances later := by
  have hsome : ∀ other, (later.project.document? other).isSome =
      (w.project.document? other).isSome := fun other => by
    rw [hp, Project.isSome_setDocument]
  have hdoc : ∀ other, later.document other =
      if other = file ∧ (w.project.document? file).isSome then document
      else w.document other := by
    intro other
    rw [← document_setDocument]
    exact document_of_project (w := w.setDocument file document) hp other
  refine ⟨by rw [hp]; rfl, hh, fun other ho => by rw [hsome]; exact ho, fun other ho => ?_,
    fun other ho => ?_, fun other ho => .inl (by rw [← hsome]; exact ho)⟩
  · rw [hdoc]
    split
    · rename_i he
      rw [he.1]
      exact hr
    · exact .refl _
  · rw [hdoc, if_neg]
    · rw [document_of_none ho]
    · rintro ⟨rfl, hf⟩
      rw [ho] at hf
      cases hf

/-- A splice is a step. -/
theorem Spliced.advances {file : ProjectPath} {old new : String}
    {outcome : Except NodeError Unit × Workspace grammars} (h : w.Spliced file old new outcome)
    (hh : w.nextHandle ≤ outcome.2.nextHandle) : w.Advances outcome.2 := by
  obtain ⟨result, later⟩ := outcome
  cases result with
  | error e => exact advances_of_project h hh
  | ok _ =>
      rcases h with ⟨-, hp⟩ | ⟨hne, before, after, hcontent, hp⟩
      · exact advances_of_project hp hh
      · refine advances_setDocument (Document.revised_written fun he => hne ?_) hp hh
        have hcontent : (w.document file).content = before ++ old ++ after := hcontent
        rw [hcontent] at he
        have hlist := congrArg String.toList he
        simp only [String.toList_append, List.append_assoc, List.append_cancel_left_eq,
          List.append_cancel_right_eq] at hlist
        exact String.toList_inj.1 hlist

/-- Wherever a text changes, its generation has a next one that is greater. -/
def Room (w later : Workspace grammars) : Prop :=
  ∀ file, later.content file ≠ w.content file →
    (w.document file).generation < (w.document file).generation.next

theorem Room.of_project {v u : Workspace grammars} (h : w.Room later)
    (hv : v.project = w.project) (hu : u.project = later.project) : v.Room u := by
  unfold Room content document at h ⊢
  rw [hv, hu]
  exact h

/-- A step that leaves a coherent workspace if there is room for the changes it makes. -/
structure Stepped (w later : Workspace grammars) : Prop where
  advances : w.Advances later
  coherent : w.Coherent → w.Room later → later.Coherent

theorem Onward.stepped (h : w.Onward later) (hc : later.Coherent) : w.Stepped later :=
  ⟨h.advances, fun _ _ => hc⟩

theorem stepped_setDocument {file : ProjectPath} {document : Document}
    (hf : (w.project.document? file).isSome) (hr : (w.document file).Revised document) :
    w.Stepped (w.setDocument file document) := by
  refine ⟨advances_setDocument hr rfl (Nat.le_refl _), fun hw room => ?_⟩
  refine hw.setDocument hr fun hne => room file ?_
  show ((w.setDocument file document).document file).content ≠ _
  rw [document_setDocument, if_pos ⟨rfl, hf⟩]
  exact hne

/-- A file that is added is a step. -/
theorem stepped_add {text content : String} {file : ProjectPath} {added : Project}
    (ha : w.project.add text content = .ok (file, added)) :
    w.Stepped { w with project := added } := by
  obtain ⟨hparse, -, hname, -⟩ := Project.add_eq_ok_iff.1 ha
  obtain ⟨hnone, hdoc⟩ := Project.document?_of_add ha
  have hold : ∀ other, (w.project.document? other).isSome →
      added.document? other = w.project.document? other := by
    intro other ho
    rw [hdoc, if_neg]
    rintro rfl
    rw [hnone] at ho
    cases ho
  refine ⟨⟨hname, Nat.le_refl _, fun other ho => ?_, fun other ho => ?_, fun other ho => ?_,
    fun other ho => ?_⟩, fun hw _ => hw.addFile ha⟩
  · show (added.document? other).isSome
    rw [hold other ho]
    exact ho
  · have hsame : ({ w with project := added } : Workspace grammars).document other =
        w.document other := by
      unfold Workspace.document
      rw [hold other ho]
    rw [hsame]
    exact .refl _
  · show ((added.document? other).getD _).generation = 0
    rw [hdoc]
    split
    · rfl
    · rw [ho]
      rfl
  · by_cases he : other = file
    · rw [he]
      exact .inr (ProjectPath.parse?_write hparse)
    · refine .inl ?_
      have ho : (added.document? other).isSome := ho
      rw [hdoc, if_neg he] at ho
      exact ho

end Workspace

-- ============================================================== writes

namespace Act

open Workspace

variable {w : Workspace grammars}

theorem Keeps.stepped {α : Type} {a : Act grammars α} {P : Workspace grammars → α → Prop}
    (h : a.Keeps w P) (hw : w.Coherent) : w.Stepped (a w).2 ∧ P (a w).2 (a w).1 := by
  obtain ⟨hc, hon, hx⟩ := h hw
  exact ⟨hon.stepped hc, hx⟩

theorem addFile_run (path content : String) (w : Workspace grammars) :
    addFile path content w = match w.project.add path content with
      | .error e => (.error e, w)
      | .ok (file, project) => (.ok file, { w with project }) := by
  show (match w.project.add path content with
    | .error e => return .error e
    | .ok (file, project) => do
      set { w with project }
      return .ok file : Act grammars (Except ProjectError ProjectPath)) w = _
  cases w.project.add path content with
  | error e => rfl
  | ok added => rfl

theorem stepped_setContent {file : ProjectPath} (text : String)
    (hf : (w.project.document? file).isSome) : w.Stepped (setContent file text w).2 :=
  stepped_setDocument hf (Document.revised_replaceAll _ text)

/-- Replacing texts in a file is putting another text into it, if there is anything to replace. -/
theorem replaceInFile_snd (file : ProjectPath) (old new : String) (w : Workspace grammars) :
    (replaceInFile file old new w).2 = w ∨
      ∃ text, (replaceInFile file old new w).2 = (setContent file text w).2 := by
  unfold replaceInFile
  rw [get_bind_apply]
  obtain ⟨text, count⟩ := Text.replaceCount old.toList new.toList (w.content file).toList
  by_cases hc : count = 0
  · refine .inl ?_
    simp only [hc, if_true]
    rfl
  · refine .inr ⟨String.ofList text, ?_⟩
    simp only [hc, if_false]
    rfl

theorem stepped_replaceInFile {file : ProjectPath} (old new : String) (hw : w.Coherent)
    (hf : (w.project.document? file).isSome) : w.Stepped (replaceInFile file old new w).2 := by
  rcases replaceInFile_snd file old new w with h | ⟨text, h⟩
  · rw [h]
    exact (Onward.refl w).stepped hw
  · rw [h]
    exact stepped_setContent text hf

theorem stepped_applyEdit {file : ProjectPath} (edit : Edit) (hw : w.Coherent)
    (hf : (w.project.document? file).isSome) : w.Stepped (applyEdit file edit w).2 := by
  unfold applyEdit
  rw [get_bind_apply]
  cases happ : (w.document file).apply edit with
  | error e => exact (Onward.refl w).stepped hw
  | ok answer => exact stepped_setDocument hf (Document.revised_apply happ)

-- ============================================================ updates

/-- What an update leaves to show beyond the splice it is. -/
def Settles (w later : Workspace grammars) : Prop :=
  (w.Room later → later.Coherent) ∧ w.nextHandle ≤ later.nextHandle

theorem settles_setContent (hw : w.Coherent) {file : ProjectPath} (text : String)
    (hf : (w.project.document? file).isSome) : Settles w (setContent file text w).2 :=
  ⟨(stepped_setContent text hf).coherent hw, Nat.le_refl _⟩

theorem settles_updateMember (hw : w.Coherent) {node : MemberNode} (text : String)
    (hn : w.KnowsText (.member node)) : Settles w ((updateMember node text).run w).2 := by
  rw [updateMember_run]
  obtain ⟨hc, hon, -⟩ := keeps_span? hn hw
  generalize span? node w = result at hc hon ⊢
  obtain ⟨found, v⟩ := result
  have hc : v.Coherent := hc
  have hon : w.Onward v := hon
  cases found with
  | none => exact ⟨fun _ => hc, hon.handles⟩
  | some span =>
      simp only
      cases happ : (v.document node.file).apply
          (.replacing (v.document node.file).content span text) with
      | error e => exact ⟨fun _ => hc, hon.handles⟩
      | ok answer =>
          obtain ⟨outcome, changed⟩ := answer
          refine ⟨fun room => ?_, hon.handles⟩
          have hset : (v.setDocument node.file changed).Coherent := by
            refine hc.setDocument (Document.revised_apply happ) fun hne => ?_
            refine (room.of_project hon.project rfl) node.file ?_
            show ((v.setDocument node.file changed).document node.file).content ≠ _
            rw [document_setDocument, if_pos ⟨rfl, hon.project ▸ hn.1⟩]
            exact hne
          exact hset.remember _ ((hon.knowsText hn).2 _ List.mem_cons_self)

theorem settles_updateOccurrence (hw : w.Coherent) {handle : Handle} {grammar : Microgrammar}
    {context : TextNode} {born : Occurrence} {address : String}
    {updateContext : String → ExceptT NodeError (Act grammars) Unit}
    (hn : w.KnowsText context) (hh : handle < w.nextHandle)
    (hcontext : ∀ (v : Workspace grammars) (text : String), v.Coherent → v.KnowsText context →
      Settles v ((updateContext text).run v).2) (text : String) :
    Settles w
      ((updateOccurrence handle grammar context born address updateContext text).run w).2 := by
  rw [updateOccurrence_run]
  obtain ⟨hc, hon, -⟩ := keeps_value hn hw
  have hc : (w.value context).2.Coherent := hc
  have hon : w.Onward (w.value context).2 := hon
  generalize w.value context = result at hc hon ⊢
  obtain ⟨whole, v⟩ := result
  have hlt : handle < v.nextHandle := Nat.lt_of_lt_of_le hh hon.handles
  simp only
  cases hloc : grammar.locate? (v.found handle born) whole with
  | none => exact ⟨fun _ => hc, hon.handles⟩
  | some span =>
      simp only
      cases happ : (Edit.replacing whole span text).apply whole with
      | error e =>
          cases e with
          | unexpectedText => exact ⟨fun _ => hc, hon.handles⟩
          | outOfRange => exact ⟨fun _ => hc, hon.handles⟩
          | splitsCharacter => exact ⟨fun _ => hc, hon.handles⟩
      | ok outcome =>
          cases outcome with
          | alreadyApplied => exact ⟨fun _ => hc.setFound _ hlt, hon.handles⟩
          | applied changed =>
              simp only
              obtain ⟨hu, hle⟩ := hcontext v changed hc (hon.knowsText hn)
              generalize (updateContext changed).run v = answer at hu hle ⊢
              obtain ⟨result, u⟩ := answer
              have hle : v.nextHandle ≤ u.nextHandle := hle
              cases result with
              | error e =>
                  exact ⟨fun room => hu (room.of_project hon.project rfl),
                    Nat.le_trans hon.handles hle⟩
              | ok _ =>
                  refine ⟨fun room => ?_, Nat.le_trans hon.handles hle⟩
                  exact (hu (room.of_project hon.project rfl)).setFound _
                    (Nat.lt_of_lt_of_le hlt hle)

/-- An update of any node keeps a workspace coherent if there is room for the change. -/
theorem settles_update {node : TextNode} (text : String) {w : Workspace grammars}
    (hw : w.Coherent) (hn : w.KnowsText node) : Settles w ((update node text).run w).2 := by
  induction node generalizing text w with
  | file path => exact settles_setContent hw text hn.1
  | member node => exact settles_updateMember hw text hn
  | occurrence handle grammar context index born ih =>
      have hcontext : w.KnowsText context :=
        ⟨hn.1, fun h hm => hn.2 h (List.mem_cons_of_mem _ hm)⟩
      unfold update
      exact settles_updateOccurrence hw hcontext (hn.2 _ List.mem_cons_self)
        (fun v text hv hk => ih text hv hk) text
  | binding handle grammar context index born name ih =>
      have hcontext : w.KnowsText context :=
        ⟨hn.1, fun h hm => hn.2 h (List.mem_cons_of_mem _ hm)⟩
      unfold update
      rw [run_get_bind]
      simp only
      cases hsplice : ((w.found handle born).captures.lookup name).bind
          (Text.splice? (w.found handle born).text · text) with
      | none => exact ⟨fun _ => hw, Nat.le_refl _⟩
      | some spliced =>
          exact settles_updateOccurrence hw hcontext (hn.2 _ List.mem_cons_self)
            (fun v text hv hk => ih text hv hk) spliced

/-- An update of any node is a step. -/
theorem stepped_update {node : TextNode} (text : String) (hw : w.Coherent)
    (hn : w.KnowsText node) : w.Stepped ((update node text).run w).2 := by
  obtain ⟨hc, hh⟩ := settles_update text hw hn
  exact ⟨(spliced_update node text w).advances hh, fun _ => hc⟩

end Act

end TreeQuery
