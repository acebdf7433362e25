/-
Coherent workspaces: what is remembered of the texts agrees with the texts.

# The invariant

A workspace remembers views under the generations of the texts they were worked out from, and
what nodes know under their handles. `Workspace.Coherent` says that the view it gives of a
file is the one worked out from the present text, and that handles not given out yet are
fresh: nothing is remembered under them.

The first part cannot be kept by looking at stamps of the present alone: a view held from long
ago becomes wrong if its stamp comes back. So a slot is `Sound` when its stamp is not ahead of
the generation as well; each change moves the generation on, and a stamp once left behind is
never met again.

# The steps

Every change of a workspace is made of a few: a view is held, a node remembers something, a
handle is given out, a document changes, a file is added. Each of them keeps a workspace
coherent; a document may change as `Document.Revised` says, with the generation moving on
whenever the text does.
-/
import TreeQuery.Proofs.Project.Files
import TreeQuery.Proofs.Text.Cut
import TreeQuery.Workspace.Files
import TreeQuery.Workspace.Types

namespace TreeQuery

-- ================================================================ slots

namespace Slot

variable {α : Type} {slot : Slot α} {generation : Generation} {right : α → Prop}

/-- What is held was worked out at `generation` or before, and is right if it was worked out at
`generation`. -/
def Sound (slot : Slot α) (generation : Generation) (right : α → Prop) : Prop :=
  ∀ stamp value, slot.held = some (stamp, value) →
    stamp ≤ generation ∧ (stamp = generation → right value)

theorem sound_empty : ({} : Slot α).Sound generation right := by
  intro stamp value h
  cases h

theorem sound_put {value : α} (h : right value) :
    (put generation value).Sound generation right := by
  intro stamp held hs
  obtain ⟨rfl, rfl⟩ := Prod.mk.inj (Option.some.inj hs)
  exact ⟨UInt64.le_refl _, fun _ => h⟩

/-- A sound slot gives out what is right. -/
theorem Sound.get? (h : slot.Sound generation right) {value : α}
    (hv : slot.get? generation = some value) : right value := by
  unfold Slot.get? at hv
  cases hs : slot.held with
  | none =>
      rw [hs] at hv
      cases hv
  | some entry =>
      obtain ⟨stamp, held⟩ := entry
      rw [hs] at hv
      by_cases he : stamp = generation
      · simp only [he, if_true, Option.some.injEq] at hv
        subst hv
        exact (h stamp held hs).2 he
      · simp only [he, if_false, reduceCtorEq] at hv

/-- When the generation moves on, whatever is held is out of date, and so no longer matters. -/
theorem Sound.later (h : slot.Sound generation right) {later : Generation}
    (hlt : generation < later) (right' : α → Prop) : slot.Sound later right' := by
  intro stamp value hs
  have hlt' : stamp < later := UInt64.lt_of_le_of_lt (h stamp value hs).1 hlt
  exact ⟨UInt64.le_of_lt hlt', fun he => absurd he (UInt64.ne_of_lt hlt')⟩

end Slot

-- ============================================================= documents

namespace Document

/-- At most one change lies between two states of a document: the text and the generation are
the same, or the text is another one and the generation the next. -/
def Revised (old new : Document) : Prop :=
  (new.content = old.content ∧ new.generation = old.generation) ∨
    (new.content ≠ old.content ∧ new.generation = old.generation.next)

theorem Revised.refl (document : Document) : document.Revised document := .inl ⟨rfl, rfl⟩

theorem revised_written {document : Document} {text : String} (h : text ≠ document.content) :
    document.Revised (document.written text) := .inr ⟨h, rfl⟩

theorem replaceAll_snd (document : Document) (text : String) :
    (document.replaceAll text).2 =
      if text = document.content then document else document.written text := by
  unfold replaceAll
  by_cases h : document.content = text
  · rw [if_pos h, if_pos h.symm]
  · rw [if_neg h, if_neg (Ne.symm h)]

theorem content_replaceAll (document : Document) (text : String) :
    (document.replaceAll text).2.content = text := by
  rw [replaceAll_snd]
  split
  · rename_i h
    exact h.symm
  · rfl

theorem revised_replaceAll (document : Document) (text : String) :
    document.Revised (document.replaceAll text).2 := by
  rw [replaceAll_snd]
  split
  · exact .refl document
  · rename_i h
    exact revised_written h

/-- An edit that applies changes the text. -/
theorem revised_apply {document changed : Document} {edit : Edit} {outcome : EditOutcome}
    (h : document.apply edit = .ok (outcome, changed)) : document.Revised changed := by
  unfold apply Edit.apply at h
  split at h
  · rename_i text happ
    cases h
    split at happ
    · cases happ
    · split at happ
      · cases happ
      · rename_i before middle after hcut
        simp only at happ
        split at happ
        · cases happ
        · rename_i hne
          split at happ
          · cases happ
            refine revised_written fun he => hne ?_
            obtain ⟨ht, -, -⟩ := Text.cut?_eq_some_iff.1 hcut
            have hlist := congrArg String.toList he
            rw [String.toList_ofList, ht, List.append_assoc, List.append_assoc,
              List.append_cancel_left_eq, List.append_cancel_right_eq] at hlist
            rw [← hlist, String.ofList_toList]
          · cases happ
  · cases h
    exact .refl _
  · cases h

end Document

-- =============================================================== nodes

namespace TextNode

/-- The file a node stands in. -/
def owner : TextNode → ProjectPath
  | .file path => path
  | .member node => node.file
  | .occurrence _ _ context _ _ => context.owner
  | .binding _ _ context _ _ _ => context.owner

/-- The handles of a node and of those it was found in. -/
def handles : TextNode → List Handle
  | .file _ => []
  | .member node => [node.handle]
  | .occurrence handle _ context _ _ => handle :: context.handles
  | .binding handle _ context _ _ _ => handle :: context.handles

end TextNode

-- ============================================================ workspaces

instance (grammars : Grammars) : LawfulMonad (Act grammars) :=
  inferInstanceAs (LawfulMonad (StateM (Workspace grammars)))

theorem Act.bind_apply {grammars : Grammars} {α β : Type} (a : Act grammars α)
    (f : α → Act grammars β) (w : Workspace grammars) : (a >>= f) w = f (a w).1 (a w).2 := rfl

theorem Act.get_bind_apply {grammars : Grammars} {β : Type}
    (f : Workspace grammars → Act grammars β) (w : Workspace grammars) :
    (get >>= f) w = f w w := rfl

theorem Act.run_get_bind {grammars : Grammars} {ε β : Type}
    (f : Workspace grammars → ExceptT ε (Act grammars) β) (w : Workspace grammars) :
    (get >>= f).run w = (f w).run w := rfl

/-- Going on after a computation that cannot fail. -/
theorem Act.run_lift_bind {grammars : Grammars} {ε α β : Type} (a : Act grammars α)
    (f : α → ExceptT ε (Act grammars) β) :
    ((liftM a : ExceptT ε (Act grammars) α) >>= f).run = a >>= fun x => (f x).run := by
  rw [ExceptT.run_bind]
  show ((Except.ok <$> a : Act grammars (Except ε α)) >>= _) = _
  rw [map_eq_pure_bind, bind_assoc]
  exact bind_congr fun x => pure_bind _ _

/-- Going on after a computation that can fail. -/
theorem Act.run_bind_apply {grammars : Grammars} {ε α β : Type}
    (a : ExceptT ε (Act grammars) α) (f : α → ExceptT ε (Act grammars) β)
    (w : Workspace grammars) :
    (a >>= f).run w = match a.run w with
      | (.error e, v) => (.error e, v)
      | (.ok x, v) => (f x).run v := by
  rw [ExceptT.run_bind, bind_apply]
  obtain ⟨result, v⟩ := a.run w
  cases result with
  | error e => rfl
  | ok x => rfl

namespace Workspace

variable {grammars : Grammars} {w : Workspace grammars}

/-- Holding a view changes nothing else. -/
theorem holdView_fields (w : Workspace grammars) (file : ProjectPath) (language : Language) :
    (w.holdView file language).project = w.project ∧
      (w.holdView file language).memories = w.memories ∧
      (w.holdView file language).occurrences = w.occurrences := by
  unfold holdView
  simp only
  split
  · exact ⟨rfl, rfl, rfl⟩
  · exact ⟨rfl, rfl, rfl⟩

theorem memory_eq {later : Workspace grammars} (h : later.memories = w.memories)
    (node : MemberNode) : later.memory node = w.memory node := by
  unfold Workspace.memory
  rw [h]

theorem memory_remember (w : Workspace grammars) (node other : MemberNode) (memory : Memory) :
    (w.remember node memory).memory other =
      if other.handle = node.handle then memory else w.memory other := by
  unfold Workspace.memory
  show (List.lookup other.handle ((node.handle, memory) :: _)).getD other.born = _
  rw [lookup_cons_filter]
  split
  · rfl
  · rfl

-- ========================================================= coherence

/-- The workspace gives the views of the present texts, and holds nothing under handles that
are not given out yet. -/
structure Coherent (w : Workspace grammars) : Prop where
  views : ∀ file language, (w.viewSlot file language).Sound (w.document file).generation
    (· = grammars.view language (w.content file))
  /-- No view is held of a file that there is not. -/
  present : ∀ file language, w.project.document? file = none → w.viewSlot file language = {}
  memories : ∀ handle, w.nextHandle ≤ handle → w.memories.lookup handle = none
  occurrences : ∀ handle, w.nextHandle ≤ handle → w.occurrences.lookup handle = none

/-- A workspace in which nothing has been looked at. -/
theorem coherent_of_fresh (hv : w.views = []) (hm : w.memories = []) (ho : w.occurrences = []) :
    w.Coherent := by
  have hslot : ∀ file language, w.viewSlot file language = ({} : Slot View) := by
    intro file language
    unfold viewSlot
    rw [hv]
    rfl
  refine ⟨fun file language => ?_, fun file language _ => hslot file language,
    fun handle _ => ?_, fun handle _ => ?_⟩
  · rw [hslot]
    exact Slot.sound_empty
  · rw [hm]
    rfl
  · rw [ho]
    rfl

/-- A coherent workspace gives the view of the present text. -/
theorem Coherent.view (h : w.Coherent) (file : ProjectPath) (language : Language) :
    w.view file language = grammars.view language (w.content file) := by
  unfold Workspace.view
  cases hs : (w.viewSlot file language).get? (w.document file).generation with
  | none => rfl
  | some view => exact (h.views file language).get? hs

theorem viewSlot_put (views : List ((ProjectPath × Language) × Slot View))
    (file other : ProjectPath) (language language' : Language) (slot : Slot View) :
    (({ w with views := ((file, language), slot) ::
        views.filter (·.1 != (file, language)) } : Workspace grammars).viewSlot other language') =
      if (other, language') = (file, language) then slot
      else ({ w with views } : Workspace grammars).viewSlot other language' := by
  unfold viewSlot
  show (List.lookup (other, language') (_ :: _)).getD ({} : Slot View) = _
  rw [lookup_cons_filter]
  split
  · rfl
  · rfl

theorem Coherent.holdView (h : w.Coherent) {file : ProjectPath} (language : Language)
    (hf : (w.project.document? file).isSome) : (w.holdView file language).Coherent := by
  unfold Workspace.holdView
  simp only
  split
  · exact h
  · refine ⟨fun other language' => ?_, fun other language' hnone => ?_, h.memories,
      h.occurrences⟩
    · rw [viewSlot_put]
      split
      · rename_i he
        obtain ⟨rfl, rfl⟩ := Prod.mk.inj he
        exact Slot.sound_put (h.view other language')
      · exact h.views other language'
    · have hne : (other, language') ≠ (file, language) := by
        rintro he
        obtain ⟨rfl, rfl⟩ := Prod.mk.inj he
        rw [show w.project.document? other = none from hnone] at hf
        cases hf
      rw [viewSlot_put, if_neg hne]
      exact h.present other language' hnone

theorem Coherent.remember (h : w.Coherent) {node : MemberNode} (memory : Memory)
    (hn : node.handle < w.nextHandle) : (w.remember node memory).Coherent := by
  refine ⟨h.views, h.present, fun handle hle => ?_, h.occurrences⟩
  have hle : w.nextHandle ≤ handle := hle
  show List.lookup handle ((node.handle, memory) :: _) = none
  rw [lookup_cons_filter, if_neg (Nat.ne_of_gt (Nat.lt_of_lt_of_le hn hle))]
  exact h.memories handle hle

theorem Coherent.setFound (h : w.Coherent) {handle : Handle} (occurrence : Occurrence)
    (hn : handle < w.nextHandle) : (w.setFound handle occurrence).Coherent := by
  refine ⟨h.views, h.present, h.memories, fun other hle => ?_⟩
  have hle : w.nextHandle ≤ other := hle
  show List.lookup other ((handle, occurrence) :: _) = none
  rw [lookup_cons_filter, if_neg (Nat.ne_of_gt (Nat.lt_of_lt_of_le hn hle))]
  exact h.occurrences other hle

theorem Coherent.nextHandle (h : w.Coherent) :
    ({ w with nextHandle := w.nextHandle + 1 } : Workspace grammars).Coherent := by
  refine ⟨h.views, h.present, fun handle hle => h.memories handle ?_,
    fun handle hle => h.occurrences handle ?_⟩ <;> exact Nat.le_of_succ_le hle

theorem document_setDocument (file other : ProjectPath) (document : Document) :
    (w.setDocument file document).document other =
      if other = file ∧ (w.project.document? file).isSome then document
      else w.document other := by
  unfold Workspace.document
  show ((w.project.setDocument file document).document? other).getD _ = _
  rw [Project.document?_setDocument]
  by_cases ho : other = file
  · subst ho
    cases hd : w.project.document? other with
    | none => simp
    | some d => simp
  · simp [ho]

theorem document_of_project {later : Workspace grammars} (h : later.project = w.project)
    (file : ProjectPath) : later.document file = w.document file := by
  unfold Workspace.document
  rw [h]

theorem content_of_project {later : Workspace grammars} (h : later.project = w.project)
    (file : ProjectPath) : later.content file = w.content file :=
  congrArg Document.content (document_of_project h file)

/-- A file there is has the document it is given. -/
theorem document_of_setDocument {later : Workspace grammars} {file : ProjectPath}
    {document : Document} (hf : (w.project.document? file).isSome)
    (h : later.project = w.project.setDocument file document) :
    later.document file = document := by
  rw [document_of_project (w := w.setDocument file document) h, document_setDocument,
    if_pos ⟨rfl, hf⟩]

/-- A document may change as long as its generation moves on with the text. -/
theorem Coherent.setDocument (h : w.Coherent) {file : ProjectPath} {document : Document}
    (hr : (w.document file).Revised document)
    (hlt : document.content ≠ w.content file →
      (w.document file).generation < (w.document file).generation.next) :
    (w.setDocument file document).Coherent := by
  have hslot : ∀ other language, (w.setDocument file document).viewSlot other language =
      w.viewSlot other language := fun _ _ => rfl
  refine ⟨fun other language => ?_, fun other language hnone => ?_, h.memories, h.occurrences⟩
  · rw [hslot]
    unfold Workspace.content
    rw [document_setDocument]
    split
    · rename_i he
      obtain ⟨rfl, -⟩ := he
      rcases hr with ⟨hc, hg⟩ | ⟨hc, hg⟩
      · rw [hc, hg]
        exact h.views other language
      · rw [hg]
        exact (h.views other language).later (hlt hc) _
    · exact h.views other language
  · rw [hslot]
    refine h.present other language ?_
    have hnone : (w.project.setDocument file document).document? other = none := hnone
    rw [Project.document?_setDocument] at hnone
    split at hnone
    · rename_i he
      rw [he]
      simpa using hnone
    · exact hnone

/-- A new file has not been looked at. -/
theorem Coherent.addFile (h : w.Coherent) {text content : String} {file : ProjectPath}
    {added : Project} (ha : w.project.add text content = .ok (file, added)) :
    ({ w with project := added } : Workspace grammars).Coherent := by
  obtain ⟨hnone, hdoc⟩ := Project.document?_of_add ha
  have hslot : ∀ other language,
      ({ w with project := added } : Workspace grammars).viewSlot other language =
        w.viewSlot other language := fun _ _ => rfl
  refine ⟨fun other language => ?_, fun other language ho => ?_, h.memories, h.occurrences⟩
  · rw [hslot]
    by_cases ho : other = file
    · rw [ho, h.present file language hnone]
      exact Slot.sound_empty
    · unfold Workspace.content Workspace.document
      rw [hdoc, if_neg ho]
      exact h.views other language
  · rw [hslot]
    have ho : added.document? other = none := ho
    rw [hdoc] at ho
    split at ho
    · cases ho
    · exact h.present other language ho

end Workspace

end TreeQuery
