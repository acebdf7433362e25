/-
What nodes in views remember, and what becomes of a node whose member is gone.

# The law

What a node remembers of its text is the text that has passed through it last; the text it was
found with, if none has (`lastText`). Its pinned span says nothing about the present unless it
bears the present generation of the file, and then the remembered text stands there. A span comes
to bear the present generation in two ways: the node has made the generation by writing, or it has
written what stood there anyway. In the second case nothing has changed, and the span is still
that of its member. So `Remembers` keeps, of a pinned span of the present generation, that the
node has made the generation, or that its member has the span.

# Members that are gone, and back

Unless the node has made the present generation itself, its pinned span therefore never stands for
a member that is gone. Then the node has no span at all: it answers with the text it remembers,
is not updated and has no children (`Remembers.gone`). And where the present view has the member
again, it is the member's text that the node answers with (`Remembers.value_of_present`), and the
member's span that is replaced (`Remembers.span?_of_present`, `update_of_span?`).
-/
import TreeQuery.Proofs.Edit.Retrying
import TreeQuery.Proofs.View.Spans
import TreeQuery.Proofs.Workspace.Records
import TreeQuery.Proofs.Workspace.Rereading

namespace TreeQuery

open Text (Span)

variable {grammars : Grammars}

-- =============================================================== notes

/-- The text that has passed through a node last, or the one it was found with. -/
def lastText (notes : List Note) (node : MemberNode) : String :=
  ((notes.reverse.find? fun note => note.handle = node.handle).map Note.text).getD node.born.text

/-- The node has made a generation by writing. -/
def MadeBy (notes : List Note) (node : MemberNode) (generation : Generation) : Prop :=
  ∃ note ∈ notes, note.handle = node.handle ∧ note.made = some generation

instance (notes : List Note) (node : MemberNode) (generation : Generation) :
    Decidable (MadeBy notes node generation) :=
  inferInstanceAs (Decidable (∃ note ∈ notes,
    note.handle = node.handle ∧ note.made = some generation))

variable {notes more : List Note} {node : MemberNode}

theorem lastText_append_of_not (h : ∀ note ∈ more, note.handle ≠ node.handle) :
    lastText (notes ++ more) node = lastText notes node := by
  have hnone : (more.reverse.find? fun note => note.handle = node.handle) = none :=
    List.find?_eq_none.2 fun note hm => by simpa using h note (List.mem_reverse.1 hm)
  unfold lastText
  rw [List.reverse_append, List.find?_append, hnone, Option.none_or]

theorem lastText_concat {note : Note} (h : note.handle = node.handle) :
    lastText (notes ++ [note]) node = note.text := by
  unfold lastText
  rw [List.reverse_append, List.reverse_singleton, List.singleton_append,
    List.find?_cons_of_pos (by simpa using h)]
  rfl

theorem lastText_of_not (h : ∀ note ∈ notes, note.handle ≠ node.handle) :
    lastText notes node = node.born.text :=
  @lastText_append_of_not [] notes node h

theorem MadeBy.append {generation : Generation} (h : MadeBy notes node generation)
    (more : List Note) : MadeBy (notes ++ more) node generation := by
  obtain ⟨note, hm, hnote⟩ := h
  exact ⟨note, List.mem_append_left _ hm, hnote⟩

/-- A document in which an edit is already applied. -/
theorem Document.apply_eq_alreadyApplied {document changed : Document} {edit : Edit}
    (h : document.apply edit = .ok (.alreadyApplied, changed)) :
    edit.apply document.content = .ok .alreadyApplied := by
  unfold apply at h
  split at h
  · cases h
  · assumption
  · cases h

/-- Replacing what stands at a span of a document always works. -/
theorem Document.apply_replacing_of_parted {document : Document} {span : Span}
    {before found after : String} (h : Text.Parted document.content span before found after)
    (new : String) :
    ∃ outcome changed,
      document.apply (.replacing document.content span new) = .ok (outcome, changed) ∧
        changed.content = before ++ new ++ after := by
  have hedited : (Edit.replacing document.content span new).edited document.content =
      .ok (before ++ new ++ after) :=
    Edit.edited_of_parted h (Edit.accepts_of_parted h new)
  unfold Edit.edited at hedited
  unfold apply
  cases happly : (Edit.replacing document.content span new).apply document.content with
  | error e =>
      rw [happly] at hedited
      cases hedited
  | ok outcome =>
      rw [happly] at hedited
      cases outcome with
      | applied changed => exact ⟨_, _, rfl, Except.ok.inj hedited⟩
      | alreadyApplied => exact ⟨_, _, rfl, Except.ok.inj hedited⟩

/-- A replacement either stood at its span already, or makes the next generation. -/
theorem Document.unchanged_or_next {document changed : Document} {span : Span} {text : String}
    {outcome : EditOutcome}
    (h : document.apply (.replacing document.content span text) = .ok (outcome, changed)) :
    changed = document ∧ (⟨span.start, span.start + text.utf8ByteSize⟩ : Span) = span ∨
      changed.generation = document.generation.next := by
  rcases apply_cases (.replacing document.content span text) document with
    ⟨e, he⟩ | he | ⟨written, -, he⟩
  · rw [h] at he
    cases he
  · rw [h] at he
    obtain ⟨rfl, rfl⟩ := Prod.mk.inj (Except.ok.inj he)
    obtain ⟨before, after, hparted⟩ :=
      Edit.parted_of_alreadyApplied (apply_eq_alreadyApplied h)
    have hstop : span.start + text.utf8ByteSize = span.stop := hparted.stop.symm
    exact .inl ⟨rfl, by rw [hstop]⟩
  · rw [h] at he
    obtain ⟨-, rfl⟩ := Prod.mk.inj (Except.ok.inj he)
    exact .inr rfl

namespace Workspace

variable {w later : Workspace grammars}

-- ================================================================ law

/-- The node's member is in the present view, and has the span. -/
def Placed (w : Workspace grammars) (node : MemberNode) (span : Span) : Prop :=
  ((grammars.view node.language (w.content node.file)).at? node.location).map (·.label.span) =
    some span

/-- The remembered text is the last one; and a span of the present generation holds it, and is the
node's own work or that of its member. -/
structure Remembers (w : Workspace grammars) (notes : List Note) (node : MemberNode) : Prop where
  text : (w.memory node).text = lastText notes node
  past : ∀ generation span, (w.memory node).pinned = some (generation, span) →
    generation ≤ (w.document node.file).generation
  pinned : ∀ span, w.pinned? node = some span →
    Text.slice? (w.content node.file) span = some (w.memory node).text ∧
      (MadeBy notes node (w.document node.file).generation ∨ w.Placed node span)

theorem pinned?_eq_some {span : Span} :
    w.pinned? node = some span ↔
      (w.memory node).pinned = some ((w.document node.file).generation, span) := by
  unfold pinned?
  cases (w.memory node).pinned with
  | none => simp
  | some entry =>
      obtain ⟨generation, other⟩ := entry
      simp only [Option.some.injEq, Prod.mk.injEq]
      by_cases h : generation = (w.document node.file).generation
      · rw [if_pos h]
        simp [h]
      · rw [if_neg h]
        simp [h]

theorem remembers_born {member : Member} (hmemory : w.memory node = node.born)
    (hborn : node.born = w.observe node.file member)
    (hnotes : ∀ note ∈ notes, note.handle ≠ node.handle) : w.Remembers notes node := by
  have hpin : (w.memory node).pinned = none := by
    rw [hmemory, hborn]
    rfl
  refine ⟨?_, fun generation span h => ?_, fun span h => ?_⟩
  · rw [hmemory, lastText_of_not hnotes]
  · rw [hpin] at h
    cases h
  · rw [pinned?_eq_some, hpin] at h
    cases h

/-- The law lasts as long as the file keeps its text, and the node its memory of it. -/
theorem Remembers.still (h : w.Remembers notes node)
    (hdocument : (later.document node.file).content = (w.document node.file).content ∧
      (later.document node.file).generation = (w.document node.file).generation)
    (htext : (later.memory node).text = (w.memory node).text)
    (hpinned : (later.memory node).pinned = (w.memory node).pinned)
    (hlast : lastText more node = lastText notes node) (hmade : ∀ generation,
      MadeBy notes node generation → MadeBy more node generation) :
    later.Remembers more node := by
  obtain ⟨hcontent, hgeneration⟩ := hdocument
  refine ⟨by rw [htext, h.text, hlast], fun generation span hp => ?_, fun span hp => ?_⟩
  · rw [hgeneration]
    exact h.past generation span (hpinned ▸ hp)
  · have hp' : w.pinned? node = some span := by
      rw [pinned?_eq_some] at hp ⊢
      rw [← hpinned, hp, hgeneration]
    obtain ⟨hslice, hwhy⟩ := h.pinned span hp'
    unfold Placed content
    rw [hcontent, hgeneration, htext]
    exact ⟨hslice, hwhy.imp (hmade _) id⟩

theorem Remembers.elsewhere (h : w.Remembers notes node)
    (hmemory : later.memory node = w.memory node)
    (hrevised : (w.document node.file).Revised (later.document node.file))
    (room : later.content node.file ≠ w.content node.file →
      (w.document node.file).generation < (w.document node.file).generation.next)
    (hmore : ∀ note ∈ more, note.handle ≠ node.handle) :
    later.Remembers (notes ++ more) node := by
  rcases hrevised with hsame | ⟨hcontent, hgeneration⟩
  · exact h.still hsame (by rw [hmemory]) (by rw [hmemory]) (lastText_append_of_not hmore)
      fun _ hm => hm.append more
  · -- the generation has moved on, past that of the pinned span
    have hlt := room hcontent
    refine ⟨by rw [hmemory, h.text, lastText_append_of_not hmore], fun generation span hp => ?_,
      fun span hp => ?_⟩
    · rw [hgeneration]
      exact UInt64.le_of_lt (UInt64.lt_of_le_of_lt (h.past generation span (hmemory ▸ hp)) hlt)
    · rw [pinned?_eq_some, hmemory, hgeneration] at hp
      exact absurd (h.past _ span hp) (UInt64.not_le.2 hlt)

/-- A node with a span of its own answers with the text it remembers. -/
theorem memberValue_of_pinned (h : w.Remembers notes node) {span : Span}
    (hp : w.pinned? node = some span) : w.memberValue node = ((w.memory node).text, w) := by
  have hslice : (w.document node.file).slice? span = some (w.memory node).text :=
    (h.pinned span hp).1
  unfold memberValue
  rw [hp, Option.bind_some, hslice]

/-- A node without a span of its own remembers the text it answers with. -/
theorem memory_memberValue_self (hp : w.pinned? node = none) :
    ((w.memberValue node).2.memory node).text = (w.memberValue node).1 ∧
      ((w.memberValue node).2.memory node).pinned = (w.memory node).pinned := by
  have hheld := memory_eq (w.holdView_fields node.file node.language).2.1 node
  unfold memberValue
  rw [hp, Option.bind_none]
  simp only
  cases (w.holdView node.file node.language).resolve? node with
  | none => exact ⟨rfl, by rw [hheld]⟩
  | some tree =>
      simp only
      rw [memory_remember, if_pos rfl, hheld]
      exact ⟨rfl, rfl⟩

theorem Remembers.value (h : w.Remembers notes node) :
    (w.memberValue node).2.Remembers (notes ++ w.valueNotes (.member node)) node := by
  have hlast : lastText (notes ++ w.valueNotes (.member node)) node = (w.memberValue node).1 :=
    lastText_concat rfl
  cases hp : w.pinned? node with
  | some span =>
      rw [memberValue_of_pinned h hp] at hlast ⊢
      exact h.still ⟨rfl, rfl⟩ rfl rfl (hlast.trans h.text) fun _ hm => hm.append _
  | none =>
      obtain ⟨htext, hpinned⟩ := memory_memberValue_self hp
      have hproject := (w.value_fields (.member node)).1
      have hnone := (pinned?_congr node hproject hpinned).trans hp
      refine ⟨htext.trans hlast.symm, fun generation span hs => ?_, fun span hs => ?_⟩
      · rw [show (w.memberValue node).2.document node.file = w.document node.file from
          document_of_project hproject node.file]
        exact h.past generation span (hpinned ▸ hs)
      · rw [show (w.memberValue node).2.pinned? node = none from hnone] at hs
        cases hs

theorem Remembers.extent (h : w.Remembers notes node) :
    (Act.memberExtent node w).2.Remembers notes node := by
  obtain ⟨-, hproject, hmemories, -⟩ := Act.span?_eq node w
  rcases Act.memberExtent_snd node w with hsnd | ⟨slot, hsnd⟩
  · rw [hsnd]
    exact h
  · have hdocument := document_of_project hproject node.file
    rw [hsnd]
    refine h.still ⟨congrArg Document.content hdocument, congrArg Document.generation hdocument⟩
      ?_ ?_ rfl fun _ hm => hm
    · rw [memory_remember, if_pos rfl, memory_eq hmemories]
    · rw [memory_remember, if_pos rfl, memory_eq hmemories]

-- ============================================================= updates

/-- Why a node has the span it has, if it has one. -/
theorem Remembers.span (h : w.Remembers notes node) (hw : w.Coherent) {span : Span}
    (hspan : w.span? node = some span) :
    MadeBy notes node (w.document node.file).generation ∨ w.Placed node span := by
  unfold span? at hspan
  rcases Option.or_eq_some_iff.1 hspan with hp | ⟨-, hresolved⟩
  · exact (h.pinned span hp).2
  · refine .inr ?_
    unfold resolve? at hresolved
    rwa [hw.view] at hresolved

theorem Remembers.update (h : w.Remembers notes node) (hw : w.Coherent)
    (hf : (w.project.document? node.file).isSome) {text : String}
    (hrun : (Act.updateMember node text).run w = (.ok (), later)) :
    later.Remembers (notes ++ w.memberNotes node text) node := by
  obtain ⟨span, outcome, changed, hspan, happly, -, hdocument, hmemories⟩ :=
    Act.updateMember_effect hf hrun
  have hmemory := (hmemories node).trans (if_pos rfl)
  have hnotes := memberNotes_of_ok hrun
  refine ⟨?_, fun generation other hp => ?_, fun other hp => ?_⟩
  · rw [hmemory, hnotes, lastText_concat (by rfl)]
  · rw [hmemory] at hp
    obtain ⟨rfl, -⟩ := Prod.mk.inj (Option.some.inj hp)
    rw [hdocument]
    exact UInt64.le_refl _
  · rw [pinned?_eq_some, hmemory] at hp
    obtain ⟨-, rfl⟩ := Prod.mk.inj (Option.some.inj hp)
    refine ⟨?_, ?_⟩
    · unfold content
      rw [hmemory, hdocument]
      exact Document.slice?_of_apply_replacing happly
    · rw [hnotes]
      rcases Document.unchanged_or_next happly with ⟨rfl, hsame⟩ | hnext
      · -- nothing has changed: the span is the one that the node had
        rw [hsame, hdocument]
        refine (h.span hw hspan).imp (·.append _) fun hplaced => ?_
        unfold Placed content at hplaced ⊢
        rw [hdocument]
        exact hplaced
      · -- the node has made the generation
        refine .inl ⟨_, List.mem_append_right _ List.mem_cons_self, rfl, ?_⟩
        unfold made
        rw [hdocument, if_neg (hnext ▸ Generation.next_ne _), hnext]

/-- That nodes remember the last text, as a law of all runs. -/
def remembering : Law grammars where
  Holds := Workspace.Remembers
  born := remembers_born
  elsewhere := Remembers.elsewhere
  value _ h := h.value
  extent _ h := h.extent
  update hw hf hrun _ h := h.update hw hf hrun

-- ==================================================== gone and present

/-- A node whose member is gone, unless it has made the present generation: it stands nowhere. -/
theorem Remembers.span?_of_gone (h : w.Remembers notes node) (hw : w.Coherent)
    (foreign : ¬ MadeBy notes node (w.document node.file).generation)
    (gone : (grammars.view node.language (w.content node.file)).at? node.location = none) :
    w.pinned? node = none ∧ w.resolve? node = none := by
  refine ⟨Option.eq_none_iff_forall_ne_some.2 fun span hp => ?_, ?_⟩
  · rcases (h.pinned span hp).2 with hmade | hplaced
    · exact foreign hmade
    · unfold Placed at hplaced
      rw [gone] at hplaced
      cases hplaced
  · unfold resolve?
    rw [hw.view, gone]

/-- It answers with the text it remembers, is not updated, and has no children. -/
theorem Remembers.gone (h : w.Remembers notes node) (hw : w.Coherent)
    (foreign : ¬ MadeBy notes node (w.document node.file).generation)
    (gone : (grammars.view node.language (w.content node.file)).at? node.location = none) :
    (w.value (.member node)).1 = lastText notes node ∧
      (∀ text, ∃ later, (Act.update (.member node) text).run w =
          (.error (.stale node.address), later) ∧
        later.project = w.project ∧ later.memories = w.memories ∧
        later.occurrences = w.occurrences) ∧
      (Act.children (.text (.member node)) w).1 = [] := by
  obtain ⟨hpinned, hresolved⟩ := h.span?_of_gone hw foreign gone
  refine ⟨?_, fun text => ?_, ?_⟩
  · show (w.memberValue node).1 = _
    rw [memberValue_fst, ← h.text]
    unfold memberText
    rw [hpinned, hresolved]
    rfl
  · obtain ⟨hspan, hproject, hmemories, hoccurrences⟩ := Act.span?_eq node w
    have hnone : (Act.span? node w).1 = none := by
      rw [hspan]
      unfold span?
      rw [hpinned, hresolved]
      rfl
    refine ⟨(Act.span? node w).2, ?_, hproject, hmemories, hoccurrences⟩
    show (Act.updateMember node text).run w = _
    rw [Act.updateMember_run]
    generalize Act.span? node w = result at hnone
    obtain ⟨found, v⟩ := result
    obtain rfl : found = none := hnone
    rfl
  · show (Act.memberChildren node w).1 = []
    rw [Act.memberChildren_run, hresolved]
    rfl

/-- The span of a node whose member is there, unless it has made the present generation. -/
theorem Remembers.span?_of_present (h : w.Remembers notes node) (hw : w.Coherent)
    (foreign : ¬ MadeBy notes node (w.document node.file).generation) {part : View}
    (present : (grammars.view node.language (w.content node.file)).at? node.location =
      some part) :
    w.span? node = some part.label.span := by
  unfold span?
  cases hp : w.pinned? node with
  | none =>
      unfold resolve?
      rw [hw.view, present]
      rfl
  | some span =>
      rcases (h.pinned span hp).2 with hmade | hplaced
      · exact absurd hmade foreign
      · unfold Placed at hplaced
        rw [present] at hplaced
        exact hplaced.symm

/-- The node answers with the text of its member. -/
theorem Remembers.value_of_present (h : w.Remembers notes node) (hw : w.Coherent)
    (foreign : ¬ MadeBy notes node (w.document node.file).generation) {part : View}
    (present : (grammars.view node.language (w.content node.file)).at? node.location =
      some part) :
    (w.value (.member node)).1 =
      (Text.slice? (w.content node.file) part.label.span).getD "" := by
  have hspan := h.span?_of_present hw foreign present
  show (w.memberValue node).1 = _
  rw [memberValue_fst]
  cases hslice : Text.slice? (w.content node.file) part.label.span with
  | some text => exact Act.memberText_of_span? hspan hslice
  | none =>
      -- then the node has no span of its own: a text would stand there
      have hp : w.pinned? node = none := by
        refine Option.eq_none_iff_forall_ne_some.2 fun span hp => ?_
        unfold span? at hspan
        rw [hp, Option.some_or] at hspan
        rw [← Option.some.inj hspan, (h.pinned span hp).1] at hslice
        cases hslice
      unfold memberText resolve? observe
      rw [hp, hw.view, present]
      show (Text.slice? (w.content node.file) part.label.span).getD "" = _
      rw [hslice]

/-- An update of a node replaces the text at its span, which it answers with from then on. -/
theorem update_of_span? (hf : (w.project.document? node.file).isSome) {span : Span}
    (hspan : w.span? node = some span) {before middle after : String}
    (hparted : Text.Parted (w.content node.file) span before middle after) (text : String) :
    ∃ later, (Act.update (.member node) text).run w = (.ok (), later) ∧
      later.content node.file = before ++ text ++ after ∧
      (∀ other, other ≠ node.file →
        later.project.document? other = w.project.document? other) ∧
      (later.value (.member node)).1 = text := by
  obtain ⟨outcome, changed, happly, hcontent⟩ :=
    @Document.apply_replacing_of_parted (w.document node.file) _ _ _ _ hparted text
  obtain ⟨hasked, hproject, -, -⟩ := Act.span?_eq node w
  have hrun := Act.updateMember_run node text w
  rw [hspan] at hasked
  generalize Act.span? node w = result at hasked hproject hrun
  obtain ⟨found, v⟩ := result
  obtain rfl : found = some span := hasked
  have hproject : v.project = w.project := hproject
  simp only [document_of_project hproject, happly] at hrun
  refine ⟨_, hrun, ?_, fun other ho => ?_, Act.value_of_updateMember hf hrun⟩
  · rw [← hcontent]
    exact congrArg Document.content (document_of_setDocument (w := v) (hproject ▸ hf) rfl)
  · show (v.project.setDocument node.file changed).document? other = _
    rw [Project.document?_setDocument, if_neg ho, hproject]

end Workspace

end TreeQuery
