/-
Where nodes in views say they are, and why that is never out of date.

A node works out its line and column once and keeps them under the generation of its file. The
span they belong to is not a matter of the text alone: a node that writes pins the span it has
written. So what has been kept is right only if a node's span stays the same while the generation
does. It does: an update that changes nothing pins the span the node had anyway, and one that
changes something makes a new generation.

# The law

`Workspace.Places` says so of one node. Its span goes by the pin and the member of the present view
(`standing`), and what is kept of its extent, if it bears the present generation, is the extent of
that span. Beside that, whatever generation the node has made, the pin is no older; so a node that
has made the present generation has a span (`Places.pinned?_of_made`).
-/
import TreeQuery.Proofs.Workspace.Remembering

namespace TreeQuery

open Text (Span)

variable {grammars : Grammars}

namespace Workspace

variable {w later : Workspace grammars} {notes more : List Note} {node : MemberNode}

-- ================================================================ law

/-- Where the node stands by the present text and by what it remembers, whatever views are held. -/
def standing (w : Workspace grammars) (node : MemberNode) : Option Span :=
  (w.pinned? node).or
    (((grammars.view node.language (w.content node.file)).at? node.location).map (·.label.span))

theorem Coherent.span? (hw : w.Coherent) (node : MemberNode) : w.span? node = w.standing node := by
  unfold Workspace.span? resolve? standing
  rw [hw.view]

/-- A pin is no newer than the text and no older than what the node has made; and the extent kept
for the present generation is that of the node's span. -/
structure Places (w : Workspace grammars) (notes : List Note) (node : MemberNode) : Prop where
  past : ∀ generation span, (w.memory node).pinned = some (generation, span) →
    generation ≤ (w.document node.file).generation
  made : ∀ generation, MadeBy notes node generation → ∃ last span,
    (w.memory node).pinned = some (last, span) ∧ generation ≤ last
  extent : (w.memory node).extent.Sound (w.document node.file).generation fun extent =>
    ∀ span, w.standing node = some span → extent = .ofSpan (w.content node.file) span

theorem places_born {member : Member} (hmemory : w.memory node = node.born)
    (hborn : node.born = w.observe node.file member)
    (hnotes : ∀ note ∈ notes, note.handle ≠ node.handle) : w.Places notes node := by
  rw [hborn] at hmemory
  refine ⟨fun generation span hp => ?_, fun generation hmade => ?_, ?_⟩
  · rw [hmemory] at hp
    cases hp
  · obtain ⟨note, hm, hhandle, -⟩ := hmade
    exact absurd hhandle (hnotes note hm)
  · rw [hmemory]
    exact Slot.sound_empty

theorem standing_congr (hcontent : later.content node.file = w.content node.file)
    (hpinned : later.pinned? node = w.pinned? node) : later.standing node = w.standing node := by
  unfold standing
  rw [hcontent, hpinned]

/-- The law lasts as long as the file keeps its text and the node its pin, and more notes of the
node tell of no writing. -/
theorem Places.still (h : w.Places notes node)
    (hdocument : (later.document node.file).content = (w.document node.file).content ∧
      (later.document node.file).generation = (w.document node.file).generation)
    (hpinned : (later.memory node).pinned = (w.memory node).pinned)
    (hextent : (later.memory node).extent.Sound (later.document node.file).generation
      fun extent => ∀ span, later.standing node = some span →
        extent = .ofSpan (later.content node.file) span)
    (hmade : ∀ generation, MadeBy more node generation → MadeBy notes node generation) :
    later.Places more node := by
  refine ⟨fun generation span hp => ?_, fun generation hm => ?_, hextent⟩
  · rw [hdocument.2]
    exact h.past generation span (hpinned ▸ hp)
  · rw [hpinned]
    exact h.made generation (hmade generation hm)

/-- What is kept of the extent lasts with the text, the pin and itself. -/
theorem Places.extent_still (h : w.Places notes node)
    (hdocument : (later.document node.file).content = (w.document node.file).content ∧
      (later.document node.file).generation = (w.document node.file).generation)
    (hpinned : (later.memory node).pinned = (w.memory node).pinned)
    (hextent : (later.memory node).extent = (w.memory node).extent) :
    (later.memory node).extent.Sound (later.document node.file).generation fun extent =>
      ∀ span, later.standing node = some span →
        extent = .ofSpan (later.content node.file) span := by
  have hpin : later.pinned? node = w.pinned? node := by
    unfold pinned?
    rw [hpinned, hdocument.2]
  rw [hextent, hdocument.2, standing_congr hdocument.1 hpin,
    show later.content node.file = w.content node.file from hdocument.1]
  exact h.extent

theorem MadeBy.of_append (h : ∀ note ∈ more, note.handle ≠ node.handle ∨ note.made = none)
    {generation : Generation} (hm : MadeBy (notes ++ more) node generation) :
    MadeBy notes node generation := by
  obtain ⟨note, hnote, hhandle, hmade⟩ := hm
  rcases List.mem_append.1 hnote with hnote | hnote
  · exact ⟨note, hnote, hhandle, hmade⟩
  · rcases h note hnote with hne | hnone
    · exact absurd hhandle hne
    · rw [hnone] at hmade
      cases hmade

/-- What the node has made is an old generation, or that of the last note. -/
theorem MadeBy.of_concat {note : Note} {generation : Generation}
    (hm : MadeBy (notes ++ [note]) node generation) :
    MadeBy notes node generation ∨ note.made = some generation := by
  obtain ⟨other, hother, hhandle, hmade⟩ := hm
  rcases List.mem_append.1 hother with hother | hother
  · exact .inl ⟨other, hother, hhandle, hmade⟩
  · exact .inr (List.mem_singleton.1 hother ▸ hmade)

/-- A node has made no generation after that of the text. -/
theorem Places.le_of_made (h : w.Places notes node) {generation : Generation}
    (hmade : MadeBy notes node generation) : generation ≤ (w.document node.file).generation := by
  obtain ⟨last, span, hlast, hle⟩ := h.made generation hmade
  exact UInt64.le_trans hle (h.past last span hlast)

theorem Places.elsewhere (h : w.Places notes node) (hmemory : later.memory node = w.memory node)
    (hrevised : (w.document node.file).Revised (later.document node.file))
    (room : later.content node.file ≠ w.content node.file →
      (w.document node.file).generation < (w.document node.file).generation.next)
    (hmore : ∀ note ∈ more, note.handle ≠ node.handle) :
    later.Places (notes ++ more) node := by
  have hmade : ∀ generation, MadeBy (notes ++ more) node generation →
      MadeBy notes node generation :=
    fun generation => MadeBy.of_append fun note hm => .inl (hmore note hm)
  rcases hrevised with hsame | ⟨hcontent, hgeneration⟩
  · exact h.still hsame (by rw [hmemory])
      (h.extent_still hsame (by rw [hmemory]) (by rw [hmemory])) hmade
  · -- whatever bears the old generation no longer matters
    have hlt := room hcontent
    refine ⟨fun generation span hp => ?_, fun generation hm => ?_, ?_⟩
    · rw [hgeneration]
      exact UInt64.le_of_lt (UInt64.lt_of_le_of_lt (h.past generation span (hmemory ▸ hp)) hlt)
    · rw [hmemory]
      exact h.made generation (hmade generation hm)
    · rw [hmemory, hgeneration]
      exact h.extent.later hlt _

/-- A question for the text leaves the pin and the extent as they are. -/
theorem fields_memberValue (w : Workspace grammars) (node : MemberNode) :
    ((w.memberValue node).2.memory node).pinned = (w.memory node).pinned ∧
      ((w.memberValue node).2.memory node).extent = (w.memory node).extent := by
  have hheld := memory_eq (w.holdView_fields node.file node.language).2.1 node
  unfold memberValue
  cases (w.pinned? node).bind (w.document node.file).slice? with
  | some text => exact ⟨rfl, rfl⟩
  | none =>
      simp only
      cases (w.holdView node.file node.language).resolve? node with
      | none => rw [hheld]; exact ⟨rfl, rfl⟩
      | some tree =>
          simp only
          rw [memory_remember, if_pos rfl, hheld]
          exact ⟨rfl, rfl⟩

theorem Places.value (h : w.Places notes node) :
    (w.memberValue node).2.Places (notes ++ w.valueNotes (.member node)) node := by
  obtain ⟨hpinned, hextent⟩ := w.fields_memberValue node
  have hdocument : (w.memberValue node).2.document node.file = w.document node.file :=
    document_of_project (w.value_fields (.member node)).1 node.file
  have hsame : ((w.memberValue node).2.document node.file).content =
      (w.document node.file).content ∧ ((w.memberValue node).2.document node.file).generation =
        (w.document node.file).generation := by
    rw [hdocument]
    exact ⟨rfl, rfl⟩
  refine h.still hsame hpinned (h.extent_still hsame hpinned hextent) fun generation =>
    MadeBy.of_append fun note hm => .inr ?_
  rw [List.mem_singleton.1 hm]

end Workspace

-- ============================================================= extents

/-- What a node answers when it is asked where it is: the extent kept for the present generation,
or that of its span, which is then kept. -/
theorem Act.memberExtent_run (node : MemberNode) (w : Workspace grammars) :
    memberExtent node w =
      match (w.memory node).extent.get? (w.document node.file).generation with
      | some extent => (extent, w)
      | none =>
        let extent := Layout.Extent.ofSpan (w.content node.file)
          ((w.span? node).getD (w.memory node).member.span)
        (extent, (span? node w).2.remember node
          { (span? node w).2.memory node with
            extent := .put (w.document node.file).generation extent }) := by
  obtain ⟨hspan, hproject, hmemories, -⟩ := span?_eq node w
  have hbind : ∀ f : Option Span → Act grammars Layout.Extent,
      (span? node >>= f) w = f (span? node w).1 (span? node w).2 := fun _ => rfl
  unfold memberExtent
  rw [get_bind_apply, get_bind_apply]
  cases (w.memory node).extent.get? (w.document node.file).generation with
  | some extent => rfl
  | none =>
      simp only
      rw [hbind, hspan, get_bind_apply]
      show (Layout.Extent.ofSpan ((span? node w).2.content node.file)
        ((w.span? node).getD ((span? node w).2.memory node).member.span), _) = _
      rw [Workspace.content_of_project hproject, Workspace.memory_eq hmemories]

namespace Workspace

variable {w later : Workspace grammars} {notes more : List Note} {node : MemberNode}

theorem Places.extentLaw (h : w.Places notes node) (hw : w.Coherent) :
    (Act.memberExtent node w).2.Places notes node := by
  obtain ⟨-, hproject, hmemories, -⟩ := Act.span?_eq node w
  rw [Act.memberExtent_run]
  cases (w.memory node).extent.get? (w.document node.file).generation with
  | some extent => exact h
  | none =>
      have hdocument := document_of_project hproject node.file
      have hsame : ((Act.span? node w).2.document node.file).content =
          (w.document node.file).content ∧ ((Act.span? node w).2.document node.file).generation =
            (w.document node.file).generation := by
        rw [hdocument]
        exact ⟨rfl, rfl⟩
      have hmemory := memory_eq hmemories node
      simp only
      refine h.still hsame ?_ ?_ fun _ hm => hm
      · rw [memory_remember, if_pos rfl, hmemory]
      · rw [memory_remember, if_pos rfl]
        have hstanding : ∀ slot, ((Act.span? node w).2.remember node
            { (Act.span? node w).2.memory node with extent := slot }).standing node =
              w.standing node := fun slot =>
          standing_congr hsame.1
            (pinned?_congr node hproject (by rw [memory_remember, if_pos rfl, hmemory]))
        refine hsame.2 ▸ Slot.sound_put fun span hspan => ?_
        rw [hstanding, ← hw.span?] at hspan
        rw [hspan, Option.getD_some]
        exact congrArg (Layout.Extent.ofSpan · span) hsame.1.symm

/-- What the node answers is the extent of its span. -/
theorem Places.extent_of_span? (h : w.Places notes node) (hw : w.Coherent) {span : Span}
    (hspan : w.span? node = some span) :
    (Act.extent (.member node) w).1 = some (.ofSpan (w.content node.file) span) := by
  show some (Act.memberExtent node w).1 = _
  rw [Act.memberExtent_run]
  cases hheld : (w.memory node).extent.get? (w.document node.file).generation with
  | none =>
      simp only
      rw [hspan, Option.getD_some]
  | some extent => exact congrArg some (h.extent.get? hheld span (hw.span? node ▸ hspan))

/-- An edit that goes through leaves the generation as it is, or moves it on. -/
theorem generation_le_of_apply {document changed : Document} {span : Span} {text : String}
    {outcome : EditOutcome}
    (happly : document.apply (.replacing document.content span text) = .ok (outcome, changed))
    (room : changed.content ≠ document.content → document.generation < document.generation.next) :
    changed = document ∧ (⟨span.start, span.start + text.utf8ByteSize⟩ : Span) = span ∨
      changed.generation = document.generation.next ∧
        document.generation < changed.generation := by
  rcases Document.unchanged_or_next happly with hsame | hnext
  · exact .inl hsame
  · rcases Document.revised_apply happly with ⟨-, hsame⟩ | ⟨hcontent, -⟩
    · exact absurd (hnext.symm.trans hsame) (Generation.next_ne _)
    · exact .inr ⟨hnext, hnext ▸ room hcontent⟩

theorem Places.update (h : w.Places notes node) (hw : w.Coherent)
    (hf : (w.project.document? node.file).isSome) {text : String}
    (hrun : (Act.updateMember node text).run w = (.ok (), later)) (room : w.Room later) :
    later.Places (notes ++ w.memberNotes node text) node := by
  obtain ⟨span, outcome, changed, hspan, happly, -, hdocument, hmemories⟩ :=
    Act.updateMember_effect hf hrun
  have hmemory := (hmemories node).trans (if_pos rfl)
  rw [memberNotes_of_ok hrun]
  have hcontent : later.content node.file = changed.content := congrArg Document.content hdocument
  have hpinned : later.pinned? node = some ⟨span.start, span.start + text.utf8ByteSize⟩ := by
    rw [pinned?_eq_some, hdocument, hmemory]
  have hstanding : later.standing node = some ⟨span.start, span.start + text.utf8ByteSize⟩ := by
    unfold standing
    rw [hpinned, Option.some_or]
  have hpast : ∀ generation other, (later.memory node).pinned = some (generation, other) →
      generation ≤ (later.document node.file).generation := by
    intro generation other hp
    rw [hmemory] at hp
    obtain ⟨rfl, -⟩ := Prod.mk.inj (Option.some.inj hp)
    rw [hdocument]
    exact UInt64.le_refl _
  have hroom := room node.file
  rw [hcontent] at hroom
  rcases generation_le_of_apply happly hroom with ⟨rfl, hsame⟩ | ⟨hnext, hlt⟩
  · -- nothing has changed: the span is the one that the node had
    have hnone : w.made later node.file = none := by
      unfold Workspace.made
      rw [hdocument, if_pos rfl]
    refine ⟨hpast, fun generation hmade => ?_, ?_⟩
    · rw [hmemory]
      rcases MadeBy.of_concat hmade with hold | hnew
      · exact ⟨_, _, rfl, h.le_of_made hold⟩
      · cases hnone.symm.trans hnew
    · rw [hmemory, hdocument, hstanding, hsame, hcontent]
      rw [hw.span?] at hspan
      exact hspan ▸ h.extent
  · -- the next generation is the one that the node has made
    have hmadeNow : w.made later node.file = some changed.generation := by
      unfold Workspace.made
      rw [hdocument, if_neg (hnext ▸ Generation.next_ne _)]
    refine ⟨hpast, fun generation hmade => ?_, ?_⟩
    · rw [hmemory]
      rcases MadeBy.of_concat hmade with hold | hnew
      · exact ⟨_, _, rfl, UInt64.le_of_lt (UInt64.lt_of_le_of_lt (h.le_of_made hold) hlt)⟩
      · refine ⟨_, _, rfl, ?_⟩
        rw [hmadeNow] at hnew
        rw [Option.some.inj hnew]
        exact UInt64.le_refl _
    · rw [hmemory, hdocument]
      exact h.extent.later hlt _

/-- That nodes say where they are, as a law of all runs. -/
def placing : Law grammars where
  Holds := Workspace.Places
  born := places_born
  elsewhere := Places.elsewhere
  value _ h := h.value
  extent hw h := h.extentLaw hw
  update hw hf hrun room h := h.update hw hf hrun room

/-- A node that has made the present generation has the span it has pinned. -/
theorem Places.pinned?_of_made (h : w.Places notes node)
    (made : MadeBy notes node (w.document node.file).generation) :
    (w.pinned? node).isSome = true := by
  obtain ⟨last, span, hpinned, hle⟩ := h.made _ made
  have hlast : last = (w.document node.file).generation :=
    UInt64.le_antisymm (h.past last span hpinned) hle
  rw [pinned?_eq_some.2 (hlast ▸ hpinned)]
  rfl

end Workspace

end TreeQuery
