/-
What moves a pin.

A node in a view that writes pins the span it has written, with the generation that the file has
then. The pin is moved by nothing else, and the update need not be one of the node itself: an
occurrence is written by an update of what it was found in, and so on down to the node in the view,
which is written last. So a step does one of two things to a node (`Workspace.Repinned`). It leaves
the pin where it is, and takes no note of the node's writing (`Leaves`). Or the node writes some
text at the span it has, and pins the span of that text, and the last note tells so (`Repins`); and
then either nothing has changed, and the span is the one it had, or the next generation has been
made.

For an update this is `Act.repinned_update`, by induction on what the updated node was found in.
The questions on the way, and what becomes of the occurrences, make no difference
(`Repinned.around`).

# The last generation made

What a node has made last, and which span it has written then, is no matter of the workspace but of
the run so far. `Workspace.Tracks` ties the two together, and each step keeps it (`Tracks.leaves`,
`Tracks.repins`): the pin of a present generation is the last one made, or is the span of the
node's member.
-/
import TreeQuery.Proofs.Workspace.Asking
import TreeQuery.Proofs.Workspace.Remembering

namespace TreeQuery

open Text (Span)

variable {grammars : Grammars}

namespace Workspace

variable {w later : Workspace grammars} {notes more : List Note} {node : MemberNode}

theorem pin_of_memories (h : later.memories = w.memories) (handle : Handle) :
    later.pin handle = w.pin handle := by
  unfold Workspace.pin
  rw [h]

/-- A step leaves the pin of a node as it is, and none of its notes tells of the node's writing. -/
def Leaves (w later : Workspace grammars) (notes : List Note) (node : MemberNode) : Prop :=
  later.pin node.handle = w.pin node.handle ∧
    ∀ note ∈ notes, note.handle = node.handle → note.made = none

/-- In a step a node has written a text at the span it had, pins the span of that text, and the
last note tells so. Either nothing has changed by that, or the next generation has been made. -/
structure Repins (w later : Workspace grammars) (notes : List Note) (node : MemberNode)
    (span : Span) (text : String) : Prop where
  present : (w.project.document? node.file).isSome = true
  stood : w.span? node = some span
  pin : later.pin node.handle = some ((later.document node.file).generation,
    ⟨span.start, span.start + text.utf8ByteSize⟩)
  told : ∃ earlier, (∀ note ∈ earlier, note.made = none) ∧
    notes = earlier ++ [{ handle := node.handle, text, made := w.made later node.file }]
  outcome : later.document node.file = w.document node.file ∧
      (⟨span.start, span.start + text.utf8ByteSize⟩ : Span) = span ∨
    (later.document node.file).generation = (w.document node.file).generation.next

/-- A step does either of these. -/
def Repinned (w later : Workspace grammars) (notes : List Note) (node : MemberNode) : Prop :=
  w.Leaves later notes node ∨ ∃ span text, w.Repins later notes node span text

theorem leaves_of_memories (h : later.memories = w.memories) : w.Leaves later [] node :=
  ⟨pin_of_memories h node.handle, fun note hm => by cases hm⟩

theorem note_of_valueNotes {target : TextNode} :
    ∀ note ∈ w.valueNotes target, note.made = none := by
  intro note hm
  cases target with
  | member other => rw [List.mem_singleton.1 hm]
  | file path => cases hm
  | occurrence handle grammar context index born => cases hm
  | binding handle grammar context index born name => cases hm

/-- A question before the step and what an occurrence is after it make no difference. -/
theorem Repinned.around {v u : Workspace grammars} (h : v.Repinned u more node)
    (hn : node.born.pinned = none) (hv : w.Unmoved v) (hproject : later.project = u.project)
    (hmemories : later.memories = u.memories) (hnotes : ∀ note ∈ notes, note.made = none) :
    w.Repinned later (notes ++ more) node := by
  have hpin := pin_of_memories hmemories node.handle
  rcases h with ⟨hsame, hmore⟩ |
    ⟨span, text, hf, hspan, hpinned, ⟨earlier, hearlier, hlast⟩, hwhy⟩
  · refine .inl ⟨hpin.trans (hsame.trans (hv.pin _)), fun note hm hh => ?_⟩
    rcases List.mem_append.1 hm with hm | hm
    · exact hnotes note hm
    · exact hmore note hm hh
  · have hdocument := document_of_project hproject node.file
    refine .inr ⟨span, text, hv.project ▸ hf, (hv.span? hn) ▸ hspan, ?_,
      ⟨notes ++ earlier, fun note hm => ?_, ?_⟩, ?_⟩
    · rw [hpin, hdocument]
      exact hpinned
    · rcases List.mem_append.1 hm with hm | hm
      · exact hnotes note hm
      · exact hearlier note hm
    · rw [hlast, List.append_assoc]
      unfold Workspace.made
      rw [hdocument, hv.document]
    · rw [hdocument, ← hv.document]
      exact hwhy

end Workspace

namespace Act

open Workspace

variable {w : Workspace grammars} {node : MemberNode}

/-- A failed update of a node in a view is remembered by none. -/
theorem memories_of_updateMember {target : MemberNode} {text : String} {e : NodeError}
    {later : Workspace grammars} (h : (updateMember target text).run w = (.error e, later)) :
    later.memories = w.memories := by
  rw [updateMember_run] at h
  obtain ⟨-, -, hmemories, -⟩ := span?_eq target w
  generalize span? target w = result at h hmemories
  obtain ⟨found, v⟩ := result
  cases found with
  | none =>
      obtain rfl := (Prod.mk.inj h).2
      exact hmemories
  | some span =>
      simp only at h
      split at h
      · obtain rfl := (Prod.mk.inj h).2
        exact hmemories
      · cases (Prod.mk.inj h).1

theorem repinned_updateMember (hn : node.born.pinned = none) {target : MemberNode}
    (hf : (w.project.document? target.file).isSome = true)
    (sole : target.handle = node.handle → target = node) (text : String) :
    w.Repinned ((updateMember target text).run w).2 (w.memberNotes target text) node := by
  unfold memberNotes
  cases hrun : (updateMember target text).run w with
  | mk result later =>
      cases result with
      | error e =>
          exact .inl (leaves_of_memories (memories_of_updateMember hrun))
      | ok _ =>
          obtain ⟨span, outcome, changed, hspan, happly, -, hdocument, hmemories⟩ :=
            updateMember_effect hf hrun
          have hpin := congrArg Memory.pinned (hmemories node)
          rw [memory_pinned hn] at hpin
          by_cases he : target.handle = node.handle
          · obtain rfl := sole he
            rw [if_pos rfl] at hpin
            simp only [← hdocument] at hpin
            refine .inr ⟨span, text, hf, hspan, hpin, ⟨[], fun note hm => (by cases hm), rfl⟩, ?_⟩
            rw [hdocument]
            exact Document.unchanged_or_next happly
          · rw [if_neg (Ne.symm he)] at hpin
            refine .inl ⟨hpin.trans (memory_pinned hn), fun note hm hh => ?_⟩
            rw [List.mem_singleton.1 hm] at hh
            exact absurd hh he

theorem repinned_updateOccurrence (hn : node.born.pinned = none) {handle : Handle}
    {grammar : Microgrammar} {context : TextNode} {born : Occurrence} {address : String}
    {updateContext : String → ExceptT NodeError (Act grammars) Unit}
    {contextNotes : String → Workspace grammars → List Note} (hcontext : context.Genuine)
    (hf : (w.project.document? context.owner).isSome = true)
    (hupdate : ∀ (v : Workspace grammars) (changed : String),
      (v.project.document? context.owner).isSome = true →
        v.Repinned ((updateContext changed).run v).2 (contextNotes changed v) node)
    (text : String) :
    w.Repinned ((updateOccurrence handle grammar context born address updateContext text).run w).2
      (occurrenceNotes handle grammar context born contextNotes text w) node := by
  have hmoved := (asks_value hcontext w).1
  have hv : (((w.value context).2).project.document? context.owner).isSome = true :=
    hmoved.project ▸ hf
  -- whatever fails or finds nothing to do, the context is only asked for its text
  have asked : ∀ {later : Workspace grammars}, later.memories = (w.value context).2.memories →
      later.project = (w.value context).2.project →
        w.Repinned later (w.valueNotes context ++ []) node := fun hm hp =>
    Repinned.around (.inl (leaves_of_memories rfl)) hn hmoved hp hm note_of_valueNotes
  have hcontext := fun changed => hupdate (w.value context).2 changed hv
  unfold occurrenceNotes
  rw [updateOccurrence_run]
  simp only
  cases grammar.locate? ((w.value context).2.found handle born) (w.value context).1 with
  | none => exact asked rfl rfl
  | some span =>
      simp only
      cases (Edit.replacing (w.value context).1 span text).apply (w.value context).1 with
      | error e => cases e <;> exact asked rfl rfl
      | ok outcome =>
          cases outcome with
          | alreadyApplied => exact asked rfl rfl
          | applied changed =>
              have hdone := hcontext changed
              simp only
              generalize (updateContext changed).run (w.value context).2 = result at hdone ⊢
              obtain ⟨result, u⟩ := result
              cases result with
              | error e => exact hdone.around hn hmoved rfl rfl note_of_valueNotes
              | ok _ => exact hdone.around hn hmoved rfl rfl note_of_valueNotes

/-- An update moves the pin of one node in a view at most, the one that it writes in the end. -/
theorem repinned_update (hn : node.born.pinned = none) {target : TextNode}
    (ht : target.Genuine) (hf : (w.project.document? target.owner).isSome = true)
    (sole : ∀ base ∈ target.base?, base.handle = node.handle → base = node) (text : String) :
    w.Repinned ((update target text).run w).2 (updateNotes target text w) node := by
  induction target generalizing w text with
  | file path => exact .inl (leaves_of_memories rfl)
  | member target => exact repinned_updateMember hn hf (sole target rfl) text
  | occurrence handle grammar context index born ih =>
      exact repinned_updateOccurrence hn ht.1 hf (fun v changed hv => ih ht.1 hv sole changed) text
  | binding handle grammar context index born name ih =>
      unfold update updateNotes
      rw [run_get_bind]
      simp only
      cases ((w.found handle born).captures.lookup name).bind
          (Text.splice? (w.found handle born).text · text) with
      | none => exact .inl (leaves_of_memories rfl)
      | some spliced =>
          exact repinned_updateOccurrence hn ht.1 hf
            (fun v changed hv => ih ht.1 hv sole changed) spliced

end Act

-- ============================================ the last generation made

/-- The generation that the notes of a step say the node has made, with the span it has written. -/
def Workspace.writtenBy (w : Workspace grammars) (node : MemberNode) (notes : List Note) :
    Option (Generation × Span) :=
  notes.findSome? fun note =>
    if note.handle = node.handle then do
      let generation ← note.made
      let span ← w.span? node
      return (generation, ⟨span.start, span.start + note.text.utf8ByteSize⟩)
    else none

namespace Workspace

variable {w later : Workspace grammars} {notes : List Note} {node : MemberNode}
  {last : Option (Generation × Span)}

theorem Leaves.writtenBy (h : w.Leaves later notes node) : w.writtenBy node notes = none := by
  refine List.findSome?_eq_none_iff.2 fun note hm => ?_
  by_cases he : note.handle = node.handle
  · rw [if_pos he, h.2 note hm he]
    rfl
  · rw [if_neg he]

theorem Repins.writtenBy {span : Span} {text : String}
    (h : w.Repins later notes node span text) :
    w.writtenBy node notes = (w.made later node.file).map fun generation =>
      (generation, ⟨span.start, span.start + text.utf8ByteSize⟩) := by
  obtain ⟨earlier, hearlier, hnotes⟩ := h.told
  have hnone : (earlier.findSome? fun note =>
      if note.handle = node.handle then do
        let generation ← note.made
        let span ← w.span? node
        return (generation, ⟨span.start, span.start + note.text.utf8ByteSize⟩)
      else (none : Option (Generation × Span))) = none := by
    refine List.findSome?_eq_none_iff.2 fun note hm => ?_
    rw [hearlier note hm]
    split
    · rfl
    · rfl
  unfold Workspace.writtenBy
  rw [hnotes, List.findSome?_append, hnone, Option.none_or, List.findSome?_singleton, if_pos rfl,
    h.stood]
  cases w.made later node.file with
  | none => rfl
  | some generation => rfl

/-- What the node has pinned goes with what it has made last, in the run so far. -/
structure Tracks (w : Workspace grammars) (node : MemberNode)
    (last : Option (Generation × Span)) : Prop where
  past : ∀ generation span, w.pin node.handle = some (generation, span) →
    generation ≤ (w.document node.file).generation
  made : ∀ generation span, last = some (generation, span) →
    generation ≤ (w.document node.file).generation ∧
      (generation = (w.document node.file).generation →
        w.pin node.handle = some (generation, span))
  pinned : ∀ span, w.pin node.handle = some ((w.document node.file).generation, span) →
    last = some ((w.document node.file).generation, span) ∨ w.Placed node span

theorem tracks_none (h : w.pin node.handle = none) : w.Tracks node none := by
  refine ⟨fun generation span hp => ?_, fun generation span hl => (by cases hl),
    fun span hp => ?_⟩
  · rw [h] at hp
    cases hp
  · rw [h] at hp
    cases hp

theorem placed_of_content (h : later.content node.file = w.content node.file) {span : Span} :
    later.Placed node span ↔ w.Placed node span := by
  unfold Placed
  rw [h]

/-- A step that leaves the pin where it is. -/
theorem Tracks.leaves (h : w.Tracks node last)
    (hpin : later.pin node.handle = w.pin node.handle)
    (hrevised : (w.document node.file).Revised (later.document node.file))
    (room : later.content node.file ≠ w.content node.file →
      (w.document node.file).generation < (w.document node.file).generation.next) :
    later.Tracks node last := by
  rcases hrevised with ⟨hcontent, hgeneration⟩ | ⟨hcontent, hgeneration⟩
  · refine ⟨fun generation span hp => ?_, fun generation span hl => ?_, fun span hp => ?_⟩
    · rw [hgeneration]
      exact h.past generation span (hpin ▸ hp)
    · rw [hgeneration, hpin]
      exact h.made generation span hl
    · rw [hpin, hgeneration] at hp
      rw [hgeneration, placed_of_content hcontent]
      exact h.pinned span hp
  · -- the generation has moved on, past that of the pin and what has been made
    have hlt := room hcontent
    rw [← hgeneration] at hlt
    refine ⟨fun generation span hp => ?_, fun generation span hl => ?_, fun span hp => ?_⟩
    · exact UInt64.le_of_lt (UInt64.lt_of_le_of_lt (h.past generation span (hpin ▸ hp)) hlt)
    · have hle := (h.made generation span hl).1
      refine ⟨UInt64.le_of_lt (UInt64.lt_of_le_of_lt hle hlt), fun he => ?_⟩
      exact absurd (he ▸ hle) (UInt64.not_le.2 hlt)
    · exact absurd (h.past _ span (hpin ▸ hp)) (UInt64.not_le.2 hlt)

/-- A step in which the node writes. -/
theorem Tracks.repins (h : w.Tracks node last) (hw : w.Coherent) (hn : node.born.pinned = none)
    {written : Span} {text : String} (hstep : w.Repins later notes node written text) :
    later.Tracks node ((w.writtenBy node notes).or last) := by
  have hpin := hstep.pin
  have hpast : ∀ generation span, later.pin node.handle = some (generation, span) →
      generation ≤ (later.document node.file).generation := by
    intro generation span hp
    rw [hpin] at hp
    rw [(Prod.mk.inj (Option.some.inj hp)).1]
    exact UInt64.le_refl _
  -- where the node stood before the step, as a pin or as its member
  have hstood : ∀ span, w.pin node.handle = some ((w.document node.file).generation, span) →
      span = written := by
    intro span hp
    have hspan := hstep.stood
    rw [← memory_pinned hn, ← pinned?_eq_some] at hp
    unfold Workspace.span? at hspan
    rw [hp, Option.some_or] at hspan
    exact Option.some.inj hspan
  rw [hstep.writtenBy]
  unfold Workspace.made
  rcases hstep.outcome with ⟨hsame, hspan⟩ | hnext
  · rw [hspan] at hpin
    rw [if_pos (congrArg Document.generation hsame), Option.map_none, Option.none_or]
    refine ⟨hpast, fun generation span hl => ?_, fun span hp => ?_⟩
    · obtain ⟨hle, hpinned⟩ := h.made generation span hl
      rw [hsame] at hpin ⊢
      refine ⟨hle, fun he => ?_⟩
      rw [hpin, he, hstood span (he ▸ hpinned he)]
    · rw [hpin] at hp
      obtain ⟨-, rfl⟩ := Prod.mk.inj (Option.some.inj hp)
      rw [hsame, placed_of_content (congrArg Document.content hsame)]
      have hspan := hstep.stood
      unfold Workspace.span? at hspan
      rcases Option.or_eq_some_iff.1 hspan with hp | ⟨-, hresolved⟩
      · exact h.pinned _ (memory_pinned hn ▸ pinned?_eq_some.1 hp)
      · unfold resolve? at hresolved
        rw [hw.view] at hresolved
        exact .inr hresolved
  · have hne : (later.document node.file).generation ≠ (w.document node.file).generation :=
      hnext ▸ Generation.next_ne _
    rw [if_neg hne, Option.map_some, Option.some_or]
    refine ⟨hpast, fun generation span hl => ?_, fun span hp => .inl ?_⟩
    · obtain ⟨rfl, rfl⟩ := Prod.mk.inj (Option.some.inj hl)
      exact ⟨UInt64.le_refl _, fun _ => hpin⟩
    · rw [← hpin, hp]

/-- A node that has made the present generation last has the span it has written then. -/
theorem Tracks.span?_of_last (h : w.Tracks node last) (hn : node.born.pinned = none)
    {span : Span} (hlast : last = some ((w.document node.file).generation, span)) :
    w.span? node = some span := by
  have hp : w.pinned? node = some span := by
    rw [pinned?_eq_some, memory_pinned hn]
    exact (h.made _ span hlast).2 rfl
  unfold Workspace.span?
  rw [hp, Option.some_or]

/-- Any other node has the span of its member, if the present view has it. -/
theorem Tracks.span?_of_present (h : w.Tracks node last) (hw : w.Coherent)
    (hn : node.born.pinned = none)
    (foreign : ∀ span, last ≠ some ((w.document node.file).generation, span)) {part : View}
    (present : (grammars.view node.language (w.content node.file)).at? node.location =
      some part) :
    w.span? node = some part.label.span := by
  unfold Workspace.span?
  cases hp : w.pinned? node with
  | none =>
      unfold resolve?
      rw [hw.view, present]
      rfl
  | some span =>
      rw [pinned?_eq_some, memory_pinned hn] at hp
      have hplaced := (h.pinned span hp).resolve_left (foreign span)
      unfold Placed at hplaced
      rw [present] at hplaced
      exact hplaced.symm

end Workspace

end TreeQuery
