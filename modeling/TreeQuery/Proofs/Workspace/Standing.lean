/-
Where a node stands in its file, and what an update makes of that.

`w.Stands node before text after` says that the text of the node's file is `before`, `text` and
`after`, and that the node knows so: a node in a view has the span of `text`, and an occurrence
has been seen at the place of its text in the text of its context, which stands in the file in
turn. No parser is asked for any of this.

So an update goes through, and the node stands between the same two texts afterwards
(`Stands.update`). The argument is by induction on the nesting. A node in a view pins the span it
has written, which is where the new text is. The recorded place of an occurrence is tried before
anything is scanned, so it is found there; the context, by induction, stands where it stood with
the new text in its own; and the occurrence is recorded at the place it has been written to,
whether or not its text is one of the grammar's.

Questions move nothing, so a node stands where it stood after any number of them
(`Stands.unmoved`).
-/
import TreeQuery.Proofs.Workspace.Asking
import TreeQuery.Proofs.Workspace.Remembering

namespace TreeQuery

open Text (Span Parted)

variable {grammars : Grammars}

namespace Workspace

variable {w later : Workspace grammars} {node : TextNode} {before text after : String}

/-- The node stands in its file between two texts: a file as a whole, a node in a view at its span,
and an occurrence at its recorded place in the text of its context. -/
inductive Stands (w : Workspace grammars) : TextNode → String → String → String → Prop
  | file {path : ProjectPath} {text : String} :
      (w.project.document? path).isSome = true → w.content path = text →
      Stands w (.file path) "" text ""
  | member {node : MemberNode} {span : Span} {before text after : String} :
      node.born.pinned = none → (w.project.document? node.file).isSome = true →
      w.span? node = some span → Parted (w.content node.file) span before text after →
      Stands w (.member node) before text after
  | occurrence {handle : Handle} {grammar : Microgrammar} {context : TextNode} {index : Nat}
      {born : Occurrence} {before whole after left text right : String} :
      Stands w context before whole after → handle ∉ context.handles →
      (w.found handle born).text = text →
      Parted whole (w.found handle born).span left text right →
      Stands w (.occurrence handle grammar context index born) (before ++ left) text
        (right ++ after)

namespace Stands

/-- The file's text is what stands before the node, the node's text and what stands after. -/
theorem content (h : w.Stands node before text after) :
    w.content node.owner = before ++ text ++ after := by
  induction h with
  | file _ htext =>
      rw [String.empty_append, String.append_empty]
      exact htext
  | member _ _ _ hparted => exact hparted.text
  | occurrence _ _ _ hparted ih =>
      refine ih.trans ?_
      rw [hparted.text]
      simp only [String.append_assoc]

theorem value (h : w.Stands node before text after) : (w.value node).1 = text := by
  cases h with
  | file _ htext => exact htext
  | occurrence _ _ htext _ => exact htext
  | @member node _ _ _ _ _ _ hspan hparted =>
      rw [show (w.value (.member node)).1 = w.memberText node from w.memberValue_fst node]
      exact Act.memberText_of_span? hspan (Text.slice?_eq_some_iff_parted.2 ⟨_, _, hparted⟩)

/-- To ask the node for its text moves nothing. -/
theorem unmoved_value (h : w.Stands node before text after) : w.Unmoved (w.value node).2 := by
  cases h with
  | file _ _ => exact .refl w
  | occurrence _ _ _ _ => exact .refl w
  | member hborn _ _ _ => exact unmoved_memberValue hborn

theorem unmoved (h : w.Stands node before text after) (hmoved : w.Unmoved later) :
    later.Stands node before text after := by
  induction h with
  | file hf htext => exact .file (hmoved.project ▸ hf) ((hmoved.content _).trans htext)
  | member hborn hf hspan hparted =>
      refine .member hborn (hmoved.project ▸ hf) ((hmoved.span? hborn).trans hspan) ?_
      rw [hmoved.content]
      exact hparted
  | @occurrence handle _ _ _ born _ _ _ _ _ _ _ hnew htext hparted ih =>
      have hfound := hmoved.found handle born
      exact .occurrence ih hnew (hfound ▸ htext) (hfound ▸ hparted)

end Stands

theorem found_setFound_of_ne (w : Workspace grammars) {handle other : Handle}
    (occurrence born : Occurrence) (hne : other ≠ handle) :
    (w.setFound handle occurrence).found other born = w.found other born := by
  show (List.lookup other ((handle, occurrence) :: _)).getD born = _
  rw [lookup_cons_filter, if_neg hne]
  rfl

/-- What an occurrence is does not matter to nodes that are not found in it. -/
theorem Stands.setFound (h : w.Stands node before text after) {handle : Handle}
    (occurrence : Occurrence) (hnew : handle ∉ node.handles) :
    (w.setFound handle occurrence).Stands node before text after := by
  induction h with
  | file hf htext => exact .file hf htext
  | member hborn hf hspan hparted => exact .member hborn hf hspan hparted
  | @occurrence other _ _ _ born _ _ _ _ _ _ _ hother htext hparted ih =>
      have hne : other ≠ handle := fun he => hnew (he ▸ List.mem_cons_self)
      have hcontext := fun hm => hnew (List.mem_cons_of_mem other hm)
      have hfound := w.found_setFound_of_ne occurrence born hne
      exact .occurrence (ih hcontext) hother (hfound ▸ htext) (hfound ▸ hparted)

/-- An occurrence whose context has a new text in its place, and which is recorded there. -/
theorem Stands.written {handle : Handle} {grammar : Microgrammar} {context : TextNode}
    {index : Nat} {born : Occurrence} {whole left right new : String} {span : Span}
    (hcontext : w.Stands context before (left ++ new ++ right) after)
    (hnew : handle ∉ context.handles) (hparted : Parted whole span left text right) :
    (w.setFound handle (grammar.written span.start new)).Stands
      (.occurrence handle grammar context index born) (before ++ left) new (right ++ after) := by
  have hfound := w.found_setFound handle (grammar.written span.start new) born
  refine .occurrence (hcontext.setFound _ hnew) hnew (by rw [hfound]; rfl) ?_
  rw [hfound, ← hparted.start]
  exact Parted.mk_append left new right

end Workspace

-- ============================================================= updates

namespace Act

open Workspace

variable {w : Workspace grammars} {before text after : String}

theorem stands_setContent {path : ProjectPath} (hf : (w.project.document? path).isSome = true)
    (new : String) :
    ∃ later, (update (.file path) new).run w = (.ok (), later) ∧
      later.Stands (.file path) "" new "" := by
  refine ⟨w.setDocument path ((w.document path).replaceAll new).2, rfl, .file ?_ ?_⟩
  · exact (Project.isSome_setDocument ..).trans hf
  · show ((w.setDocument path ((w.document path).replaceAll new).2).document path).content = new
    rw [document_setDocument, if_pos ⟨rfl, hf⟩, Document.content_replaceAll]

/-- A node in a view stands where it has written. -/
theorem stands_updateMember {node : MemberNode} {span : Span} (hborn : node.born.pinned = none)
    (hf : (w.project.document? node.file).isSome = true) (hspan : w.span? node = some span)
    (hparted : Parted (w.content node.file) span before text after) (new : String) :
    ∃ later, (update (.member node) new).run w = (.ok (), later) ∧
      later.Stands (.member node) before new after := by
  obtain ⟨later, hrun, hcontent, -⟩ := update_of_span? hf hspan hparted new
  obtain ⟨span', outcome, changed, hspan', -, hproject, hdocument, hmemories⟩ :=
    updateMember_effect hf hrun
  obtain rfl : span = span' := Option.some.inj (hspan.symm.trans hspan')
  have hpinned : later.pinned? node = some ⟨span.start, span.start + new.utf8ByteSize⟩ := by
    rw [pinned?_eq_some, hdocument, hmemories, if_pos rfl]
  have hpresent : (later.project.document? node.file).isSome = true := by
    rw [hproject, Project.isSome_setDocument]
    exact hf
  have hwritten : later.span? node = some ⟨span.start, span.start + new.utf8ByteSize⟩ := by
    unfold Workspace.span?
    rw [hpinned, Option.some_or]
  refine ⟨later, hrun, .member hborn hpresent hwritten ?_⟩
  rw [hcontent, ← hparted.start]
  exact Parted.mk_append before new after

/-- An occurrence that stands at its recorded place in its context is written there, if the context
can be written. -/
theorem stands_updateOccurrence {handle : Handle} {grammar : Microgrammar} {context : TextNode}
    {index : Nat} {born : Occurrence} {address whole left right : String}
    {updateContext : String → ExceptT NodeError (Act grammars) Unit}
    (hcontext : w.Stands context before whole after) (hnew : handle ∉ context.handles)
    (htext : (w.found handle born).text = text)
    (hparted : Parted whole (w.found handle born).span left text right)
    (hupdate : ∀ (v : Workspace grammars) (changed : String),
      v.Stands context before whole after →
        ∃ later, (updateContext changed).run v = (.ok (), later) ∧
          later.Stands context before changed after)
    (new : String) :
    ∃ later, (updateOccurrence handle grammar context born address updateContext new).run w =
        (.ok (), later) ∧
      later.Stands (.occurrence handle grammar context index born) (before ++ left) new
        (right ++ after) := by
  have hmoved := hcontext.unmoved_value
  have hstands := hcontext.unmoved hmoved
  rw [updateOccurrence_run, hcontext.value, hmoved.found]
  generalize (w.value context).2 = v at hstands ⊢
  have hlocated : grammar.locate? (w.found handle born) whole =
      some (w.found handle born).span := by
    unfold Microgrammar.locate?
    rw [Text.slice?_eq_some_iff_parted.2 ⟨left, right, hparted⟩, htext, if_pos rfl]
  rw [hlocated]
  simp only [Edit.apply_replacing (Text.parted_iff.1 hparted), String.ofList_toList]
  by_cases hsame : text = new
  · rw [if_pos hsame]
    refine ⟨_, rfl, Stands.written ?_ hnew hparted⟩
    rw [← hsame, ← hparted.text]
    exact hstands
  · rw [if_neg hsame]
    have hchanged : String.ofList (left.toList ++ new.toList ++ right.toList) =
        left ++ new ++ right := by
      rw [← String.toList_append, ← String.toList_append, String.ofList_toList]
    obtain ⟨u, hrun, hu⟩ := hupdate v (left ++ new ++ right) hstands
    simp only [hchanged, hrun]
    exact ⟨_, rfl, hu.written hnew hparted⟩

end Act

/-- An update of a node that stands somewhere goes through, and the node stands there with its new
text. -/
theorem Workspace.Stands.update {w : Workspace grammars} {node : TextNode}
    {before text after : String} (h : w.Stands node before text after) (new : String) :
    ∃ later, (Act.update node new).run w = (.ok (), later) ∧
      later.Stands node before new after := by
  -- the context is updated in a later workspace than the one the occurrence was looked up in
  induction node generalizing w before text after new with
  | file path =>
      cases h with
      | file hf _ => exact Act.stands_setContent hf new
  | member node =>
      cases h with
      | member hborn hf hspan hparted => exact Act.stands_updateMember hborn hf hspan hparted new
  | occurrence handle grammar context index born ih =>
      cases h with
      | occurrence hcontext hnew htext hparted =>
          exact Act.stands_updateOccurrence hcontext hnew htext hparted
            (fun v changed hv => ih hv changed) new
  | binding handle grammar context index born name ih => cases h

end TreeQuery
