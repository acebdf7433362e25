/-
Reading what has just been written.

A file answers with its text, and so with what it was given. A node in a view remembers the span
it has written and the generation that made, and nothing has changed since; what stands there is
the new text, even if the view has no such member any more. An occurrence remembers the text
itself.

A binding remembers nothing of its own. It is written by a splice of its occurrence's text, and
read from what the grammar captures in the result as a whole (`value_of_updateBinding`). That
is the new text if the grammar captures it where it was put. If the result is no occurrence any
more, nothing is captured, and the binding answers with the empty text, although the update has
succeeded and the file has the new text.
-/
import TreeQuery.Proofs.Workspace.Splicing

namespace TreeQuery

open Text (Span)

variable {grammars : Grammars}

-- ============================================================ splices

/-- What a splice has put into a text stands there. -/
theorem Text.slice?_of_splice? {text new result : String} {span : Span}
    (h : splice? text span new = some result) :
    slice? result ⟨span.start, span.start + new.utf8ByteSize⟩ = some new := by
  obtain ⟨before, middle, after, hcut, hresult⟩ := splice?_eq_some_iff.1 h
  refine slice?_eq_some_iff.2 ⟨before, after, cut?_eq_some_iff.2 ⟨hresult, ?_, ?_⟩⟩
  · exact (cut?_eq_some_iff.1 hcut).2.1
  · rw [(cut?_eq_some_iff.1 hcut).2.1, byteLength_toList]

/-- What an edit has put into a document stands there, if it was there already too. -/
theorem Document.slice?_of_apply_replacing {document changed : Document} {span : Span}
    {text : String} {outcome : EditOutcome}
    (h : document.apply (.replacing document.content span text) = .ok (outcome, changed)) :
    Text.slice? changed.content ⟨span.start, span.start + text.utf8ByteSize⟩ = some text := by
  unfold Document.apply at h
  cases hcut : Text.cut? document.content.toList span with
  | none =>
      rcases @Edit.apply_replacing_of_none _ text _ hcut with he | he
      · rw [he] at h
        cases h
      · rw [he] at h
        cases h
  | some parts =>
      obtain ⟨before, middle, after⟩ := parts
      have hsplice := Text.slice?_of_splice? (@Text.splice?_of_cut? _ text _ _ _ _ hcut)
      rw [Edit.apply_replacing hcut] at h
      by_cases he : String.ofList middle = text
      · rw [if_pos he] at h
        obtain ⟨-, rfl⟩ := Prod.mk.inj (Except.ok.inj h)
        rw [← he, String.toList_ofList, ← (Text.cut?_eq_some_iff.1 hcut).1,
          String.ofList_toList] at hsplice
        rw [← he]
        exact hsplice
      · rw [if_neg he] at h
        obtain ⟨-, rfl⟩ := Prod.mk.inj (Except.ok.inj h)
        exact hsplice

namespace Workspace

theorem found_setFound (w : Workspace grammars) (handle : Handle) (occurrence born : Occurrence) :
    (w.setFound handle occurrence).found handle born = occurrence := by
  show (List.lookup handle ((handle, occurrence) :: _)).getD born = occurrence
  rw [List.lookup_cons_self, Option.getD_some]

end Workspace

namespace Act

open Workspace

variable {w later : Workspace grammars} {text : String}

-- ================================================ one kind at a time

theorem value_of_setContent {path : ProjectPath} (hf : (w.project.document? path).isSome)
    (h : (update (.file path) text).run w = (.ok (), later)) :
    (later.value (.file path)).1 = text := by
  obtain rfl := (Prod.mk.inj h).2
  show ((w.setDocument path ((w.document path).replaceAll text).2).document path).content = text
  rw [document_setDocument, if_pos ⟨rfl, hf⟩, Document.content_replaceAll]

/-- What an update of a node in a view goes by, and what it leaves: the span the node has, an edited
document, and what the node remembers of the edit. -/
theorem updateMember_ok {node : MemberNode}
    (h : (updateMember node text).run w = (.ok (), later)) :
    ∃ (v : Workspace grammars) (span : Span) (outcome : EditOutcome) (changed : Document),
      w.span? node = some span ∧ v.project = w.project ∧ v.memories = w.memories ∧
      (w.document node.file).apply (.replacing (w.content node.file) span text) =
        .ok (outcome, changed) ∧
      later = (v.setDocument node.file changed).remember node
        { v.memory node with
          text
          pinned := some (changed.generation,
            ⟨span.start, span.start + text.utf8ByteSize⟩) } := by
  rw [updateMember_run] at h
  obtain ⟨hspan, hproject, hmemories, -⟩ := span?_eq node w
  generalize span? node w = result at h hspan hproject hmemories
  obtain ⟨found, v⟩ := result
  have hdocument : v.document node.file = w.document node.file :=
    document_of_project hproject node.file
  cases found with
  | none => cases (Prod.mk.inj h).1
  | some span =>
      simp only [hdocument] at h
      cases happly : (w.document node.file).apply
          (.replacing (w.content node.file) span text) with
      | error e =>
          rw [show (w.document node.file).content = w.content node.file from rfl, happly] at h
          cases (Prod.mk.inj h).1
      | ok result =>
          obtain ⟨outcome, changed⟩ := result
          rw [show (w.document node.file).content = w.content node.file from rfl, happly] at h
          exact ⟨v, span, outcome, changed, hspan.symm, hproject, hmemories, happly,
            (Prod.mk.inj h).2.symm⟩

/-- What that comes to: the file has the edited document, the node remembers the text and pins its
span, and the others remember what they did. -/
theorem updateMember_effect {node : MemberNode} (hf : (w.project.document? node.file).isSome)
    (h : (updateMember node text).run w = (.ok (), later)) :
    ∃ (span : Span) (outcome : EditOutcome) (changed : Document),
      w.span? node = some span ∧
      (w.document node.file).apply (.replacing (w.content node.file) span text) =
        .ok (outcome, changed) ∧
      later.project = w.project.setDocument node.file changed ∧
      later.document node.file = changed ∧
      ∀ other : MemberNode, later.memory other = if other.handle = node.handle
        then { w.memory node with
          text
          pinned := some (changed.generation, ⟨span.start, span.start + text.utf8ByteSize⟩) }
        else w.memory other := by
  obtain ⟨v, span, outcome, changed, hspan, hproject, hmemories, happly, rfl⟩ := updateMember_ok h
  have hlater : (v.setDocument node.file changed).project =
      w.project.setDocument node.file changed := by
    rw [← hproject]
    rfl
  refine ⟨span, outcome, changed, hspan, happly, hlater, document_of_setDocument hf hlater,
    fun other => ?_⟩
  rw [memory_remember, ← memory_eq hmemories, ← memory_eq hmemories]
  rfl

theorem value_of_updateMember {node : MemberNode} (hf : (w.project.document? node.file).isSome)
    (h : (update (.member node) text).run w = (.ok (), later)) :
    (later.value (.member node)).1 = text := by
  obtain ⟨span, outcome, changed, -, happly, -, hdocument, hmemory⟩ := updateMember_effect hf h
  -- The pin is of the generation the document has been left with.
  have hslice : Text.slice? (later.content node.file)
      ⟨span.start, span.start + text.utf8ByteSize⟩ = some text := by
    unfold Workspace.content
    rw [hdocument]
    exact Document.slice?_of_apply_replacing happly
  have hspan : later.span? node = some ⟨span.start, span.start + text.utf8ByteSize⟩ := by
    unfold Workspace.span? Workspace.pinned?
    rw [hdocument, hmemory, if_pos rfl]
    simp only [if_true, Option.some_or]
  exact (later.memberValue_fst node).trans (memberText_of_span? hspan hslice)

/-- What is remembered of an occurrence that has been updated. -/
theorem found_of_updateOccurrence {handle : Handle} {grammar : Microgrammar}
    {context : TextNode} {born : Occurrence} {address : String}
    {updateContext : String → ExceptT NodeError (Act grammars) Unit}
    (h : (updateOccurrence handle grammar context born address updateContext text).run w =
      (.ok (), later)) :
    ∃ start, later.found handle born = grammar.written start text := by
  rw [updateOccurrence_run] at h
  generalize w.value context = result at h
  obtain ⟨whole, v⟩ := result
  simp only at h
  cases hloc : grammar.locate? (v.found handle born) whole with
  | none =>
      rw [hloc] at h
      cases (Prod.mk.inj h).1
  | some span =>
      simp only [hloc] at h
      cases happly : (Edit.replacing whole span text).apply whole with
      | error e =>
          rw [happly] at h
          cases e <;> cases (Prod.mk.inj h).1
      | ok outcome =>
          rw [happly] at h
          cases outcome with
          | alreadyApplied =>
              obtain rfl := (Prod.mk.inj h).2
              exact ⟨_, found_setFound _ _ _ _⟩
          | applied changed =>
              simp only at h
              generalize (updateContext changed).run v = outcome at h
              obtain ⟨result, u⟩ := outcome
              cases result with
              | error e => cases (Prod.mk.inj h).1
              | ok _ =>
                  obtain rfl := (Prod.mk.inj h).2
                  exact ⟨_, found_setFound _ _ _ _⟩

theorem value_of_updateBinding {handle : Handle} {grammar : Microgrammar} {context : TextNode}
    {index : Nat} {born : Occurrence} {name : String}
    (h : (update (.binding handle grammar context index born name) text).run w =
      (.ok (), later)) :
    ∃ span spliced, (w.found handle born).captures.lookup name = some span ∧
      Text.splice? (w.found handle born).text span text = some spliced ∧
      (later.value (.binding handle grammar context index born name)).1 =
        (((grammar.parseExact spliced).bind (·.lookup name)).bind
          (Text.slice? spliced)).getD "" := by
  unfold update at h
  rw [run_get_bind] at h
  simp only at h
  cases hsplice : ((w.found handle born).captures.lookup name).bind
      (Text.splice? (w.found handle born).text · text) with
  | none =>
      rw [hsplice] at h
      cases (Prod.mk.inj h).1
  | some spliced =>
      simp only [hsplice] at h
      obtain ⟨span, hlookup, hspliced⟩ := Option.bind_eq_some_iff.1 hsplice
      obtain ⟨start, hfound⟩ := found_of_updateOccurrence h
      refine ⟨span, spliced, hlookup, hspliced, ?_⟩
      show ((later.found handle born).capture? name).getD "" = _
      rw [hfound]
      unfold Occurrence.capture? Microgrammar.written
      cases grammar.parseExact spliced with
      | none => rfl
      | some captures => rfl

end Act

end TreeQuery
