/-
What all sessions have in common that does not count changes: the nodes held have been found, and
what is recorded of occurrences captures ranges of their texts.

# Three kinds of actions

A question moves nothing and answers with genuine nodes (`Action.asks_run`). A change of a file as
a whole is remembered by no node (`Action.still_run`). What remains are updates, and they record
what has been written in the place of occurrences (`Act.sliceable_update`).

So what a session records is that of the scan or the exact match it came from, at any time
(`genuine_of_reached`).
-/
import TreeQuery.Proofs.Session.Basic
import TreeQuery.Proofs.Workspace.Asking

namespace TreeQuery

open Text (Span)

variable {grammars : Grammars} {w later : Workspace grammars}

-- ========================================================= occurrences

/-- What is recorded of occurrences captures ranges of their texts. -/
def Workspace.Sliceable (w : Workspace grammars) : Prop :=
  ∀ entry ∈ w.occurrences, entry.2.Sliceable

namespace Workspace

theorem Sliceable.found (h : w.Sliceable) {handle : Handle} {born : Occurrence}
    (hb : born.Sliceable) : (w.found handle born).Sliceable := by
  unfold Workspace.found
  cases hl : w.occurrences.lookup handle with
  | none => exact hb
  | some occurrence => exact h _ (mem_of_lookup_eq_some hl)

theorem Sliceable.of_occurrences (h : w.Sliceable) (he : later.occurrences = w.occurrences) :
    later.Sliceable := by
  unfold Workspace.Sliceable
  rw [he]
  exact h

theorem Sliceable.setFound (h : w.Sliceable) (handle : Handle) {occurrence : Occurrence}
    (ho : occurrence.Sliceable) : (w.setFound handle occurrence).Sliceable := by
  intro entry hm
  rcases List.mem_cons.1 hm with rfl | hm
  · exact ho
  · exact h entry (List.mem_filter.1 hm).1

end Workspace

namespace Act

open Workspace

/-- An update of a node in a view is no matter of occurrences. -/
theorem occurrences_updateMember (node : MemberNode) (text : String) (w : Workspace grammars) :
    ((updateMember node text).run w).2.occurrences = w.occurrences := by
  obtain ⟨-, -, -, hoccurrences⟩ := span?_eq node w
  rw [updateMember_run]
  generalize span? node w = result at hoccurrences ⊢
  obtain ⟨found, v⟩ := result
  cases found with
  | none => exact hoccurrences
  | some span =>
      simp only
      split
      · exact hoccurrences
      · exact hoccurrences

theorem sliceable_updateOccurrence {handle : Handle} {grammar : Microgrammar}
    {context : TextNode} {born : Occurrence} {address : String}
    {updateContext : String → ExceptT NodeError (Act grammars) Unit}
    (hupdate : ∀ (v : Workspace grammars) (changed : String), v.Sliceable →
      ((updateContext changed).run v).2.Sliceable) (h : w.Sliceable) (text : String) :
    ((updateOccurrence handle grammar context born address updateContext text).run
      w).2.Sliceable := by
  have hv : (w.value context).2.Sliceable := h.of_occurrences (w.value_fields context).2
  rw [updateOccurrence_run]
  cases grammar.locate? ((w.value context).2.found handle born) (w.value context).1 with
  | none => exact hv
  | some span =>
      simp only
      cases (Edit.replacing (w.value context).1 span text).apply (w.value context).1 with
      | error e => cases e <;> exact hv
      | ok outcome =>
          cases outcome with
          | alreadyApplied => exact hv.setFound handle (grammar.sliceable_written _ _)
          | applied changed =>
              have hu := hupdate _ changed hv
              simp only
              generalize (updateContext changed).run (w.value context).2 = result at hu ⊢
              obtain ⟨result, u⟩ := result
              cases result with
              | error e => exact hu
              | ok _ => exact Sliceable.setFound hu handle (grammar.sliceable_written _ _)

/-- What an update records captures ranges of the text it has written. -/
theorem sliceable_update (target : TextNode) (h : w.Sliceable) (text : String) :
    ((update target text).run w).2.Sliceable := by
  induction target generalizing w text with
  | file path => exact h
  | member node => exact h.of_occurrences (occurrences_updateMember node text w)
  | occurrence handle grammar context index born ih =>
      exact sliceable_updateOccurrence (fun v changed hv => ih hv changed) h text
  | binding handle grammar context index born name ih =>
      unfold update
      rw [run_get_bind]
      simp only
      cases ((w.found handle born).captures.lookup name).bind
          (Text.splice? (w.found handle born).text · text) with
      | none => exact h
      | some spliced =>
          exact sliceable_updateOccurrence (fun v changed hv => ih hv changed) h spliced

end Act

-- ============================================================= actions

namespace Action

open Act

/-- The action asks, and changes no text. -/
def isQuestion : Action → Bool
  | .addFile .. | .setContent .. | .replaceText .. | .applyEdit .. | .markClean _ | .update .. =>
    false
  | _ => true

theorem genuine_foundOr {ε : Type} {result : Except ε (List Node)}
    (h : ∀ nodes, result = .ok nodes → ∀ n ∈ nodes, n.Genuine) :
    ∀ n ∈ foundOr result, n.Genuine := by
  intro n hn
  cases result with
  | error e => cases hn
  | ok nodes => exact h nodes rfl n hn

/-- A question moves no node, and answers with genuine ones. -/
theorem asks_run {action : Action} (hq : action.isQuestion = true)
    (hs : ∀ node ∈ action.subject?, node.Genuine) :
    Asks (action.run : Act grammars (List Node)) fun nodes => ∀ n ∈ nodes, n.Genuine := by
  have nothing : ∀ n ∈ ([] : List Node), n.Genuine := fun n hn => by cases hn
  cases action with
  | addFile path content => cases hq
  | setContent file text => cases hq
  | replaceText file old new => cases hq
  | applyEdit file edit => cases hq
  | markClean file => cases hq
  | update node text => cases hq
  | look node => exact (asks_look node).bind fun _ _ => asks_pure nothing
  | value node => exact (asks_value (hs _ rfl)).bind fun _ _ => asks_pure nothing
  | extent node => exact (asks_extent (hs _ rfl)).bind fun _ _ => asks_pure nothing
  | children node => exact asks_children (hs _ rfl)
  | parent node =>
      exact (asks_parent? (hs _ rfl)).bind fun above ha => asks_pure fun n hn =>
        ha n (Option.mem_toList.1 hn)
  | ancestors node => exact asks_ancestorsWithin _ (hs _ rfl)
  | viewRoot file language =>
      refine (asks_viewRoot file language).bind fun root hroot => asks_pure fun n hn => ?_
      rw [List.mem_singleton.1 hn]
      exact hroot
  | find type node =>
      exact (asks_find type (hs _ rfl)).bind fun result h => asks_pure (genuine_foundOr h)
  | evaluate types dedupe expression root =>
      exact (Engine.asks_evaluate types dedupe expression (hs _ rfl)).bind fun result h =>
        asks_pure (genuine_foundOr h)

/-- A change of a file as a whole is remembered by no node. -/
theorem still_run {action : Action} (hq : action.isQuestion = false)
    (hu : ∀ target text, action ≠ .update target text) (w : Workspace grammars) :
    (action.run w).2.memories = w.memories ∧ (action.run w).2.occurrences = w.occurrences ∧
      ∀ n ∈ (action.run w).1, n.Genuine := by
  have nothing : ∀ n ∈ ([] : List Node), n.Genuine := fun n hn => by cases hn
  cases action with
  | addFile path content =>
      rw [run_addFile, addFile_run]
      cases w.project.add path content with
      | error e => exact ⟨rfl, rfl, nothing⟩
      | ok added =>
          refine ⟨rfl, rfl, fun n hn => ?_⟩
          rw [List.mem_singleton.1 hn]
          trivial
  | setContent file text => exact ⟨rfl, rfl, nothing⟩
  | replaceText file old new =>
      have hrun : (Action.run (.replaceText file old new) w).2 =
        (replaceInFile file old new w).2 := rfl
      rw [hrun]
      rcases replaceInFile_snd file old new w with h | ⟨text, h⟩
      · rw [h]
        exact ⟨rfl, rfl, nothing⟩
      · rw [h]
        exact ⟨rfl, rfl, nothing⟩
  | applyEdit file edit =>
      have hrun : (Action.run (.applyEdit file edit) w).2 = (Act.applyEdit file edit w).2 := rfl
      rw [hrun]
      unfold Act.applyEdit
      rw [get_bind_apply]
      cases (w.document file).apply edit with
      | error e => exact ⟨rfl, rfl, nothing⟩
      | ok answer => exact ⟨rfl, rfl, nothing⟩
  | markClean file => exact ⟨rfl, rfl, nothing⟩
  | update node text => exact absurd rfl (hu node text)
  | look node => cases hq
  | value node => cases hq
  | extent node => cases hq
  | children node => cases hq
  | parent node => cases hq
  | ancestors node => cases hq
  | viewRoot file language => cases hq
  | find type node => cases hq
  | evaluate types dedupe expression root => cases hq

end Action

-- ============================================================ sessions

namespace Session

variable {changes : ProjectPath → Nat} {s : Session grammars}

/-- The nodes held have been found, and what is recorded of occurrences captures ranges of their
texts. -/
structure Genuine (s : Session grammars) : Prop where
  nodes : ∀ node ∈ s.held, node.Genuine
  occurrences : s.workspace.Sliceable

theorem Genuine.step (h : s.Genuine) (action : Action)
    (subject : ∀ node ∈ action.subject?, node ∈ s.held) : (s.step action).Genuine := by
  have hsubject : ∀ node ∈ action.subject?, node.Genuine := fun node hn =>
    h.nodes node (subject node hn)
  have held : (∀ n ∈ (action.run s.workspace).1, n.Genuine) →
      ∀ n ∈ (s.step action).held, n.Genuine := fun hanswers =>
    List.forall_mem_append.2 ⟨h.nodes, hanswers⟩
  cases hq : action.isQuestion with
  | true =>
      obtain ⟨hmoved, hanswers⟩ := Action.asks_run hq hsubject s.workspace
      exact ⟨held hanswers, h.occurrences.of_occurrences hmoved.occurrences⟩
  | false =>
      by_cases hu : ∃ target text, action = .update target text
      · obtain ⟨target, text, rfl⟩ := hu
        exact ⟨held fun n hn => (by cases hn), Act.sliceable_update target h.occurrences text⟩
      · have hu : ∀ target text, action ≠ .update target text := fun target text he =>
          hu ⟨target, text, he⟩
        obtain ⟨-, hoccurrences, hanswers⟩ := Action.still_run hq hu s.workspace
        exact ⟨held hanswers, h.occurrences.of_occurrences hoccurrences⟩

theorem genuine_of_reached (hr : Reached changes s) : s.Genuine := by
  induction hr with
  | start name programs patterns =>
      refine ⟨fun node hn => ?_, fun entry hm => by cases hm⟩
      rw [List.mem_singleton.1 hn]
      trivial
  | step action _ subject ih => exact ih.step action subject

end Session

end TreeQuery
