/-
Writing an occurrence as it is.

An occurrence whose own text is written through its handle is looked for, and what stands there is
that text, so no document changes. But the occurrence is recorded anew, with the captures of its
text as a whole in place of those that the search has left. If the grammar asks for nothing beside
the characters it takes, these are the same (`Microgrammar.parseExact_of_mem_scan`), and nothing has
been altered (`unaltered_of_scanned`). Else they need not be: with the submatcher `\Bb` the letter
is found in `ab`, but its text as a whole is no occurrence, so that it captures nothing once it has
been written.
-/
import TreeQuery.Proofs.Microgrammar.Exact
import TreeQuery.Proofs.Session.Basic
import TreeQuery.Proofs.Workspace.Rereading

namespace TreeQuery

open Text (Span)

variable {grammars : Grammars} {w : Workspace grammars} {handle : Handle} {grammar : Microgrammar}
  {context : TextNode} {index : Nat} {born : Occurrence}

namespace Act

open Workspace

/-- Its own text is not written again, but the occurrence is recorded at its place. -/
theorem update_own
    (hexact : grammar.parseExact (w.found handle born).text = some (w.found handle born).captures) :
    (update (.occurrence handle grammar context index born) (w.found handle born).text).run w =
      match grammar.locate? (w.found handle born) (w.value context).1 with
      | none => (.error (.stale (TextNode.occurrenceAddress context.address grammar index)),
          (w.value context).2)
      | some span => (.ok (), (w.value context).2.setFound handle
          { w.found handle born with
            span := ⟨span.start, span.start + (w.found handle born).text.utf8ByteSize⟩ }) := by
  have hfound : (w.value context).2.found handle born = w.found handle born := by
    unfold Workspace.found
    rw [(w.value_fields context).2]
  unfold update
  rw [updateOccurrence_run, hfound]
  cases hlocate : grammar.locate? (w.found handle born) (w.value context).1 with
  | none => rfl
  | some span =>
      obtain ⟨before, after, hcut⟩ :=
        Text.slice?_eq_some_iff.1 (Microgrammar.slice?_of_locate? hlocate)
      dsimp only
      rw [Edit.apply_replacing hcut, if_pos String.ofList_toList]
      unfold Microgrammar.written
      rw [hexact]
      rfl

end Act

namespace Session

/-- A grammar that asks for nothing beside the characters it takes finds occurrences that are such
by themselves, with the same captures. To write one as it is, in whatever workspace it is held,
alters neither the project nor the occurrence's text, its captures or its children, whether it is
found again or not. -/
theorem unaltered_of_scanned {name written : String} {submatchers : List (String × String)}
    (h : Microgrammar.compile name written submatchers = .ok grammar)
    (free : grammar.inner.AssertionFree) {input : String} {found : Occurrence}
    (hfound : found ∈ grammar.scan input) :
    grammar.parseExact found.text = some found.captures ∧
      ∀ (w : Workspace grammars) (handle : Handle) (context : TextNode) (index : Nat)
        (born : Occurrence), w.found handle born = found →
        ∀ result later,
          (Act.update (.occurrence handle grammar context index born) found.text).run w =
            (result, later) →
          later.project = w.project ∧ (later.found handle born).text = found.text ∧
            (later.found handle born).captures = found.captures ∧
            (Act.children (.text (.occurrence handle grammar context index born)) later).1 =
              (Act.children (.text (.occurrence handle grammar context index born)) w).1 ∧
            (result = .ok () ↔ (grammar.locate? found (w.value context).1).isSome = true) := by
  have hexact := Microgrammar.parseExact_of_mem_scan h free hfound
  refine ⟨hexact, ?_⟩
  rintro w handle context index born rfl result later hrun
  rw [Act.update_own hexact] at hrun
  obtain ⟨hproject, hoccurrences⟩ := w.value_fields context
  have hsame : (w.value context).2.found handle born = w.found handle born := by
    unfold Workspace.found
    rw [hoccurrences]
  have hchildren : ∀ v : Workspace grammars,
      (v.found handle born).captures = (w.found handle born).captures →
      (Act.children (.text (.occurrence handle grammar context index born)) v).1 =
        (Act.children (.text (.occurrence handle grammar context index born)) w).1 :=
    fun v hv => congrArg (List.map fun capture : String × Span =>
      Node.text (.binding handle grammar context index born capture.1)) hv
  cases hlocate : grammar.locate? (w.found handle born) (w.value context).1 with
  | none =>
      rw [hlocate] at hrun
      obtain ⟨rfl, rfl⟩ := Prod.mk.inj hrun
      exact ⟨hproject, congrArg _ hsame, congrArg _ hsame, hchildren _ (congrArg _ hsame),
        iff_of_false (fun h => by cases h) Bool.false_ne_true⟩
  | some span =>
      rw [hlocate] at hrun
      obtain ⟨rfl, rfl⟩ := Prod.mk.inj hrun
      have hrecorded := Workspace.found_setFound (w.value context).2 handle
        { w.found handle born with
          span := ⟨span.start, span.start + (w.found handle born).text.utf8ByteSize⟩ } born
      have htext := congrArg Occurrence.text hrecorded
      have hcaptures := congrArg Occurrence.captures hrecorded
      exact ⟨hproject, htext, hcaptures, hchildren _ hcaptures,
        iff_of_true rfl rfl⟩

/-- A session in which a file with the letter has been added. -/
def sampled : Session blind := (start "p" .empty .empty).step (.addFile "a.txt" "xby")

/-- The case of the letter in that file. -/
theorem unaltered_of_scanned_letter : ∃ found,
    Microgrammar.compile "letter" "$v" [("v", "a|b")] = .ok Microgrammar.letter ∧
    Microgrammar.letter.inner.AssertionFree ∧ found ∈ Microgrammar.letter.scan "xby" ∧
    found.text = "b" ∧ Microgrammar.letter.parseExact "b" = some found.captures ∧
    ∃ later, (Act.update (.occurrence 0 Microgrammar.letter (.file ["a.txt"]) 0 found) "b").run
        sampled.workspace = (.ok (), later) ∧
      later.project = sampled.workspace.project ∧
      (later.found 0 found).captures = found.captures := by
  have free : Microgrammar.letter.inner.AssertionFree := Microgrammar.assertionFree_letter
  have hfound : (⟨⟨1, 2⟩, "b", [("v", ⟨0, 1⟩)]⟩ : Occurrence) ∈ Microgrammar.letter.scan "xby" := by
    decide +kernel
  obtain ⟨hexact, hwrite⟩ := unaltered_of_scanned Microgrammar.compile_letter free hfound
  obtain ⟨hproject, -, hcaptures, -, hok⟩ :=
    hwrite sampled.workspace 0 (.file ["a.txt"]) 0 _ rfl _ _ rfl
  refine ⟨_, Microgrammar.compile_letter, free, hfound, rfl, hexact, _,
    Prod.ext (hok.2 ?_) rfl, hproject, hcaptures⟩
  decide +kernel

end Session

end TreeQuery
