/-
Edits tried again: when an edit that has applied once applies to its own result.

An applied edit leaves `before`, its replacement and `after`. Tried again it looks at the bytes
that follow `before`, as many as it replaced the first time (`applies_iff_after`). If the
replacement has as many bytes, they are the replacement, and nothing happens. Otherwise they are
another text, and whether the edit applies is up to what it expects: an edit that expects the very
text it has replaced applies again exactly if that text stands at the start of the replacement
and what follows it. So deletions of a repeated text, and all insertions, apply again.

Where an edit does not apply to its result, a document that holds the text changes once, however
often the edit is tried (`after_replicate`).
-/
import TreeQuery.Proofs.Document.History
import TreeQuery.Proofs.Edit.Algebra

namespace TreeQuery

open Text (Span Parted)

namespace Edit

variable {edit : Edit} {text changed : String}

/-- The edit changes the text: it is neither refused nor already applied. -/
def Applies (edit : Edit) (text : String) : Prop :=
  ∃ changed, edit.apply text = .ok (.applied changed)

/-- An edit applies where its span holds a text that it accepts and that is not its replacement. -/
theorem applies_iff :
    edit.Applies text ↔ ∃ before found after, Parted text edit.span before found after ∧
      found ≠ edit.replacement ∧ edit.expected.accepts found = true := by
  constructor
  · rintro ⟨changed, h⟩
    obtain ⟨before, found, after, hparted, -, hne, haccepts⟩ := parted_of_applied h
    exact ⟨before, found, after, hparted, hne, haccepts⟩
  · rintro ⟨before, found, after, hparted, hne, haccepts⟩
    exact ⟨_, by rw [apply_of_parted hparted, if_neg hne, if_pos haccepts]⟩

/-- What a span takes out of a text whose beginning is known. -/
theorem parted_append_iff {before rest : String} {span : Span} {first found after : String}
    (hstart : before.utf8ByteSize = span.start) :
    Parted (before ++ rest) span first found after ↔
      first = before ∧ rest = found ++ after ∧ span.stop = span.start + found.utf8ByteSize := by
  constructor
  · rintro ⟨ht, hs, hstop⟩
    -- both are taken off the front, and have one length
    have hsplit := Text.append_inj_of_byteLength (a := before.toList) (b := rest.toList)
      (c := first.toList) (d := (found ++ after).toList)
      (by rw [← String.toList_append, ← String.toList_append, ht, String.append_assoc])
      (by rw [Text.byteLength_toList, Text.byteLength_toList, hstart, hs])
    exact ⟨(String.toList_inj.1 hsplit.1).symm, String.toList_inj.1 hsplit.2, hstop⟩
  · rintro ⟨rfl, rfl, hstop⟩
    exact ⟨(String.append_assoc ..).symm, hstart, hstop⟩

/-- When an edit applies to its own result: as many bytes as it has replaced are looked at once
more, from the start of the replacement on. -/
theorem applies_iff_after {before old after : String}
    (h : Parted text edit.span before old after) :
    edit.Applies (before ++ edit.replacement ++ after) ↔
      ∃ found rest, edit.replacement ++ after = found ++ rest ∧
        found.utf8ByteSize = old.utf8ByteSize ∧ found ≠ edit.replacement ∧
        edit.expected.accepts found = true := by
  have hstop := h.stop
  rw [applies_iff, String.append_assoc]
  constructor
  · rintro ⟨first, found, rest, hparted, hne, haccepts⟩
    obtain ⟨-, hrest, hlength⟩ := (parted_append_iff h.start).1 hparted
    exact ⟨found, rest, hrest, by omega, hne, haccepts⟩
  · rintro ⟨found, rest, hrest, hlength, hne, haccepts⟩
    exact ⟨before, found, rest, (parted_append_iff h.start).2 ⟨rfl, hrest, by omega⟩, hne,
      haccepts⟩

/-- An edit whose replacement has as many bytes as it has replaced finds it on the second try. -/
theorem apply_again_of_length_eq {before old after : String}
    (h : Parted text edit.span before old after)
    (hlength : edit.replacement.utf8ByteSize = old.utf8ByteSize) :
    edit.apply (before ++ edit.replacement ++ after) = .ok .alreadyApplied := by
  have hparted : Parted (before ++ edit.replacement ++ after) edit.span before edit.replacement
      after := ⟨rfl, h.start, by rw [h.stop, hlength]⟩
  rw [apply_of_parted hparted, if_pos rfl]

end Edit

namespace Document

variable {edit : Edit} {document : Document}

/-- An edit that does not apply leaves a document alone, however often it is tried. -/
theorem after_replicate_of_not_applies (h : ¬ edit.Applies document.content) (tries : Nat) :
    document.after (List.replicate tries (.apply edit)) = document := by
  have hstill : (Operation.apply edit).run document = document := by
    rcases apply_cases edit document with ⟨e, happ⟩ | happ | ⟨text, hne, happ⟩
    · exact run_apply_of_error happ
    · exact run_apply_of_ok happ
    · -- the document changes only where the edit applies to its text
      unfold apply at happ
      split at happ
      · rename_i changed hchanged
        exact absurd ⟨changed, hchanged⟩ h
      · cases happ
      · cases happ
  induction tries with
  | zero => rfl
  | succ n ih => rw [List.replicate_succ, after_cons, hstill, ih]

/-- An edit that applies, and does not apply to its result, changes a document once. -/
theorem after_replicate {changed : String}
    (happlied : edit.apply document.content = .ok (.applied changed))
    (honce : ¬ edit.Applies changed) (tries : Nat) :
    document.after (List.replicate (tries + 1) (.apply edit)) = document.written changed := by
  have happly : document.apply edit = .ok (.applied changed, document.written changed) := by
    unfold apply
    rw [happlied]
  have honce' : ¬ edit.Applies (document.written changed).content := honce
  rw [List.replicate_succ, after_cons, run_apply_of_ok happly]
  exact after_replicate_of_not_applies honce' tries

end Document

namespace Edit

-- ======================================================== tried again

/-- An edit that has applied, tried again on its result. It applies once more exactly if the text
of as many bytes as it has replaced, from the start of the replacement on, is not the replacement
and is accepted; for an edit that expects what it has replaced, exactly if the replacement and what
follows it begin with that. It is already applied if the replacement has as many bytes as the text
it has replaced. And if it does not apply once more, a document with the text is changed once by
any number of tries. -/
theorem retried {edit : Edit} {text changed : String}
    (applied : edit.apply text = .ok (.applied changed)) :
    ∃ before old after, Parted text edit.span before old after ∧
      changed = before ++ edit.replacement ++ after ∧
      (edit.Applies changed ↔ ∃ found rest, edit.replacement ++ after = found ++ rest ∧
        found.utf8ByteSize = old.utf8ByteSize ∧ found ≠ edit.replacement ∧
        edit.expected.accepts found = true) ∧
      (edit.expected = .exact old →
        (edit.Applies changed ↔ ∃ rest, edit.replacement ++ after = old ++ rest)) ∧
      (edit.replacement.utf8ByteSize = old.utf8ByteSize →
        edit.apply changed = .ok .alreadyApplied) ∧
      (¬ edit.Applies changed → ∀ document : Document, document.content = text → ∀ tries,
        document.after (List.replicate (tries + 1) (.apply edit)) =
          document.written changed) := by
  obtain ⟨before, old, after, hparted, rfl, hne, haccepts⟩ := parted_of_applied applied
  have hagain := applies_iff_after hparted
  refine ⟨before, old, after, hparted, rfl, hagain, fun hexact => ?_,
    apply_again_of_length_eq hparted, ?_⟩
  · rw [hagain, hexact]
    constructor
    · rintro ⟨found, rest, hrest, -, -, hfound⟩
      obtain rfl : found = old := eq_of_beq hfound
      exact ⟨rest, hrest⟩
    · rintro ⟨rest, hrest⟩
      exact ⟨old, rest, hrest, rfl, hne, beq_self_eq_true old⟩
  · rintro honce document rfl tries
    exact Document.after_replicate applied honce tries

/-- The case of a letter put in before another: the next try finds the letter where it looks for
nothing, so the edit applies to its result. -/
theorem retried_inserted :
    (expecting ⟨0, 0⟩ "x" "").apply "y" = .ok (.applied "xy") ∧
      (expecting ⟨0, 0⟩ "x" "").Applies "xy" := by
  have happlied : (expecting ⟨0, 0⟩ "x" "").apply "y" = .ok (.applied "xy") := rfl
  obtain ⟨before, old, after, hparted, -, -, hexact, -⟩ := retried happlied
  obtain ⟨-, hold, -⟩ := hparted.unique (⟨rfl, rfl, rfl⟩ : Parted "y" ⟨0, 0⟩ "" "" "y")
  subst hold
  exact ⟨happlied, (hexact rfl).2 ⟨_, (String.empty_append).symm⟩⟩

/-- An insertion into an empty document, made twice, stands there twice: the result of an edit is
not safe from the edit. -/
theorem inserted_twice :
    (expecting ⟨0, 0⟩ "x" "").apply "" = .ok (.applied "x") ∧
      (expecting ⟨0, 0⟩ "x" "").apply "x" = .ok (.applied "xx") ∧
      Document.after { path := "a.txt", content := "" }
          (List.replicate 2 (.apply (expecting ⟨0, 0⟩ "x" ""))) =
        { path := "a.txt", content := "xx", generation := 2, dirty := true } :=
  ⟨rfl, rfl, rfl⟩

end Edit

end TreeQuery
