/-
Histories of a document: what a run of operations on it leaves behind.

# One operation

An operation is anything that a holder of a document does with it: an edit applied, the whole
text replaced, the document taken as saved, a part read, a note hung on it. It changes the text
and moves the generation on by one, or it does neither (`revised_run`); and it makes the
document dirty exactly if it changes the text (`dirty_run`). For an edit this rests on an edit
that applies never giving back the old text (`revised_apply`).

# The run

Along a run the generation counts the changes of the text (`toNat_generation_after`), as long as
there are fewer of them than generations. So between two points of a run with one generation
there is no change, and the texts are the same (`content_eq_of_generation_eq`). Whether the
document is dirty depends on what came after it was saved last (`dirty_after`).
-/
import TreeQuery.Proofs.Workspace.Coherent

namespace TreeQuery.Document

-- ========================================================== operations

/-- Something that is done with a document. -/
inductive Operation where
  | apply (edit : Edit)
  | replaceAll (text : String)
  | markClean
  | slice (span : Text.Span)
  | attach (key : String) (note : Attachment)
deriving DecidableEq, Repr

/-- The document after an operation. An edit that is refused leaves the document it was tried
on, and reading a part leaves any. -/
def Operation.run (operation : Operation) (document : Document) : Document :=
  match operation with
  | .apply edit => match document.apply edit with
    | .ok (_, changed) => changed
    | .error _ => document
  | .replaceAll text => (document.replaceAll text).2
  | .markClean => document.markClean
  | .slice _ => document
  | .attach key note => (document.attach key note).2

/-- The document after a run of operations. -/
def after (document : Document) (run : List Operation) : Document :=
  run.foldl (fun document operation => operation.run document) document

variable {document : Document} {operation : Operation} {run : List Operation}

theorem after_cons (document : Document) (operation : Operation) (run : List Operation) :
    document.after (operation :: run) = (operation.run document).after run := rfl

theorem after_append (document : Document) (run more : List Operation) :
    document.after (run ++ more) = (document.after run).after more :=
  List.foldl_append

theorem after_concat (document : Document) (run : List Operation) (operation : Operation) :
    document.after (run ++ [operation]) = operation.run (document.after run) :=
  after_append document run [operation]

-- ======================================================= one operation

/-- A note changes nothing else. -/
theorem attach_fields (document : Document) (key : String) (note : Attachment) :
    (document.attach key note).2.content = document.content ∧
      (document.attach key note).2.generation = document.generation ∧
      (document.attach key note).2.dirty = document.dirty := by
  unfold attach
  split
  · split
    · exact ⟨rfl, rfl, rfl⟩
    · exact ⟨rfl, rfl, rfl⟩
  · exact ⟨rfl, rfl, rfl⟩

/-- An edit is refused, or finds its text there already, or puts another text in place. -/
theorem apply_cases (edit : Edit) (document : Document) :
    (∃ e, document.apply edit = .error e) ∨
      document.apply edit = .ok (.alreadyApplied, document) ∨
      ∃ text, text ≠ document.content ∧
        document.apply edit = .ok (.applied text, document.written text) := by
  cases happ : document.apply edit with
  | error e => exact .inl ⟨e, rfl⟩
  | ok answer =>
      have hrevised := revised_apply happ
      unfold apply at happ
      split at happ
      · rename_i text _
        obtain rfl := Except.ok.inj happ
        rcases hrevised with ⟨-, hstill⟩ | ⟨hne, -⟩
        · -- the generation has moved on, so this is no edit that leaves the text alone
          exact absurd hstill (Generation.next_ne document.generation)
        · exact .inr (.inr ⟨text, hne, rfl⟩)
      · obtain rfl := Except.ok.inj happ
        exact .inr (.inl rfl)
      · cases happ

theorem run_apply_of_error {edit : Edit} {e : EditError} (h : document.apply edit = .error e) :
    (Operation.apply edit).run document = document := by
  simp only [Operation.run, h]

theorem run_apply_of_ok {edit : Edit} {outcome : EditOutcome} {changed : Document}
    (h : document.apply edit = .ok (outcome, changed)) :
    (Operation.apply edit).run document = changed := by
  simp only [Operation.run, h]

/-- An operation changes the text and moves the generation on, or does neither. -/
theorem revised_run (operation : Operation) (document : Document) :
    document.Revised (operation.run document) := by
  cases operation with
  | apply edit =>
      rcases apply_cases edit document with ⟨e, h⟩ | h | ⟨text, hne, h⟩
      · rw [run_apply_of_error h]
        exact .refl document
      · rw [run_apply_of_ok h]
        exact .refl document
      · rw [run_apply_of_ok h]
        exact revised_written hne
  | replaceAll text => exact revised_replaceAll document text
  | markClean => exact .refl document
  | slice span => exact .refl document
  | attach key note =>
      obtain ⟨hcontent, hgeneration, -⟩ := attach_fields document key note
      exact .inl ⟨hcontent, hgeneration⟩

/-- After an operation a document is dirty if the operation has changed the text, or if it was
dirty before and has not just been saved. -/
theorem dirty_run (operation : Operation) (document : Document) :
    (operation.run document).dirty = true ↔
      (operation.run document).content ≠ document.content ∨
        document.dirty = true ∧ operation ≠ .markClean := by
  cases operation with
  | apply edit =>
      rcases apply_cases edit document with ⟨e, h⟩ | h | ⟨text, hne, h⟩
      · rw [run_apply_of_error h]
        simp
      · rw [run_apply_of_ok h]
        simp
      · rw [run_apply_of_ok h]
        exact iff_of_true rfl (.inl hne)
  | replaceAll text =>
      show (document.replaceAll text).2.dirty = true ↔ _
      unfold Operation.run
      dsimp only
      rw [replaceAll_snd]
      split
      · simp
      · rename_i hne
        exact iff_of_true rfl (.inl hne)
  | markClean => simp [Operation.run, markClean]
  | slice span => simp [Operation.run]
  | attach key note =>
      obtain ⟨hcontent, -, hdirty⟩ := attach_fields document key note
      simp [Operation.run, hcontent, hdirty]

-- =============================================================== runs

/-- How many operations of a run change the text. -/
def changes : Document → List Operation → Nat
  | _, [] => 0
  | document, operation :: rest =>
    (if (operation.run document).content = document.content then 0 else 1) +
      changes (operation.run document) rest

theorem changes_le_length (document : Document) (run : List Operation) :
    changes document run ≤ run.length := by
  induction run generalizing document with
  | nil => exact Nat.le_refl 0
  | cons operation rest ih =>
      have hrest := ih (operation.run document)
      rw [changes, List.length_cons]
      split
      · omega
      · omega

theorem content_of_changes_eq_zero (h : changes document run = 0) :
    (document.after run).content = document.content := by
  induction run generalizing document with
  | nil => rfl
  | cons operation rest ih =>
      rw [changes] at h
      rw [after_cons]
      split at h
      · rename_i hsame
        exact (ih ((Nat.zero_add _).symm.trans h)).trans hsame
      · omega

/-- The generation counts the changes. -/
theorem toNat_generation_after
    (room : document.generation.toNat + changes document run < UInt64.size) :
    (document.after run).generation.toNat =
      document.generation.toNat + changes document run := by
  induction run generalizing document with
  | nil => rfl
  | cons operation rest ih =>
      rw [after_cons]
      rw [changes] at room ⊢
      rcases revised_run operation document with ⟨hcontent, hgeneration⟩ | ⟨hcontent, hgeneration⟩
      · rw [if_pos hcontent] at room ⊢
        rw [ih (by rw [hgeneration]; omega), hgeneration]
        omega
      · rw [if_neg hcontent] at room ⊢
        have hnext : (operation.run document).generation.toNat =
            document.generation.toNat + 1 := by
          rw [hgeneration]
          exact Generation.toNat_next (by omega)
        rw [ih (by rw [hnext]; omega), hnext]
        omega

/-- Two points of a run with the same generation have the same text: one of them is reached from
the other, and on the way there no text has changed. -/
theorem content_eq_of_generation_eq {done other : List Operation}
    (room : document.generation.toNat + run.length < UInt64.size)
    (hd : done <+: run) (ho : other <+: run)
    (same : (document.after done).generation = (document.after other).generation) :
    (document.after done).content = (document.after other).content := by
  -- it is enough to go from the earlier point to the later one
  have later : ∀ {early late : List Operation}, early <+: late → late <+: run →
      (document.after early).generation = (document.after late).generation →
      (document.after late).content = (document.after early).content := by
    rintro early _ ⟨rest, rfl⟩ hlate heq
    have hlength := hlate.length_le
    rw [List.length_append] at hlength
    have hearly := changes_le_length document early
    have hrest := changes_le_length (document.after early) rest
    have hcount := @toNat_generation_after document early (by omega)
    have hcount' := @toNat_generation_after (document.after early) rest (by omega)
    rw [after_append] at heq ⊢
    exact content_of_changes_eq_zero (by rw [← heq] at hcount'; omega)
  rcases List.prefix_or_prefix_of_prefix hd ho with h | h
  · exact (later h ho same).symm
  · exact later h hd same.symm

/-- A document is dirty when an operation has changed its text and it has not been saved since;
or when it was dirty to begin with and has never been saved. -/
theorem dirty_after (document : Document) (run : List Operation) :
    (document.after run).dirty = true ↔
      (document.dirty = true ∧ .markClean ∉ run) ∨
        ∃ earlier operation rest, run = earlier ++ operation :: rest ∧
          (document.after (earlier ++ [operation])).content ≠ (document.after earlier).content ∧
          .markClean ∉ rest := by
  induction run using List.reverseRecOn with
  | nil => simp [after]
  | append_singleton run last ih =>
      rw [after_concat, dirty_run, ih, ← after_concat]
      constructor
      · rintro (hchanged | ⟨hbefore, hlast⟩)
        · exact .inr ⟨run, last, [], rfl, hchanged, List.not_mem_nil⟩
        · rcases hbefore with ⟨hdirty, hnone⟩ | ⟨earlier, operation, rest, rfl, hchanged, hnone⟩
          · exact .inl ⟨hdirty, by simpa using ⟨hnone, hlast.symm⟩⟩
          · exact .inr ⟨earlier, operation, rest ++ [last], by simp, hchanged,
              by simpa using ⟨hnone, hlast.symm⟩⟩
      · rintro (⟨hdirty, hnone⟩ | ⟨earlier, operation, rest, heq, hchanged, hnone⟩)
        · rw [List.mem_append, List.mem_singleton, not_or] at hnone
          exact .inr ⟨.inl ⟨hdirty, hnone.1⟩, Ne.symm hnone.2⟩
        · -- the change is the last operation, or lies before it
          rcases List.eq_nil_or_concat rest with rfl | ⟨rest, final, rfl⟩
          · obtain ⟨rfl, rfl⟩ := List.append_inj' heq rfl |>.imp id List.singleton_inj.1
            exact .inl hchanged
          · rw [List.concat_eq_append, ← List.cons_append, ← List.append_assoc] at heq
            obtain ⟨rfl, hfinal⟩ := List.append_inj' heq rfl
            obtain rfl := List.singleton_inj.1 hfinal
            rw [List.concat_eq_append, List.mem_append, List.mem_singleton, not_or] at hnone
            exact .inr ⟨.inr ⟨earlier, operation, rest, rfl, hchanged, hnone.1⟩,
              Ne.symm hnone.2⟩

-- ======================================================= new documents

/-- What a run of fewer operations than there are generations shows of a new document. Each
operation either changes the text and moves the generation on by exactly one, or leaves both
alone; an edit that is refused or already applied leaves the whole document alone. The document
is dirty exactly if some operation has changed its text and it has not been saved since. And the
generation tells the text: at any two points with one generation it is the same. -/
theorem history_of_few (path content : String) (run : List Operation)
    (few : run.length < UInt64.size) :
    (∀ done operation, done ++ [operation] <+: run →
      ∀ before later, before = after { path, content } done →
        later = after { path, content } (done ++ [operation]) →
        (later.content ≠ before.content ∧
            later.generation.toNat = before.generation.toNat + 1 ∨
          later.content = before.content ∧ later.generation = before.generation) ∧
        ∀ edit, operation = .apply edit →
          (∀ e, before.apply edit = .error e → later = before) ∧
          (∀ changed, before.apply edit = .ok (.alreadyApplied, changed) →
            later = before ∧ changed = before)) ∧
    (∀ done, done <+: run →
      ((after { path, content } done).dirty = true ↔
        ∃ earlier operation rest, done = earlier ++ operation :: rest ∧
          (after { path, content } (earlier ++ [operation])).content ≠
            (after { path, content } earlier).content ∧
          .markClean ∉ rest)) ∧
    ∀ done other, done <+: run → other <+: run →
      (after { path, content } done).generation = (after { path, content } other).generation →
      (after { path, content } done).content = (after { path, content } other).content := by
  have room : ({ path, content } : Document).generation.toNat + run.length < UInt64.size := by
    show 0 + run.length < UInt64.size
    omega
  refine ⟨?_, fun done _ => ?_, fun done other hd ho => content_eq_of_generation_eq room hd ho⟩
  · rintro done operation hprefix before later rfl rfl
    have hlength := hprefix.length_le
    rw [List.length_append, List.length_singleton] at hlength
    have hdone := changes_le_length { path, content } done
    have hcount := @toNat_generation_after { path, content } done (by omega)
    rw [after_concat]
    refine ⟨?_, ?_⟩
    · rcases revised_run operation (after { path, content } done) with h | ⟨hne, hnext⟩
      · exact .inr h
      · refine .inl ⟨hne, ?_⟩
        rw [hnext]
        exact Generation.toNat_next (by omega)
    · rintro edit rfl
      refine ⟨fun e he => run_apply_of_error he, fun changed happ => ?_⟩
      rcases apply_cases edit (after { path, content } done) with ⟨e, h⟩ | h | ⟨text, -, h⟩
      · rw [h] at happ
        cases happ
      · rw [happ] at h
        obtain ⟨-, hsame⟩ := Prod.mk.inj (Except.ok.inj h)
        exact ⟨(run_apply_of_ok happ).trans hsame, hsame⟩
      · rw [h] at happ
        cases happ
  · rw [dirty_after]
    exact or_iff_right fun h => Bool.false_ne_true h.1

/-- A run in which an edit applies, is tried once more, and fails after the text has been saved and
changed back. -/
def replaced : List Operation :=
  let edit : Edit := ⟨⟨0, 1⟩, "b", .exact "a"⟩
  [.apply edit, .apply edit, .markClean, .replaceAll "ca", .apply edit, .slice ⟨0, 1⟩]

/-- The case of that run: the last edit has been refused, the document is dirty since the text has
been replaced, and the texts at its points are told by their generations. -/
theorem history_of_few_replaced : replaced.length < UInt64.size ∧
    (∃ e, (after ⟨"a.txt", "a", 0, false, []⟩ (replaced.take 4)).apply ⟨⟨0, 1⟩, "b", .exact "a"⟩ =
        .error e ∧
      after ⟨"a.txt", "a", 0, false, []⟩ (replaced.take 5) =
        after ⟨"a.txt", "a", 0, false, []⟩ (replaced.take 4)) ∧
    (after ⟨"a.txt", "a", 0, false, []⟩ replaced).dirty = true ∧
    (after ⟨"a.txt", "a", 0, false, []⟩ replaced).generation.toNat = 2 ∧
    (after ⟨"a.txt", "a", 0, false, []⟩ (replaced.take 1)).content =
      (after ⟨"a.txt", "a", 0, false, []⟩ (replaced.take 3)).content := by
  obtain ⟨hstep, hdirty, hsame⟩ := history_of_few "a.txt" "a" replaced (by decide)
  have hrefused : (after ⟨"a.txt", "a", 0, false, []⟩ (replaced.take 4)).apply
      ⟨⟨0, 1⟩, "b", .exact "a"⟩ = .error (.unexpectedText ⟨0, 1⟩ (.exact "a") "c") := by decide
  refine ⟨by decide, ⟨_, hrefused, ?_⟩, ?_, by decide, ?_⟩
  · exact ((hstep (replaced.take 4) _ (by decide) _ _ rfl rfl).2 _ rfl).1 _ hrefused
  · exact (hdirty replaced (List.prefix_refl _)).2
      ⟨replaced.take 3, .replaceAll "ca", replaced.drop 4, rfl, by decide, by decide⟩
  · exact hsame _ _ (List.take_prefix _ _) (List.take_prefix _ _) (by decide)

end TreeQuery.Document
