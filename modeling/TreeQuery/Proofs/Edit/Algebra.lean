/-
The algebra of edits: what takes an edit back, and when two edits may change places.

An edit meets its text at one point, the decomposition `before`, `found`, `after` that its span
makes. With the decomposition given, the three ways an edit can end are the three cases of one
equation (`apply_of_parted`), and where an edit is not refused there is a decomposition
(`parted_of_apply`). Verification is then the only thing left to argue about: a verification
accepts the text it was made from, exact or hashed, so an edit made for what stands in its span
goes through (`edited_of_parted`).

An applied edit is taken back by the edit made for the replacement (`apply_back`). Two edits made
for one text, one left of the other, are two decompositions of it, and so one into five parts;
either edit leaves the part of the other as it was and moves it at most (`edited_in_turn`).
-/
import TreeQuery.Proofs.Text.Cut

namespace TreeQuery

-- ==================================================== texts in parts

namespace Text

variable {text before middle after : String} {span : Span}

/-- A text taken apart at a span. -/
structure Parted (text : String) (span : Span) (before middle after : String) : Prop where
  text : text = before ++ middle ++ after
  start : before.utf8ByteSize = span.start
  stop : span.stop = span.start + middle.utf8ByteSize

/-- Taking a text apart is cutting it. -/
theorem parted_iff :
    Parted text span before middle after ↔
      cut? text.toList span = some (before.toList, middle.toList, after.toList) := by
  rw [cut?_eq_some_iff, byteLength_toList, byteLength_toList, ← String.toList_append,
    ← String.toList_append, String.toList_inj]
  constructor
  · rintro ⟨ht, hstart, hstop⟩
    exact ⟨ht, hstart, by omega⟩
  · rintro ⟨ht, hstart, hstop⟩
    exact ⟨ht, hstart, by omega⟩

/-- A cut takes the text apart. -/
theorem parted_of_cut? {b m a : List Char} (h : cut? text.toList span = some (b, m, a)) :
    Parted text span (String.ofList b) (String.ofList m) (String.ofList a) :=
  parted_iff.2 (by simpa only [String.toList_ofList] using h)

/-- What stands at a span is the middle part. -/
theorem slice?_eq_some_iff_parted :
    slice? text span = some middle ↔ ∃ before after, Parted text span before middle after := by
  rw [slice?_eq_some_iff]
  constructor
  · rintro ⟨b, a, h⟩
    refine ⟨String.ofList b, String.ofList a, parted_iff.2 ?_⟩
    rw [h, String.toList_ofList, String.toList_ofList]
  · rintro ⟨before, after, h⟩
    exact ⟨before.toList, after.toList, parted_iff.1 h⟩

namespace Parted

/-- The parts of a text, each with its length. -/
theorem mk_append (before middle after : String) :
    Parted (before ++ middle ++ after)
      ⟨before.utf8ByteSize, before.utf8ByteSize + middle.utf8ByteSize⟩ before middle after :=
  ⟨rfl, rfl, rfl⟩

/-- The span lies in the text. -/
theorem stop_le (h : Parted text span before middle after) : span.stop ≤ text.utf8ByteSize := by
  rw [h.text, String.utf8ByteSize_append, String.utf8ByteSize_append, h.start, h.stop]
  omega

/-- A text is taken apart at a span in one way only. -/
theorem unique {before' middle' after' : String} (h : Parted text span before middle after)
    (h' : Parted text span before' middle' after') :
    before = before' ∧ middle = middle' ∧ after = after' := by
  have heq := (parted_iff.1 h).symm.trans (parted_iff.1 h')
  simpa only [Option.some.injEq, Prod.mk.injEq, String.toList_inj] using heq

/-- Two spans of a text, one left of the other, take it apart together. -/
theorem apart {before' middle' after' : String} {other : Span}
    (h : Parted text span before middle after)
    (h' : Parted text other before' middle' after') (hle : span.stop ≤ other.start) :
    ∃ between, before' = before ++ middle ++ between ∧
      after = between ++ middle' ++ after' := by
  obtain ⟨hb, -, ha⟩ := cut?_eq_some_iff.1 (parted_iff.1 h')
  -- the part before the right span is cut once more where the left span ends
  have hlong : (before ++ middle).utf8ByteSize ≤ before'.utf8ByteSize := by
    rw [String.utf8ByteSize_append, h.start, h'.start, ← h.stop]
    exact hle
  have heq : (before ++ middle).toList ++ after.toList =
      before'.toList ++ (middle' ++ after').toList := by
    rw [← String.toList_append, ← String.toList_append, ← h.text, h'.text, String.append_assoc]
  rw [← byteLength_toList, ← byteLength_toList] at hlong
  obtain ⟨between, hbefore, hafter⟩ | ⟨between, hbefore, hafter⟩ :=
    List.append_eq_append_iff.1 heq
  · refine ⟨String.ofList between, String.toList_inj.1 ?_, String.toList_inj.1 ?_⟩
    · rw [String.toList_append, String.toList_ofList, hbefore]
    · rw [hafter]
      simp only [String.toList_append, String.toList_ofList, List.append_assoc]
  · -- the other way round, nothing stands between the two
    rw [hbefore, byteLength_append] at hlong
    have hnone : byteLength between = 0 := by omega
    obtain rfl := eq_nil_of_byteLength hnone
    rw [List.append_nil] at hbefore
    rw [List.nil_append] at hafter
    refine ⟨"", ?_, ?_⟩
    · rw [String.append_empty, ← String.toList_inj, hbefore]
    · rw [String.empty_append, ← String.toList_inj, ← hafter]

end Parted

end Text

-- =========================================================== one edit

/-- The text an edit leaves of the one it was tried on. An edit already applied leaves it. -/
def EditOutcome.over (text : String) : EditOutcome → String
  | .applied changed => changed
  | .alreadyApplied => text

namespace Edit

open Text (Span Parted)

variable {edit : Edit} {text before found after : String}

/-- The text after an edit, one already applied counting as no change. -/
def edited (edit : Edit) (text : String) : Except EditError String :=
  (edit.apply text).map (·.over text)

/-- The edit with its span moved, up by what has been gained before it and down by what has been
lost. -/
def moved (edit : Edit) (gained lost : Nat) : Edit :=
  { edit with span := ⟨edit.span.start + gained - lost, edit.span.stop + gained - lost⟩ }

/-- The outcome of an edit, by what stands in its span. -/
theorem apply_of_parted (h : Parted text edit.span before found after) :
    edit.apply text =
      if found = edit.replacement then .ok .alreadyApplied
      else if edit.expected.accepts found then
        .ok (.applied (before ++ edit.replacement ++ after))
      else .error (.unexpectedText edit.span edit.expected found) := by
  have hle : edit.span.start ≤ edit.span.stop := by
    rw [h.stop]
    exact Nat.le_add_right ..
  have hcut := Text.parted_iff.1 h
  unfold apply
  rw [if_neg (by simpa using ⟨hle, h.stop_le⟩), hcut]
  simp only [String.ofList_toList, String.ofList_append]

/-- An edit that is not refused takes its text apart. -/
theorem parted_of_apply {outcome : EditOutcome} (h : edit.apply text = .ok outcome) :
    ∃ before found after, Parted text edit.span before found after := by
  unfold apply at h
  split at h
  · cases h
  · split at h
    · cases h
    · rename_i b m a hcut
      exact ⟨_, _, _, Text.parted_of_cut? hcut⟩

/-- An edit that applies puts its replacement in place of a text that it accepts. -/
theorem parted_of_applied {changed : String} (h : edit.apply text = .ok (.applied changed)) :
    ∃ before found after, Parted text edit.span before found after ∧
      changed = before ++ edit.replacement ++ after ∧ found ≠ edit.replacement ∧
      edit.expected.accepts found = true := by
  obtain ⟨before, found, after, hparted⟩ := parted_of_apply h
  rw [apply_of_parted hparted] at h
  split at h
  · cases h
  · rename_i hne
    split at h
    · rename_i haccepts
      cases h
      exact ⟨before, found, after, hparted, rfl, hne, haccepts⟩
    · cases h

/-- An edit is already applied where its replacement stands. -/
theorem parted_of_alreadyApplied (h : edit.apply text = .ok .alreadyApplied) :
    ∃ before after, Parted text edit.span before edit.replacement after := by
  obtain ⟨before, found, after, hparted⟩ := parted_of_apply h
  rw [apply_of_parted hparted] at h
  split at h
  · rename_i hfound
    exact ⟨before, after, hfound ▸ hparted⟩
  · split at h
    · cases h
    · cases h

/-- The text after an edit that accepts what stands in its span. -/
theorem edited_of_parted (h : Parted text edit.span before found after)
    (haccepts : edit.expected.accepts found = true) :
    edit.edited text = .ok (before ++ edit.replacement ++ after) := by
  unfold edited
  rw [apply_of_parted h]
  by_cases hfound : found = edit.replacement
  · rw [if_pos hfound, ← hfound, ← h.text]
    rfl
  · rw [if_neg hfound, if_pos haccepts]
    rfl

/-- An edit made for a text accepts what stands in its span. -/
theorem accepts_of_parted {span : Span} (h : Parted text span before found after) (new : String) :
    (replacing text span new).expected.accepts found = true := by
  have haccepts := @accepts_replacing text new _ _ _ _ (Text.parted_iff.1 h)
  rwa [String.ofList_toList] at haccepts

-- ======================================================== taken back

/-- The edit that puts back what an applied edit has replaced gives back the text. -/
theorem apply_back {changed : String} (h : edit.apply text = .ok (.applied changed)) :
    ∃ old, Text.slice? text edit.span = some old ∧
      (expecting ⟨edit.span.start, edit.span.start + edit.replacement.utf8ByteSize⟩ old
        edit.replacement).apply changed = .ok (.applied text) := by
  obtain ⟨before, found, after, hparted, rfl, hne, -⟩ := parted_of_applied h
  refine ⟨found, Text.slice?_eq_some_iff_parted.2 ⟨before, after, hparted⟩, ?_⟩
  have hback := Parted.mk_append before edit.replacement after
  rw [hparted.start] at hback
  rw [@apply_of_parted (expecting _ found edit.replacement) _ _ _ _ hback]
  show (if edit.replacement = found then _
    else if (Verification.ofText _).accepts _ then _ else _) =
      Except.ok (EditOutcome.applied text)
  rw [if_neg (Ne.symm hne), if_pos (Verification.accepts_ofText _), hparted.text]
  rfl

-- ========================================================== two edits

/-- Two edits made for one text, one left of the other, lead to one text in either order. The edit
on the right, where it comes second, is moved by what the other has added and removed. -/
theorem edited_in_turn {left right : Span} {before' found' after' : String}
    (hleft : Parted text left before found after)
    (hright : Parted text right before' found' after') (hle : left.stop ≤ right.start)
    (new new' : String) :
    ∃ between, text = before ++ found ++ between ++ found' ++ after' ∧
      ((replacing text right new').edited text >>= (replacing text left new).edited) =
        .ok (before ++ new ++ between ++ new' ++ after') ∧
      ((replacing text left new).edited text >>=
          ((replacing text right new').moved new.utf8ByteSize left.length).edited) =
        .ok (before ++ new ++ between ++ new' ++ after') := by
  obtain ⟨between, hbefore', hafter⟩ := hleft.apart hright hle
  have htext : text = before ++ found ++ between ++ found' ++ after' := by
    rw [hright.text, hbefore']
  refine ⟨between, htext, ?_, ?_⟩
  · -- the left span takes the changed text apart where it took the text apart
    have hthen : Parted (before' ++ new' ++ after') left before found (between ++ new' ++ after') :=
      ⟨by simp only [hbefore', String.append_assoc], hleft.start, hleft.stop⟩
    rw [@edited_of_parted (replacing text right new') _ _ _ _ hright
      (accepts_of_parted hright new')]
    show (replacing text left new).edited (before' ++ new' ++ after') = _
    rw [@edited_of_parted (replacing text left new) _ _ _ _ hthen (accepts_of_parted hleft new)]
    simp only [String.append_assoc]
    rfl
  · have hthen : Parted (before ++ new ++ after)
        ((replacing text right new').moved new.utf8ByteSize left.length).span
        (before ++ new ++ between) found' after' := by
      have hstart := hright.start
      rw [hbefore', String.utf8ByteSize_append, String.utf8ByteSize_append] at hstart
      have hb := hleft.start
      have hs := hleft.stop
      have hs' := hright.stop
      refine ⟨by simp only [hafter, String.append_assoc], ?_, ?_⟩
      · rw [String.utf8ByteSize_append, String.utf8ByteSize_append]
        show _ = right.start + new.utf8ByteSize - (left.stop - left.start)
        omega
      · show right.stop + new.utf8ByteSize - (left.stop - left.start) =
          right.start + new.utf8ByteSize - (left.stop - left.start) + found'.utf8ByteSize
        omega
    rw [@edited_of_parted (replacing text left new) _ _ _ _ hleft (accepts_of_parted hleft new)]
    show ((replacing text right new').moved new.utf8ByteSize left.length).edited
      (before ++ new ++ after) = _
    rw [edited_of_parted hthen (accepts_of_parted hright new')]
    rfl

-- ======================================================== the algebra

/-- Edits of any texts, at any spans and with either verification. An edit that applies is taken
back by the edit that expects its replacement and puts back what was there. And two edits made for
a text, one left of the other, give in either order, none refused, the text in which both spans
are replaced; the edit on the right, if it comes second, is moved by the bytes the other has added
and removed. -/
theorem algebra (text : String) :
    (∀ (edit : Edit) (changed : String), edit.apply text = .ok (.applied changed) →
      ∃ old, Text.slice? text edit.span = some old ∧
        (expecting ⟨edit.span.start, edit.span.start + edit.replacement.utf8ByteSize⟩ old
          edit.replacement).apply changed = .ok (.applied text)) ∧
    ∀ (left right : Span) (old old' new new' : String),
      Text.slice? text left = some old → Text.slice? text right = some old' →
      left.stop ≤ right.start →
      ∃ before between after, text = before ++ old ++ between ++ old' ++ after ∧
        ((replacing text right new').edited text >>= (replacing text left new).edited) =
          .ok (before ++ new ++ between ++ new' ++ after) ∧
        ((replacing text left new).edited text >>=
            ((replacing text right new').moved new.utf8ByteSize old.utf8ByteSize).edited) =
          .ok (before ++ new ++ between ++ new' ++ after) := by
  refine ⟨fun edit changed h => apply_back h, ?_⟩
  intro left right old old' new new' hleft hright hle
  obtain ⟨before, _, hl⟩ := Text.slice?_eq_some_iff_parted.1 hleft
  obtain ⟨_, after, hr⟩ := Text.slice?_eq_some_iff_parted.1 hright
  have hlength : left.length = old.utf8ByteSize := by
    show left.stop - left.start = _
    rw [hl.stop, Nat.add_sub_cancel_left]
  obtain ⟨between, htext, hsecond, hfirst⟩ := edited_in_turn hl hr hle new new'
  rw [hlength] at hfirst
  exact ⟨before, between, after, htext, hsecond, hfirst⟩

/-- The case of a word whose first letter takes two bytes: the letter replaced and put back, and
the letter replaced with another one put in right after it. -/
theorem algebra_accented :
    (expecting ⟨0, 2⟩ "xyz" "é").apply "été" = .ok (.applied "xyzté") ∧
    (∃ old, Text.slice? "été" ⟨0, 2⟩ = some old ∧
      (expecting ⟨0, 0 + 3⟩ old "xyz").apply "xyzté" = .ok (.applied "été")) ∧
    ∃ before between after, "été" = before ++ "é" ++ between ++ "" ++ after ∧
      ((replacing "été" ⟨2, 2⟩ "ß").edited "été" >>= (replacing "été" ⟨0, 2⟩ "xyz").edited) =
        .ok (before ++ "xyz" ++ between ++ "ß" ++ after) ∧
      ((replacing "été" ⟨0, 2⟩ "xyz").edited "été" >>=
          ((replacing "été" ⟨2, 2⟩ "ß").moved "xyz".utf8ByteSize "é".utf8ByteSize).edited) =
        .ok (before ++ "xyz" ++ between ++ "ß" ++ after) := by
  have happlied : (expecting ⟨0, 2⟩ "xyz" "é").apply "été" = .ok (.applied "xyzté") := rfl
  exact ⟨happlied, (algebra "été").1 _ _ happlied,
    (algebra "été").2 ⟨0, 2⟩ ⟨2, 2⟩ "é" "" "xyz" "ß" (by decide) (by decide) (by decide)⟩

end Edit

end TreeQuery
