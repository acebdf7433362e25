/-
Reading a pattern, one item after the other.

`Reads` says that a reader with a draft and some text ahead comes to another draft with less text
ahead, whatever its fuel, as long as that is more than the text. The items of a pattern are read
one by one, so such steps are put together by `Reads.trans`. A group is read by a reader of its own
up to the parenthesis that closes it (`reads_group`, `reads_named`). In the end the draft is the
pattern (`parse?_eq`).

Only the items are here that the patterns of grammars are made of: characters, as they stand or
behind a backslash, white space, the class of the characters of words, repetitions of these without
a bound, groups, and the places where a text starts and ends.
-/
import TreeQuery.Microgrammar.Basic
import TreeQuery.Proofs.Text.Unmixed

namespace TreeQuery.Regex

open Microgrammar (metaCharacters)

variable {draft later last inner : Draft} {ahead left rest : List Char} {c : Char}

/-- From one draft the reader comes to another, and leaves some of the text ahead. -/
structure Reads (draft : Draft) (ahead : List Char) (later : Draft) (left : List Char) : Prop where
  shorter : left.length ≤ ahead.length
  reads : ∀ fuel, ahead.length < fuel → ∃ fuel', left.length < fuel' ∧
    readPattern fuel {} draft ahead = readPattern fuel' {} later left

theorem Reads.refl (draft : Draft) (ahead : List Char) : Reads draft ahead draft ahead :=
  ⟨Nat.le_refl _, fun fuel h => ⟨fuel, h, rfl⟩⟩

theorem Reads.trans (h : Reads draft ahead later left) (h' : Reads later left last rest) :
    Reads draft ahead last rest := by
  refine ⟨Nat.le_trans h'.shorter h.shorter, fun fuel henough => ?_⟩
  obtain ⟨fuel', henough', he⟩ := h.reads fuel henough
  obtain ⟨fuel'', henough'', he'⟩ := h'.reads fuel' henough'
  exact ⟨fuel'', henough'', he.trans he'⟩

/-- One round of the reader. -/
theorem reads_round (shorter : left.length < ahead.length)
    (h : ∀ fuel, readPattern (fuel + 1) {} draft ahead = readPattern fuel {} later left) :
    Reads draft ahead later left := by
  refine ⟨Nat.le_of_lt shorter, fun fuel henough => ?_⟩
  match fuel, henough with
  | fuel + 1, henough => exact ⟨fuel, by omega, h fuel⟩

/-- What a reader has read when all has been read. -/
theorem Reads.finish (h : Reads draft ahead later []) {fuel : Nat} (enough : ahead.length < fuel) :
    readPattern fuel {} draft ahead = some (later.finish, later.names, []) := by
  obtain ⟨fuel', henough, he⟩ := h.reads fuel enough
  match fuel', henough with
  | fuel' + 1, _ =>
      rw [he, readPattern]
      rfl

/-- What a reader has read when it comes to a parenthesis that it has not opened. -/
theorem Reads.close (h : Reads draft ahead later (')' :: left)) {fuel : Nat}
    (enough : ahead.length < fuel) :
    readPattern fuel {} draft ahead = some (later.finish, later.names, ')' :: left) := by
  obtain ⟨fuel', henough, he⟩ := h.reads fuel enough
  match fuel', henough with
  | fuel' + 1, _ =>
      rw [he, readPattern]
      rfl

/-- A pattern is what its reader has drafted in the end, if that is not too large. -/
theorem parse?_eq {pattern : String} (h : Reads { names := [] } pattern.toList later []) :
    parse? pattern =
      if weight later.finish ≤ weightLimit then some later.finish else none := by
  unfold parse?
  dsimp only
  rw [h.finish (Nat.lt_succ_self _)]

-- ======================================================== characters

theorem reads_plain (h : c ∉ metaCharacters) :
    Reads draft (c :: left) (draft.push (some (.one (CharSet.singleton c)))) left := by
  refine reads_round (Nat.lt_succ_self _) fun fuel => ?_
  have hskip : skipSpace {} (c :: left) = c :: left := rfl
  rw [readPattern, hskip]
  dsimp only
  -- Every character with a case of its own is one of those with a meaning.
  split
  all_goals first | rfl | exact absurd (by decide) h

theorem reads_escaped (h : c ∈ metaCharacters) :
    Reads draft ('\\' :: c :: left) (draft.push (some (.one (CharSet.singleton c)))) left := by
  refine reads_round (by rw [List.length_cons, List.length_cons]; omega) fun fuel => ?_
  have hescape : readEscape {} (c :: left) = some (.literal c, left) := by
    have hall : (metaCharacters.all fun c =>
        c.toNat < 0x80 ∧ c.isAlphanum = false ∧ c ≠ '<' ∧ c ≠ '>') = true := by decide
    obtain ⟨hascii, hplain, hless, hgreater⟩ := of_decide_eq_true (List.all_eq_true.1 hall c h)
    unfold readEscape
    dsimp only
    split
    all_goals first
      | exact absurd hplain (by decide)
      | exact absurd rfl hless
      | exact absurd rfl hgreater
      | rw [if_pos ⟨hascii, hplain⟩]
  rw [readPattern]
  show (readEscape {} (c :: left)).bind _ = _
  rw [hescape]
  rfl

theorem reads_space :
    Reads draft ('\\' :: 's' :: left) (draft.push (some (.one Unicode.whitespace))) left := by
  refine reads_round (by rw [List.length_cons, List.length_cons]; omega) fun fuel => ?_
  rw [readPattern]
  rfl

theorem reads_assertion (draft : Draft) (left : List Char) {kind : Assertion}
    (h : (c, kind) ∈ [('^', .textStart), ('$', .textEnd)]) :
    Reads draft (c :: left) (draft.push (some (.assertion kind))) left := by
  refine reads_round (Nat.lt_succ_self _) fun fuel => ?_
  rw [readPattern]
  simp only [List.mem_cons, List.not_mem_nil, or_false, Prod.mk.injEq] at h
  rcases h with ⟨rfl, rfl⟩ | ⟨rfl, rfl⟩
  all_goals rfl

theorem reads_branch (draft : Draft) (left : List Char) :
    Reads draft ('|' :: left)
      { draft with branches := sequence draft.items :: draft.branches, items := [] } left := by
  refine reads_round (Nat.lt_succ_self _) fun fuel => ?_
  rw [readPattern]
  rfl

-- ========================================================== repetition

/-- A repetition prefers more rounds unless it is marked. -/
theorem reads_repeated {body : Regex} {least : Nat} (unmarked : left.head? ≠ some '?')
    (h : (c, least) ∈ [('*', 0), ('+', 1)]) :
    Reads (draft.push (some body)) (c :: left) (draft.push (some (.many body least none true)))
      left := by
  have hgreed : readGreed {} left = (true, left) := by
    unfold readGreed
    split
    · exact absurd rfl unmarked
    · rfl
  refine reads_round (Nat.lt_succ_self _) fun fuel => ?_
  simp only [List.mem_cons, List.not_mem_nil, or_false, Prod.mk.injEq] at h
  rcases h with ⟨rfl, rfl⟩ | ⟨rfl, rfl⟩
  all_goals
    rw [readPattern]
    show readPattern.repeated fuel {} (draft.push (some body)) _ none left = _
    unfold readPattern.repeated
    rw [hgreed]
    rfl

-- ============================================================== classes

theorem readClassRest_close {fuel : Nat} {soFar : ClassSoFar} :
    readClassRest {} (fuel + 1) false soFar (']' :: left) = some (soFar.value {}, left) := by
  rw [readClassRest]
  rfl

theorem readClassRest_member {fuel : Nat} {soFar : ClassSoFar} {set : CharSet}
    (h : c ∉ ['[', ']', '&', '-', '~']) (hr : readRange {} (c :: ahead) = some (set, left)) :
    readClassRest {} (fuel + 1) false soFar (c :: ahead) =
      readClassRest {} fuel false (soFar.add set) left := by
  have hskip : skipSpace {} (c :: ahead) = c :: ahead := rfl
  rw [readClassRest, hskip]
  dsimp only
  split
  case h_7 =>
    rw [hr]
    rfl
  case h_1 he => cases he
  all_goals
    rename_i he
    obtain ⟨rfl, -⟩ := List.cons.inj he
    exact absurd (by decide) h

/-- The characters of words. -/
def wordCharacters : CharSet :=
  [(0x2D, 0x2E), (0x30, 0x39), (0x41, 0x5A), (0x5F, 0x5F), (0x61, 0x7A)]

theorem readClass_word : readClass {} ("A-Za-z0-9_.\\-]".toList ++ left) =
    some (wordCharacters, left) := by
  show readClassRest {} (left.length + 14 + 1) false {}
    ('A' :: '-' :: 'Z' :: 'a' :: '-' :: 'z' :: '0' :: '-' :: '9' :: '_' :: '.' :: '\\' :: '-' ::
      ']' :: left) = _
  rw [readClassRest_member (by decide) rfl, readClassRest_member (by decide) rfl,
    readClassRest_member (by decide) rfl, readClassRest_member (by decide) rfl,
    readClassRest_member (by decide) rfl, readClassRest_member (by decide) rfl,
    readClassRest_close]
  have hvalue : CharSet.ofRanges [(0x2D, 0x2D), (0x2E, 0x2E), (0x5F, 0x5F), (0x30, 0x39),
      (0x61, 0x7A), (0x41, 0x5A)] = wordCharacters := by
    simp [CharSet.ofRanges, List.mergeSort, CharSet.join, wordCharacters]
  exact congrArg (fun set => some (set, left)) hvalue

theorem reads_word : Reads draft ('[' :: ("A-Za-z0-9_.\\-]".toList ++ left))
    (draft.push (some (.one wordCharacters))) left := by
  refine reads_round (by rw [List.length_cons, List.length_append]; omega) fun fuel => ?_
  rw [readPattern]
  show (readClass {} ("A-Za-z0-9_.\\-]".toList ++ left)).bind _ = _
  rw [readClass_word]
  rfl

-- =============================================================== groups

/-- A group is read by a reader that knows the names so far. -/
theorem reads_group (draft : Draft)
    (h : Reads { names := draft.names } ahead inner (')' :: left)) :
    Reads draft ('(' :: '?' :: ':' :: ahead)
      { draft.push (some inner.finish) with names := inner.names } left := by
  have hshorter := h.shorter
  rw [List.length_cons] at hshorter
  refine ⟨by simp; omega, fun fuel henough => ?_⟩
  simp only [List.length_cons] at henough
  match fuel, henough with
  | fuel + 1, henough =>
      refine ⟨fuel, by omega, ?_⟩
      rw [readPattern]
      show (readPattern fuel {} { names := draft.names } ahead).bind _ = _
      rw [h.close (by omega)]
      rfl

theorem readGroupName_append {n : List Char} (hc : c = '_' ∨ Unicode.isAlphabetic c = true)
    (hn : ∀ c ∈ n, isGroupNamePart c = true) :
    readGroupName (c :: (n ++ '>' :: left)) = some (String.ofList (c :: n), left) := by
  have hstart : (c == '_' || Unicode.isAlphabetic c) = true :=
    Bool.or_eq_true_iff.2 (hc.imp_left beq_iff_eq.2)
  have hclosing : Text.Ends isGroupNamePart ('>' :: left) := Text.ends_cons (by decide)
  unfold readGroupName
  dsimp only
  rw [if_pos hstart, Text.dropWhile_run hn hclosing, Text.takeWhile_run hn hclosing]
  rfl

theorem readOpening_named {n : List Char} (hc : c = '_' ∨ Unicode.isAlphabetic c = true)
    (hn : ∀ c ∈ n, isGroupNamePart c = true) :
    readOpening {} ('?' :: 'P' :: '<' :: c :: (n ++ '>' :: left)) =
      some (.named (String.ofList (c :: n)), left) := by
  show (readGroupName (c :: (n ++ '>' :: left))).bind _ = _
  rw [readGroupName_append hc hn]
  rfl

/-- A named group must have a name that is new. -/
theorem reads_named {n : List Char} (hc : c = '_' ∨ Unicode.isAlphabetic c = true)
    (hn : ∀ c ∈ n, isGroupNamePart c = true) (new : String.ofList (c :: n) ∉ draft.names)
    (h : Reads { names := String.ofList (c :: n) :: draft.names } ahead inner (')' :: left)) :
    Reads draft ('(' :: '?' :: 'P' :: '<' :: c :: (n ++ '>' :: ahead))
      { draft.push (some (.capture (String.ofList (c :: n)) inner.finish)) with
        names := inner.names } left := by
  have hshorter := h.shorter
  rw [List.length_cons] at hshorter
  refine ⟨by simp; omega, fun fuel henough => ?_⟩
  simp only [List.length_cons, List.length_append] at henough
  match fuel, henough with
  | fuel + 1, henough =>
      refine ⟨fuel, by omega, ?_⟩
      rw [readPattern]
      show (readOpening {} ('?' :: 'P' :: '<' :: c :: (n ++ '>' :: ahead))).bind _ = _
      rw [readOpening_named hc hn]
      show (if draft.names.contains (String.ofList (c :: n)) then none else
        (readPattern fuel {} { names := String.ofList (c :: n) :: draft.names } ahead).bind _) = _
      rw [if_neg (mt List.contains_iff_mem.1 new), h.close (by omega)]
      rfl

/-- A pattern for a text as a whole, with the pattern it is made of in a group. -/
theorem reads_whole (h : Reads { names := [] } ahead inner [')', '$']) :
    Reads { names := [] } ('^' :: '(' :: '?' :: ':' :: ahead)
      { names := inner.names
        items := [some (.assertion .textEnd), some inner.finish, some (.assertion .textStart)] }
      [] := by
  have hstart : Reads { names := [] } ('^' :: '(' :: '?' :: ':' :: ahead)
      { names := [], items := [some (.assertion .textStart)] } ('(' :: '?' :: ':' :: ahead) :=
    reads_assertion _ _ (by decide)
  have hgroup := reads_group { names := [], items := [some (.assertion .textStart)] } h
  have hend : Reads { names := inner.names, items := [some inner.finish,
      some (.assertion .textStart)] } ['$'] { names := inner.names, items := [
      some (.assertion .textEnd), some inner.finish, some (.assertion .textStart)] } [] :=
    reads_assertion _ _ (by decide)
  exact (hstart.trans hgroup).trans hend

end TreeQuery.Regex
