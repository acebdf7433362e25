/-
Classes are read the same whatever follows.

A class ends with a bracket, and without one nothing is read; so only what a reader sees before the
bracket matters. Two readers look further ahead than they take. A hyphen makes a range unless the
class ends behind it or another hyphen follows. And a bracket and a colon begin the name of a class
or else a class in the class, depending on whether a name ends there; what follows the text cannot
make a name of it, for it would have the bracket in it that ends the class (`readNamedClass_none`).
-/
import TreeQuery.Proofs.Regex.Escapes
import TreeQuery.Proofs.Text.Unmixed

namespace TreeQuery.Regex

variable {flags : Flags} {more ahead ahead' left rest : List Char}

-- ================================================================ classes

theorem readMember_cons (flags : Flags) (c : Char) (rest : List Char) :
    readMember flags (c :: rest) = if c = '\\' then readEscape flags rest
      else if (flags.unicode || decide (c.toNat < 0x80)) = true then some (.literal c, rest)
      else none := by
  unfold readMember
  split
  · rename_i heq
    cases heq
  · rename_i heq
    obtain ⟨rfl, rfl⟩ := List.cons.inj heq
    rfl
  · rename_i hne heq
    obtain ⟨rfl, rfl⟩ := List.cons.inj heq
    rw [if_neg hne]

/-- A member from its first character on. -/
theorem carries_readMember_cons (more : List Char) (flags : Flags) (c : Char) :
    Carries more (fun rest => readMember flags (c :: rest))
      fun rest => readMember flags (c :: rest) := by
  rw [funext (readMember_cons flags c)]
  exact .ite (fun _ => carries_readEscape more flags) fun _ =>
    .when _ (.pure (Escape.literal c))

theorem carries_readMember (more : List Char) (flags : Flags) :
    Carries more (readMember flags) (readMember flags) := by
  refine .head (skips_nothing more) ?_ ?_ ?_ (carries_readMember_cons more flags)
  · rintro _ rfl
    rfl
  · rintro _ c rest rfl
    rfl
  · rintro _ c rest rfl
    rfl

/-- The range between two members. -/
def between? : Escape → Escape → Option CharSet
  | .literal a, .literal b => if a ≤ b then some (CharSet.range a.toNat b.toNat) else none
  | _, _ => none

/-- What comes after the first member of a range. -/
def readRangeRest (flags : Flags) (first : Escape) (ahead : List Char) :
    Option (CharSet × List Char) :=
  match skipSpace flags ahead with
  | [] => none
  | c :: rest =>
    if c = '-' then
      if (skipSpace flags rest).head? = some ']' ∨ (skipSpace flags rest).head? = some '-' then
        (readRange.alone first).bind fun set => some (set, c :: rest)
      else (readMember flags (skipSpace flags rest)).bind fun r =>
        (between? first r.1).bind fun set => some (set, r.2)
    else (readRange.alone first).bind fun set => some (set, c :: rest)

theorem readRange_eq (flags : Flags) (ahead : List Char) :
    readRange flags ahead =
      (readMember flags ahead).bind fun r => readRangeRest flags r.1 r.2 := by
  unfold readRange
  refine Option.bind_congr ?_
  rintro ⟨first, rest⟩ -
  unfold readRangeRest
  dsimp only
  split
  · rename_i heq
    rw [heq]
  · rename_i heq
    rw [heq]
    dsimp only
    rw [if_pos rfl]
    split
    · rename_i heq'
      rw [heq', if_pos (.inl rfl)]
      rfl
    · rename_i heq'
      rw [heq', if_pos (.inr rfl)]
      rfl
    · rename_i hclose hdash
      rw [if_neg fun h => h.elim (head?_ne_some hclose) (head?_ne_some hdash)]
      refine Option.bind_congr ?_
      rintro ⟨last, left⟩ -
      cases first with
      | literal a =>
          cases last with
          | literal b =>
              unfold between?
              dsimp only
              split <;> rfl
          | _ => rfl
      | _ => rfl
  · rename_i hnil hdash
    split
    · rename_i heq
      exact absurd heq hnil
    · rename_i c past heq
      rw [heq, if_neg]
      · rfl
      · rintro rfl
        exact hdash past heq

theorem readRangeRest_of_cons {first : Escape} {c : Char} (h : skipSpace flags ahead = c :: rest) :
    readRangeRest flags first ahead =
      if c = '-' then
        if (skipSpace flags rest).head? = some ']' ∨ (skipSpace flags rest).head? = some '-' then
          (readRange.alone first).bind fun set => some (set, c :: rest)
        else (readMember flags (skipSpace flags rest)).bind fun r =>
          (between? first r.1).bind fun set => some (set, r.2)
      else (readRange.alone first).bind fun set => some (set, c :: rest) := by
  unfold readRangeRest
  rw [h]

theorem carries_readRangeRest (more : List Char) (flags : Flags) (first : Escape) :
    Carries more (readRangeRest flags first) (readRangeRest flags first) := by
  have hspace := skips_space more flags
  have halone : Carries more
      (fun ahead => (readRange.alone first).bind fun set => some (set, ahead))
      fun ahead => (readRange.alone first).bind fun set => some (set, ahead) :=
    .given (readRange.alone first) fun set => .pure set
  have hlast : Carries more
      (fun ahead => (readMember flags (skipSpace flags ahead)).bind fun r =>
        (between? first r.1).bind fun set => some (set, r.2))
      fun ahead => (readMember flags (skipSpace flags ahead)).bind fun r =>
        (between? first r.1).bind fun set => some (set, r.2) :=
    ((carries_readMember more flags).skipping hspace).bind fun last =>
      .given (between? first last) fun set => .pure set
  refine .of_each fun ahead x left h => ?_
  cases hskip : skipSpace flags ahead with
  | nil =>
      unfold readRangeRest at h
      rw [hskip] at h
      cases h
  | cons c rest =>
      have hrest : c :: rest <:+ ahead := hskip ▸ skipSpace_suffix flags ahead
      rw [readRangeRest_of_cons hskip] at h
      by_cases hc : c = '-'
      · rw [if_pos hc] at h
        -- Whether the hyphen stands for itself is seen from the character behind it.
        cases hsecond : skipSpace flags rest with
        | nil =>
            rw [hsecond] at h
            cases h
        | cons d past =>
            have hsecond' := hspace.cons hsecond (followed_append more rest)
            by_cases hd : some d = some ']' ∨ some d = some '-'
            · rw [if_pos (by rw [hsecond]; exact hd)] at h
              refine ⟨(halone.suffix h).trans hrest, fun hm ahead' hf => ?_⟩
              rw [readRangeRest_of_cons (hspace.cons hskip hf), if_pos hc,
                if_pos (by rw [hsecond']; exact hd)]
              exact halone.carries h hm (followed_append more (c :: rest))
            · rw [if_neg (by rw [hsecond]; exact hd)] at h
              refine ⟨((hlast.suffix h).trans (List.suffix_cons c rest)).trans hrest,
                fun hm ahead' hf => ?_⟩
              rw [readRangeRest_of_cons (hspace.cons hskip hf), if_pos hc,
                if_neg (by rw [hsecond']; exact hd)]
              exact hlast.carries h hm (followed_append more rest)
      · rw [if_neg hc] at h
        refine ⟨(halone.suffix h).trans hrest, fun hm ahead' hf => ?_⟩
        rw [readRangeRest_of_cons (hspace.cons hskip hf), if_neg hc]
        exact halone.carries h hm (followed_append more (c :: rest))

theorem carries_readRange_cons (more : List Char) (flags : Flags) (c : Char) :
    Carries more (fun rest => readRange flags (c :: rest))
      fun rest => readRange flags (c :: rest) := by
  simp only [readRange_eq]
  exact (carries_readMember_cons more flags c).bind fun first =>
    carries_readRangeRest more flags first

/-- A class has no member that is its last character. -/
theorem readRange_singleton (flags : Flags) (c : Char) : readRange flags [c] = none := by
  have hnil : skipSpace flags [] = [] := List.suffix_nil.1 (skipSpace_suffix flags [])
  rw [readRange_eq, readMember_cons]
  split
  · rfl
  · split
    · rw [Option.bind_some]
      unfold readRangeRest
      rw [hnil]
    · rfl

-- A name between colons: nothing that is ahead makes a name of what has a bracket in it.

theorem asciiClass?_of_mem {name : List Char} (h : ']' ∈ name) : asciiClass? name = none := by
  have hnone : ∀ word : String, ']' ∉ word.toList → String.ofList name ≠ word := by
    rintro word hword rfl
    rw [String.toList_ofList] at hword
    exact hword h
  unfold asciiClass?
  split
  all_goals first
    | rfl
    | exact absurd ‹_› (hnone _ (by decide))

/-- What follows the opening of a named class. -/
def readClassName (flags : Flags) (negated : Bool) (ahead : List Char) :
    Option (CharSet × List Char) :=
  match ahead.dropWhile (· != ':') with
  | ':' :: ']' :: left =>
    (asciiClass? (ahead.takeWhile (· != ':'))).bind fun set =>
      some (foldAndNegate flags negated set, left)
  | _ => none

theorem readNamedClass_of_not_colon (h : rest.head? ≠ some ':') :
    readNamedClass flags ('[' :: rest) = none := by
  unfold readNamedClass
  split
  · rename_i heq
    obtain ⟨-, rfl⟩ := List.cons.inj heq
    exact absurd rfl h
  · rfl

theorem readNamedClass_colon (flags : Flags) (rest : List Char) :
    readNamedClass flags ('[' :: ':' :: rest) =
      if rest.head? = some '^' then readClassName flags true rest.tail
      else readClassName flags false rest := by
  by_cases hnot : rest.head? = some '^'
  · obtain ⟨past, rfl⟩ := List.head?_eq_some_iff.1 hnot
    rfl
  · have hne : ∀ past, rest = '^' :: past → False := fun past h => hnot (h ▸ rfl)
    rw [if_neg hnot]
    simp only [readNamedClass]
    rfl

/-- What ends a name in a text ends it whatever follows. -/
theorem while_append {p : Char → Bool} (more : List Char) (h : ahead.dropWhile p ≠ []) :
    (ahead ++ more).dropWhile p = ahead.dropWhile p ++ more ∧
      (ahead ++ more).takeWhile p = ahead.takeWhile p := by
  rw [List.dropWhile_append, if_neg (mt List.isEmpty_iff.1 h), List.takeWhile_append, if_neg]
  · exact ⟨rfl, rfl⟩
  · intro hlength
    refine h (List.eq_nil_of_length_eq_zero ?_)
    have hparts := congrArg List.length (List.takeWhile_append_dropWhile (p := p) (l := ahead))
    rw [List.length_append] at hparts
    omega

theorem readClassName_suffix {negated : Bool} {set : CharSet}
    (h : readClassName flags negated ahead = some (set, left)) : left <:+ ahead := by
  unfold readClassName at h
  split at h
  · rename_i past heq
    obtain ⟨members, -, hset⟩ := Option.bind_eq_some_iff.1 h
    obtain ⟨-, rfl⟩ := Prod.mk.inj (Option.some.inj hset)
    have hdrop : ':' :: ']' :: past <:+ ahead := heq ▸ List.dropWhile_suffix _
    exact ((List.suffix_cons _ _).trans (List.suffix_cons _ _)).trans hdrop
  · cases h

theorem readClassName_append {negated : Bool} {set : CharSet} (more : List Char)
    (h : readClassName flags negated ahead = some (set, left)) :
    readClassName flags negated (ahead ++ more) = some (set, left ++ more) := by
  unfold readClassName at h
  split at h
  · rename_i past heq
    obtain ⟨members, hmembers, hset⟩ := Option.bind_eq_some_iff.1 h
    obtain ⟨rfl, rfl⟩ := Prod.mk.inj (Option.some.inj hset)
    obtain ⟨hdrop, htake⟩ := while_append more (heq ▸ List.cons_ne_nil _ _)
    unfold readClassName
    rw [hdrop, htake, heq, hmembers]
    rfl
  · cases h

/-- A bracket ends every name. -/
theorem readClassName_none {negated : Bool} (more : List Char) (hbracket : ']' ∈ ahead)
    (h : readClassName flags negated ahead = none) :
    readClassName flags negated (ahead ++ more) = none := by
  unfold readClassName
  by_cases hname : ']' ∈ ahead.takeWhile (· != ':')
  · have hname' : ']' ∈ (ahead ++ more).takeWhile (· != ':') := by
      rw [List.takeWhile_append]
      split
      · exact List.mem_append_left _ hbracket
      · exact hname
    rw [asciiClass?_of_mem hname']
    split <;> rfl
  · have hrest : ']' ∈ ahead.dropWhile (· != ':') := by
      rw [← List.takeWhile_append_dropWhile (p := (· != ':')) (l := ahead)] at hbracket
      exact (List.mem_append.1 hbracket).resolve_left hname
    obtain ⟨hdrop, htake⟩ := while_append more (List.ne_nil_of_mem hrest)
    obtain ⟨c, past, hend⟩ : ∃ c past, ahead.dropWhile (· != ':') = ':' :: c :: past := by
      have hcolon := Text.ends_dropWhile (· != ':') ahead
      cases hend : ahead.dropWhile (· != ':') with
      | nil => cases hend ▸ hrest
      | cons d past =>
          have hd : d = ':' := by
            rw [hend] at hcolon
            exact bne_eq_false_iff_eq.1 hcolon.of_cons
          cases past with
          | nil =>
              rw [hend, List.mem_singleton] at hrest
              exact absurd (hrest.trans hd) (by decide)
          | cons c past => exact ⟨c, past, by rw [hd]⟩
    rw [hdrop, htake, hend]
    unfold readClassName at h
    rw [hend] at h
    by_cases hc : c = ']'
    · subst hc
      have hnone := Option.bind_eq_none_iff.1 h
      exact Option.bind_eq_none_iff.2 fun set hset =>
        absurd (hnone set hset) (Option.some_ne_none _)
    · split
      · rename_i heq
        exact absurd (List.cons.inj (List.cons.inj heq).2).1 hc
      · rfl

/-- The name of a class does not depend on what follows. -/
theorem readNamedClass_append {set : CharSet} (more : List Char)
    (h : readNamedClass flags ('[' :: rest) = some (set, left)) :
    left <:+ rest ∧ readNamedClass flags ('[' :: (rest ++ more)) = some (set, left ++ more) := by
  by_cases hcolon : rest.head? = some ':'
  · obtain ⟨past, rfl⟩ := List.head?_eq_some_iff.1 hcolon
    rw [readNamedClass_colon] at h
    rw [List.cons_append, readNamedClass_colon]
    cases past with
    | nil => cases h
    | cons c past =>
        rw [List.cons_append, List.head?_cons] at *
        split
        · rename_i hnot
          rw [if_pos hnot] at h
          have hsuffix := (readClassName_suffix h).trans (List.suffix_cons c past)
          exact ⟨hsuffix.trans (List.suffix_cons ':' _), readClassName_append more h⟩
        · rename_i hnot
          rw [if_neg hnot] at h
          have hsuffix := readClassName_suffix h
          exact ⟨hsuffix.trans (List.suffix_cons ':' _), readClassName_append more h⟩
  · rw [readNamedClass_of_not_colon hcolon] at h
    cases h

theorem readNamedClass_none (more : List Char) (hbracket : ']' ∈ rest)
    (h : readNamedClass flags ('[' :: rest) = none) :
    readNamedClass flags ('[' :: (rest ++ more)) = none := by
  match rest, hbracket with
  | d :: rest, hbracket =>
      by_cases hd : d = ':'
      · subst hd
        rw [readNamedClass_colon] at h
        rw [List.cons_append, readNamedClass_colon]
        match rest, (List.mem_cons.1 hbracket).resolve_left (by decide) with
        | c :: past, hbracket =>
            rw [List.cons_append, List.head?_cons] at *
            split
            · rename_i hnot
              rw [if_pos hnot] at h
              obtain rfl := Option.some.inj hnot
              exact readClassName_none more ((List.mem_cons.1 hbracket).resolve_left (by decide)) h
            · rename_i hnot
              rw [if_neg hnot] at h
              exact readClassName_none more hbracket h
      · exact readNamedClass_of_not_colon (fun h => hd (Option.some.inj h))

-- ========================================================= opening classes

theorem readLeadingDashes_eq (flags : Flags) (fuel : Nat) (ahead : List Char) :
    readLeadingDashes flags fuel ahead =
      ((run flags (· == '-') fuel ahead).1.length, (run flags (· == '-') fuel ahead).2) := by
  induction fuel generalizing ahead with
  | zero => rfl
  | succ fuel ih =>
      cases ahead with
      | nil => rfl
      | cons c rest =>
          by_cases hc : c = '-'
          · subst hc
            show ((readLeadingDashes flags fuel (skipSpace flags rest)).1 + 1,
              (readLeadingDashes flags fuel (skipSpace flags rest)).2) = _
            rw [ih]
            rfl
          · unfold readLeadingDashes run
            rw [if_neg fun h => hc (beq_iff_eq.1 h)]
            split
            · rename_i heq
              exact absurd (List.cons.inj heq).1 hc
            · rfl

/-- The first members of a class, if they would mean something further on. -/
def readFirstMembers (flags : Flags) (negated : Bool) (ahead : List Char) :
    Option ((Bool × ClassSoFar) × List Char) :=
  (some (run flags (· == '-') (ahead.length + 0) ahead)).bind fun r =>
    if 0 < r.1.length then some ((negated, { members := CharSet.singleton '-' }), r.2)
    else if r.2.head? = some ']' then
      some ((negated, { members := CharSet.singleton ']' }), skipSpace flags r.2.tail)
    else some ((negated, {}), r.2)

theorem carries_readFirstMembers (more : List Char) (flags : Flags) (negated : Bool) :
    Carries more (readFirstMembers flags negated) (readFirstMembers flags negated) :=
  .bind (carries_run more flags (p := (· == '-')) (by decide) 0) fun dashes =>
    .ite (p := 0 < dashes.length) (fun _ => .pure _) fun _ =>
      .either (by decide) (.skipping (skips_space more flags) (.pure _)) (.pure _)

theorem readFirstMembers_eq (flags : Flags) (negated : Bool) (ahead : List Char) :
    readFirstMembers flags negated ahead =
      (fun r : Bool × ClassSoFar × List Char => some ((r.1, r.2.1), r.2.2))
        (match readLeadingDashes flags ahead.length ahead with
          | (dashes, ahead) =>
            if 0 < dashes then (negated, { members := CharSet.singleton '-' }, ahead)
            else match ahead with
              | ']' :: rest =>
                (negated, { members := CharSet.singleton ']' }, skipSpace flags rest)
              | _ => (negated, {}, ahead)) := by
  unfold readFirstMembers
  rw [readLeadingDashes_eq, Option.bind_some]
  dsimp only
  rw [Nat.add_zero]
  split
  · rfl
  · split
    · rename_i hbracket
      obtain ⟨rest, hrest⟩ := List.head?_eq_some_iff.1 hbracket
      rw [hrest]
      rfl
    · rename_i hbracket
      split
      · rename_i heq
        exact absurd (congrArg List.head? heq) hbracket
      · rfl

theorem readClassOpening_eq (flags : Flags) (ahead : List Char) :
    some (((readClassOpening flags ahead).1, (readClassOpening flags ahead).2.1),
      (readClassOpening flags ahead).2.2) =
      if (skipSpace flags ahead).head? = some '^' then
        readFirstMembers flags true (skipSpace flags (skipSpace flags ahead).tail)
      else readFirstMembers flags false (skipSpace flags ahead) := by
  rw [readFirstMembers_eq, readFirstMembers_eq]
  unfold readClassOpening
  dsimp only
  split
  · rename_i past heq
    rw [heq]
    rfl
  · rename_i hne
    exact (if_neg (head?_ne_some hne)).symm

theorem carries_readClassOpening (more : List Char) (flags : Flags) :
    Carries more (fun ahead => some (((readClassOpening flags ahead).1,
        (readClassOpening flags ahead).2.1), (readClassOpening flags ahead).2.2))
      fun ahead => some (((readClassOpening flags ahead).1,
        (readClassOpening flags ahead).2.1), (readClassOpening flags ahead).2.2) := by
  rw [funext (readClassOpening_eq flags)]
  exact .skipping (skips_space more flags) (.either (by decide)
    (.skipping (skips_space more flags) (carries_readFirstMembers more flags true))
    (carries_readFirstMembers more flags false))

theorem readClassOpening_suffix (flags : Flags) (ahead : List Char) :
    (readClassOpening flags ahead).2.2 <:+ ahead :=
  (carries_readClassOpening [] flags).suffix (rfl : some _ = some _)

-- ========================================================= rest of a class

section

variable {fuel fuel' : Nat} {negated : Bool} {soFar : ClassSoFar} {c : Char}

/-- An operator between the operands of a class. -/
def operator? (c : Char) (rest : List Char) : Option SetOperator :=
  if rest.head? = some c then
    if c = '&' then some .intersection
    else if c = '-' then some .difference
    else if c = '~' then some .symmetricDifference
    else none
  else none

theorem operator?_append (c : Char) (more : List Char) (h : rest ≠ []) :
    operator? c (rest ++ more) = operator? c rest := by
  cases rest with
  | nil => exact absurd rfl h
  | cons d rest => rfl

/-- What a bracket opens in a class, and the rest of the class behind it. -/
def readInner (fuel : Nat) (flags : Flags) (negated : Bool) (soFar : ClassSoFar)
    (rest : List Char) : Option (CharSet × List Char) :=
  match readNamedClass flags ('[' :: rest) with
  | some r => readClassRest flags fuel negated (soFar.add r.1) r.2
  | none =>
    (readClassRest flags fuel (readClassOpening flags rest).1 (readClassOpening flags rest).2.1
      (readClassOpening flags rest).2.2).bind fun r =>
        readClassRest flags fuel negated (soFar.add r.1) r.2

/-- An operator or a range, and the rest of the class behind it. -/
def readNext (fuel : Nat) (flags : Flags) (negated : Bool) (soFar : ClassSoFar) (c : Char)
    (rest : List Char) : Option (CharSet × List Char) :=
  match operator? c rest with
  | some operator =>
    readClassRest flags fuel negated { pending := some (soFar.value flags, operator) } rest.tail
  | none => (readRange flags (c :: rest)).bind fun r =>
      readClassRest flags fuel negated (soFar.add r.1) r.2

theorem readClassRest_of_cons (h : skipSpace flags ahead = c :: rest) :
    readClassRest flags (fuel + 1) negated soFar ahead =
      if c = '[' then readInner fuel flags negated soFar rest
      else if c = ']' then some (foldAndNegate flags negated (soFar.value flags), rest)
      else readNext fuel flags negated soFar c rest := by
  rw [readClassRest, h]
  split
  · rename_i heq
    cases heq
  · rename_i heq
    obtain ⟨rfl, rfl⟩ := List.cons.inj heq
    rw [if_pos rfl]
    unfold readInner
    split
    · rename_i hnamed
      rw [hnamed]
    · rename_i hnamed
      rw [hnamed]
      rfl
  · rename_i heq
    obtain ⟨rfl, rfl⟩ := List.cons.inj heq
    rfl
  iterate 3
    · rename_i heq
      obtain ⟨rfl, rfl⟩ := List.cons.inj heq
      rw [readClassRest.operate]
      rfl
  · rename_i _ hopen hclose hand hminus htilde
    have hoperator : operator? c rest = none := by
      unfold operator?
      split
      · rename_i hhead
        obtain ⟨past, rfl⟩ := List.head?_eq_some_iff.1 hhead
        rw [if_neg fun hc : c = '&' => hand past (hc ▸ rfl),
          if_neg fun hc : c = '-' => hminus past (hc ▸ rfl),
          if_neg fun hc : c = '~' => htilde past (hc ▸ rfl)]
      · rfl
    unfold readNext
    rw [if_neg fun hc : c = '[' => hopen rest (hc ▸ rfl),
      if_neg fun hc : c = ']' => hclose rest (hc ▸ rfl), hoperator]
    rfl

theorem readClassRest_of_nil (h : skipSpace flags ahead = []) :
    readClassRest flags (fuel + 1) negated soFar ahead = none := by
  rw [readClassRest, h]

/-- A class ends with a bracket. -/
theorem mem_of_readClassRest {set : CharSet}
    (h : readClassRest flags fuel negated soFar ahead = some (set, left)) : ']' ∈ ahead := by
  induction fuel generalizing negated soFar ahead set left with
  | zero =>
      rw [readClassRest] at h
      cases h
  | succ fuel ih =>
      cases hskip : skipSpace flags ahead with
      | nil => cases (readClassRest_of_nil hskip).symm.trans h
      | cons c rest =>
          have hskipped := skipSpace_suffix flags ahead
          rw [hskip] at hskipped
          refine hskipped.mem ?_
          rw [readClassRest_of_cons hskip] at h
          split at h
          · unfold readInner at h
            split at h
            · rename_i r hnamed
              exact List.mem_cons_of_mem _ ((readNamedClass_append [] hnamed).1.mem (ih h))
            · obtain ⟨r, hinner, -⟩ := Option.bind_eq_some_iff.1 h
              exact List.mem_cons_of_mem _ ((readClassOpening_suffix flags rest).mem (ih hinner))
          · split at h
            · rename_i hc
              exact hc ▸ List.mem_cons_self
            · unfold readNext at h
              split at h
              · exact List.mem_cons_of_mem _ ((List.tail_suffix rest).mem (ih h))
              · obtain ⟨r, hrange, hrest⟩ := Option.bind_eq_some_iff.1 h
                exact List.mem_cons_of_mem _
                  (((carries_readRange_cons [] flags c).suffix hrange).mem (ih hrest))

section

variable (hrest : ∀ negated soFar, Carries more (readClassRest flags fuel negated soFar)
  (readClassRest flags fuel' negated soFar))

include hrest

theorem carries_readInner (negated : Bool) (soFar : ClassSoFar) :
    Carries more (readInner fuel flags negated soFar) (readInner fuel' flags negated soFar) := by
  refine .of_each fun rest x left hread => ?_
  unfold readInner at hread
  split at hread
  · rename_i r hnamed
    have hnext := hrest negated (soFar.add r.1)
    obtain ⟨hname, hnamed'⟩ := readNamedClass_append more hnamed
    refine ⟨(hnext.suffix hread).trans hname, fun hm ahead' hf => ?_⟩
    have hne : rest ≠ [] := by
      rintro rfl
      cases hnamed
    obtain rfl := hf.resolve_right fun h => hne h.1
    unfold readInner
    rw [hnamed']
    exact hnext.carries hread hm (followed_append more r.2)
  · rename_i hnamed
    have hinner := (carries_readClassOpening more flags).bind fun o =>
      (hrest o.1 o.2).bind fun set => hrest negated (soFar.add set)
    refine ⟨hinner.suffix hread, fun hm ahead' hf => ?_⟩
    obtain ⟨r, hclass, -⟩ := Option.bind_eq_some_iff.1 hread
    have hbracket := (readClassOpening_suffix flags rest).mem (mem_of_readClassRest hclass)
    obtain rfl := hf.resolve_right fun h => List.ne_nil_of_mem hbracket h.1
    unfold readInner
    rw [readNamedClass_none more hbracket hnamed]
    exact hinner.carries hread hm (followed_append more rest)

theorem carries_readNext (negated : Bool) (soFar : ClassSoFar) (c : Char) :
    Carries more (readNext fuel flags negated soFar c) (readNext fuel' flags negated soFar c) := by
  have hrange := (carries_readRange_cons more flags c).bind fun set =>
    hrest negated (soFar.add set)
  refine .of_each fun rest x left hread => ?_
  -- Without a character behind it there is no operator, but no range either.
  have hne : rest ≠ [] := by
    rintro rfl
    unfold readNext operator? at hread
    rw [readRange_singleton] at hread
    cases hread
  have hoperator' := operator?_append c more hne
  unfold readNext at hread
  split at hread
  · rename_i operator hoperator
    have hnext := hrest negated { pending := some (soFar.value flags, operator) }
    refine ⟨(hnext.suffix hread).trans (List.tail_suffix rest), fun hm ahead' hf => ?_⟩
    obtain rfl := hf.resolve_right fun h => hne h.1
    unfold readNext
    rw [hoperator', hoperator, List.tail_append_of_ne_nil hne]
    exact hnext.carries hread hm (followed_append more rest.tail)
  · rename_i hoperator
    refine ⟨hrange.suffix hread, fun hm ahead' hf => ?_⟩
    obtain rfl := hf.resolve_right fun h => hne h.1
    unfold readNext
    rw [hoperator', hoperator]
    exact hrange.carries hread hm (followed_append more rest)

end

theorem carries_readClassRest (more : List Char) (flags : Flags) (h : fuel ≤ fuel')
    (negated : Bool) (soFar : ClassSoFar) :
    Carries more (readClassRest flags fuel negated soFar)
      (readClassRest flags fuel' negated soFar) := by
  induction fuel generalizing fuel' negated soFar with
  | zero =>
      have hnone : readClassRest flags 0 negated soFar = fun _ => none :=
        funext fun _ => by rw [readClassRest]
      rw [hnone]
      exact .none
  | succ fuel ih =>
      obtain ⟨fuel', rfl⟩ := Nat.exists_eq_add_of_le' (show 1 ≤ fuel' by omega)
      have hrest := ih (show fuel ≤ fuel' by omega)
      exact .head (skips_space more flags) (fun _ => readClassRest_of_nil)
        (fun _ _ _ => readClassRest_of_cons) (fun _ _ _ => readClassRest_of_cons) fun c =>
          .ite (fun _ => carries_readInner hrest negated soFar) fun _ =>
            .ite (fun _ => .pure _) fun _ => carries_readNext hrest negated soFar c

theorem readClass_eq (flags : Flags) (ahead : List Char) :
    readClass flags ahead =
      (some (((readClassOpening flags ahead).1, (readClassOpening flags ahead).2.1),
        (readClassOpening flags ahead).2.2)).bind fun r =>
        readClassRest flags (r.2.length + 1) r.1.1 r.1.2 r.2 := rfl

theorem carries_readClass (more : List Char) (flags : Flags) :
    Carries more (readClass flags) (readClass flags) := by
  rw [funext (readClass_eq flags)]
  exact (carries_readClassOpening more flags).bind fun o => .fueled 1 fun _ _ h =>
    carries_readClassRest more flags h o.1 o.2

end

end TreeQuery.Regex
