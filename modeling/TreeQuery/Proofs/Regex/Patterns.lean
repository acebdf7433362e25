/-
Patterns are read the same whatever follows.

The items of a pattern are read by readers that carry on (`carries_readItem`), and a round of the
reader for patterns reads one item or opens a group (`readPattern_of_cons`). By induction on the
fuel a pattern is the same with something behind it that closes it, if it is a pattern then
(`agreeing`): it may end in a comment, and with it the parenthesis that was to close it. The names
of groups that are known when the reader starts make no difference either, except that it may
refuse one. So what is read by itself is what is read in a group.
-/
import TreeQuery.Proofs.Regex.Classes

namespace TreeQuery.Regex

variable {flags : Flags} {more ahead ahead' left rest : List Char}

-- ============================================================ repetition

theorem digitsFrom_eq (flags : Flags) (fuel : Nat) (ahead : List Char) :
    readCount.digitsFrom flags fuel ahead = run flags Char.isDigit fuel ahead := by
  induction fuel generalizing ahead with
  | zero => rfl
  | succ fuel ih =>
      cases ahead with
      | nil => rfl
      | cons c rest =>
          unfold run
          rw [← ih]
          rfl

/-- The number written by digits. -/
def valueOf (digits : List Char) : Nat := digits.foldl (fun n c => 10 * n + (c.toNat - 0x30)) 0

theorem readCount_eq (flags : Flags) (ahead : List Char) :
    readCount flags ahead =
      (some (run flags Char.isDigit ((ahead.dropWhile Unicode.isWhitespace).length + 0)
        (ahead.dropWhile Unicode.isWhitespace))).bind fun r =>
        if r.1.isEmpty = true then none
        else if valueOf r.1 < UInt32.size then
          some (valueOf r.1, skipSpace flags (r.2.dropWhile Unicode.isWhitespace))
        else none := by
  unfold readCount
  dsimp only
  rw [digitsFrom_eq]
  rfl

theorem carries_readCount (more : List Char) (flags : Flags) :
    Carries more (readCount flags) (readCount flags) := by
  rw [funext (readCount_eq flags)]
  have hdigits := carries_run more flags (p := Char.isDigit) (by decide) 0
  exact .skipping (skips_blank more) (hdigits.bind fun digits =>
    .without (digits.isEmpty = true) (.when (valueOf digits < UInt32.size)
      (.skipping (skips_blank more) (.skipping (skips_space more flags) (.pure (valueOf digits))))))

theorem readGreed_eq (flags : Flags) (ahead : List Char) :
    some (readGreed flags ahead) =
      if ahead.head? = some '?' then some (flags.swapGreed, ahead.tail)
      else some (!flags.swapGreed, ahead) := by
  unfold readGreed
  split
  · rfl
  · rename_i hne
    rw [if_neg (head?_ne_some hne)]

theorem carries_readGreed (more : List Char) (flags : Flags) :
    Carries more (fun ahead => some (readGreed flags ahead))
      fun ahead => some (readGreed flags ahead) := by
  rw [funext (readGreed_eq flags)]
  exact .either (by decide) (.pure flags.swapGreed) (.pure !flags.swapGreed)

/-- The upper bound of a repetition, once the lower one is read. -/
def readMost (flags : Flags) (least : Nat) (ahead : List Char) :
    Option (Option Nat × List Char) :=
  if ahead.head? = some ',' then
    if (skipSpace flags ahead.tail).head? = some '\x7d' then
      some (none, skipSpace flags ahead.tail)
    else (readCount flags (skipSpace flags ahead.tail)).bind fun r => some (some r.1, r.2)
  else some (some least, ahead)

theorem carries_readMost (more : List Char) (flags : Flags) (least : Nat) :
    Carries more (readMost flags least) (readMost flags least) :=
  .either (by decide) (.skipping (skips_space more flags) (.peek (by decide) (.pure _)
    ((carries_readCount more flags).bind fun n => .pure (some n)))) (.pure (some least))

/-- What ends a repetition with bounds. -/
def readBoundsEnd (flags : Flags) (least : Nat) (most : Option Nat) (ahead : List Char) :
    Option ((Nat × Option Nat × Bool) × List Char) :=
  if ahead.head? = some '\x7d' then
    (some (readGreed flags (skipSpace flags ahead.tail))).bind fun r =>
      if most.all (least ≤ ·) = true then some ((least, most, r.1), r.2) else none
  else none

theorem carries_readBoundsEnd (more : List Char) (flags : Flags) (least : Nat)
    (most : Option Nat) :
    Carries more (readBoundsEnd flags least most) (readBoundsEnd flags least most) :=
  .need '\x7d' (.skipping (skips_space more flags)
    ((carries_readGreed more flags).bind fun greedy =>
      .when (most.all (least ≤ ·) = true) (.pure (least, most, greedy))))

theorem readBoundsEnd_eq (flags : Flags) (least : Nat) (most : Option Nat) (ahead : List Char) :
    (match ahead with
      | '\x7d' :: rest =>
        let (greedy, left) := readGreed flags (skipSpace flags rest)
        if most.all (least ≤ ·) then some (least, most, greedy, left) else none
      | _ => none) =
      (readBoundsEnd flags least most ahead).map fun r => (r.1.1, r.1.2.1, r.1.2.2, r.2) := by
  unfold readBoundsEnd
  split
  · rw [if_pos (List.head?_cons ..)]
    dsimp only [List.tail_cons, Option.bind_some]
    split <;> rfl
  · rename_i hne
    rw [if_neg (head?_ne_some hne)]
    rfl

/-- The bounds of a repetition and what it prefers. -/
def readRepetition (flags : Flags) (ahead : List Char) :
    Option ((Nat × Option Nat × Bool) × List Char) :=
  (readCount flags (skipSpace flags ahead)).bind fun r =>
    (readMost flags r.1 r.2).bind fun s => readBoundsEnd flags r.1 s.1 s.2

theorem carries_readRepetition (more : List Char) (flags : Flags) :
    Carries more (readRepetition flags) (readRepetition flags) :=
  ((carries_readCount more flags).skipping (skips_space more flags)).bind fun least =>
    (carries_readMost more flags least).bind fun most => carries_readBoundsEnd more flags least most

theorem readBounds_eq (flags : Flags) (ahead : List Char) :
    readBounds flags ahead =
      (readRepetition flags ahead).map fun r => (r.1.1, r.1.2.1, r.1.2.2, r.2) := by
  unfold readBounds readRepetition
  rw [Option.map_bind]
  refine Option.bind_congr ?_
  rintro ⟨least, rest⟩ -
  rw [Function.comp_apply, Option.map_bind]
  dsimp only
  unfold readMost
  split
  · split
    · rename_i left hbrace
      rw [if_pos (List.head?_cons ..), List.tail_cons, hbrace, if_pos (List.head?_cons ..)]
      exact readBoundsEnd_eq flags least none ('\x7d' :: left)
    · rename_i hne
      rw [if_pos (List.head?_cons ..), List.tail_cons, if_neg (head?_ne_some hne),
        Option.bind_assoc]
      refine Option.bind_congr ?_
      rintro ⟨n, left⟩ -
      exact readBoundsEnd_eq flags least (some n) left
  · rename_i hne
    rw [if_neg (head?_ne_some hne)]
    exact readBoundsEnd_eq flags least (some least) _

-- ================================================================= groups

/-- Flags end with a character that is left. -/
theorem readFlags_append {seen : List Char} {negated given : Bool} {inner : Flags}
    (more : List Char) (h : readFlags flags seen negated ahead = some (inner, given, left)) :
    left <:+ ahead ∧ (∃ c past, left = c :: past) ∧
      readFlags flags seen negated (ahead ++ more) = some (inner, given, left ++ more) := by
  induction ahead generalizing flags seen negated with
  | nil =>
      unfold readFlags at h
      cases h
  | cons c rest ih =>
      rw [List.cons_append]
      unfold readFlags at h ⊢
      split at h
      · rename_i hend
        rw [if_pos hend]
        split at h
        · cases h
        · rename_i hseen
          rw [if_neg hseen]
          simp only [Option.some.injEq, Prod.mk.injEq] at h
          obtain ⟨rfl, rfl, rfl⟩ := h
          exact ⟨List.suffix_rfl, ⟨c, rest, rfl⟩, rfl⟩
      · rename_i hend
        rw [if_neg hend]
        split at h
        · cases h
        · rename_i hseen
          rw [if_neg hseen]
          split at h
          · rename_i hc
            rw [if_pos hc]
            obtain ⟨hsuffix, hleft, hread⟩ := ih h
            exact ⟨hsuffix.trans (List.suffix_cons c rest), hleft, hread⟩
          · rename_i hc
            rw [if_neg hc]
            split at h
            · obtain ⟨hsuffix, hleft, hread⟩ := ih h
              exact ⟨hsuffix.trans (List.suffix_cons c rest), hleft, hread⟩
            · cases h

/-- The name of a group ends with a bracket. -/
theorem readGroupName_more {name : String} (more : List Char)
    (h : readGroupName ahead = some (name, left)) :
    left <:+ ahead ∧ readGroupName (ahead ++ more) = some (name, left ++ more) := by
  unfold readGroupName at h
  split at h
  · cases h
  · rename_i c rest
    split at h
    · rename_i hc
      split at h
      · rename_i past hrest
        simp only [Option.some.injEq, Prod.mk.injEq] at h
        obtain ⟨rfl, rfl⟩ := h
        obtain ⟨hdrop, htake⟩ := while_append more (hrest ▸ List.cons_ne_nil _ _)
        have hpast : '>' :: past <:+ rest := hrest ▸ List.dropWhile_suffix _
        refine ⟨((List.suffix_cons '>' past).trans hpast).trans (List.suffix_cons c rest), ?_⟩
        rw [List.cons_append]
        unfold readGroupName
        dsimp only
        rw [if_pos hc, hdrop, htake, hrest]
        rfl
      · cases h
    · cases h

/-- A group that is recorded, from its name on. -/
def readNamed (ahead : List Char) : Option (Opening × List Char) :=
  (readGroupName ahead).bind fun r => some (.named r.1, r.2)

/-- What flags belong to, by the character that ends them. -/
def flagged? (flags : Flags) (given : Bool) (c : Char) : Option Opening :=
  if c = ')' then if given then some (.flags flags) else none else some (.group flags)

/-- Flags, for the rest of the group around them or for a group of their own. -/
def readFlagged (flags : Flags) (ahead : List Char) : Option (Opening × List Char) :=
  (readFlags flags [] false ahead).bind fun r =>
    r.2.2.head?.bind fun c => (flagged? r.1 r.2.1 c).bind fun opening =>
      some (opening, r.2.2.tail)

theorem readFlagged_eq (flags : Flags) (ahead : List Char) :
    ((readFlags flags [] false ahead).bind fun r => match r with
      | (inner, given, ')' :: left) => if given then some (Opening.flags inner, left) else none
      | (inner, _, _ :: left) => some (.group inner, left)
      | _ => none) = readFlagged flags ahead := by
  unfold readFlagged
  refine Option.bind_congr ?_
  rintro ⟨inner, given, left⟩ -
  cases left with
  | nil => rfl
  | cons c past =>
      dsimp only [List.head?_cons, Option.bind_some, List.tail_cons]
      unfold flagged?
      split
      · rename_i heq
        simp only [Prod.mk.injEq, List.cons.injEq] at heq
        obtain ⟨rfl, rfl, rfl, rfl⟩ := heq
        rw [if_pos rfl]
        split <;> rfl
      · rename_i d past hd heq
        simp only [Prod.mk.injEq, List.cons.injEq] at heq
        obtain ⟨rfl, rfl, rfl, rfl⟩ := heq
        rw [if_neg hd]
        rfl
      · rename_i hnone
        exact absurd rfl (hnone inner given c past)

theorem carries_readNamed (more : List Char) : Carries more readNamed readNamed := by
  refine .of_each fun ahead x left h => ?_
  obtain ⟨⟨name, rest⟩, hname, hnamed⟩ := Option.bind_eq_some_iff.1 h
  obtain ⟨rfl, rfl⟩ := Prod.mk.inj (Option.some.inj hnamed)
  obtain ⟨hsuffix, hread⟩ := readGroupName_more more hname
  refine ⟨hsuffix, fun hm ahead' hf => ?_⟩
  rcases hf with rfl | ⟨rfl, -⟩
  · exact ⟨rest ++ more, Option.bind_eq_some_iff.2 ⟨_, hread, rfl⟩, followed_append more rest⟩
  · cases hname

theorem carries_readFlagged (more : List Char) (flags : Flags) (c : Char) :
    Carries more (fun rest => readFlagged flags (c :: rest))
      fun rest => readFlagged flags (c :: rest) := by
  refine .of_each fun rest x left h => ?_
  obtain ⟨⟨inner, given, past⟩, hflags, hend⟩ := Option.bind_eq_some_iff.1 h
  obtain ⟨hsuffix, ⟨d, past, rfl⟩, hread⟩ := readFlags_append more hflags
  have hend : (flagged? inner given d).bind (fun opening => some (opening, past)) =
    some (x, left) := hend
  obtain ⟨opening, hopening, hlast⟩ := Option.bind_eq_some_iff.1 hend
  obtain ⟨rfl, rfl⟩ := Prod.mk.inj (Option.some.inj hlast)
  refine ⟨?_, fun hm ahead' hf => ?_⟩
  · rcases List.suffix_cons_iff.1 hsuffix with heq | hsuffix
    · exact (List.cons.inj heq).2 ▸ List.suffix_rfl
    · exact (List.suffix_cons d past).trans hsuffix
  · rcases hf with rfl | ⟨rfl, rfl⟩
    · refine ⟨past ++ more, ?_, followed_append more past⟩
      unfold readFlagged
      rw [← List.cons_append, hread]
      show (flagged? inner given d).bind _ = _
      rw [hopening]
      rfl
    · exact ⟨past, h, .inr ⟨by simpa using hsuffix.length_le, by simpa using hsuffix.length_le⟩⟩

/-- A question mark is no white space, and starts no comment. -/
theorem skipSpace_question (flags : Flags) (rest : List Char) :
    skipSpace flags ('?' :: rest) = '?' :: rest := by
  unfold skipSpace
  split
  · have hblank : Unicode.isWhitespace '?' = false := by decide
    unfold skipSpace.go
    rw [if_neg Bool.false_ne_true, hblank]
    rfl
  · rfl

theorem readOpening_eq (flags : Flags) (ahead : List Char) :
    readOpening flags ahead =
      if (skipSpace flags ahead).head? = some '?' then
        readOpening flags ('?' :: (skipSpace flags ahead).tail)
      else some (.group flags, skipSpace flags ahead) := by
  by_cases h : (skipSpace flags ahead).head? = some '?'
  · obtain ⟨rest, hrest⟩ := List.head?_eq_some_iff.1 h
    rw [if_pos h, hrest, List.tail_cons]
    unfold readOpening
    rw [hrest, skipSpace_question]
  · rw [if_neg h]
    unfold readOpening
    split
    · rename_i heq
      exact absurd (congrArg List.head? heq) h
    · rfl

theorem readOpening_cons (flags : Flags) (c : Char) (rest : List Char) :
    readOpening flags ('?' :: c :: rest) =
      if c = '=' ∨ c = '!' then none
      else if c = 'P' then if rest.head? = some '<' then readNamed rest.tail else none
      else if c = '<' then
        if rest.head? = some '=' then none
        else if rest.head? = some '!' then none
        else readNamed rest
      else readFlagged flags (c :: rest) := by
  unfold readOpening
  rw [skipSpace_question]
  split
  · rename_i heq
    obtain rfl := (List.cons.inj heq).2
    split
    iterate 5
      · rename_i heq
        obtain ⟨rfl, rfl⟩ := List.cons.inj heq
        rfl
    · rename_i hequal hnot heq
      obtain ⟨rfl, rfl⟩ := List.cons.inj heq
      rw [if_neg (by decide), if_neg (by decide), if_pos rfl, if_neg (head?_ne_some hequal),
        if_neg (head?_ne_some hnot)]
      rfl
    · rename_i hequal hnot _ _ hnamed hless
      rw [if_neg fun h : c = '=' ∨ c = '!' => h.elim (fun hc => hequal rest (hc ▸ rfl))
        fun hc => hnot rest (hc ▸ rfl)]
      split
      · rename_i hc
        subst hc
        rw [if_neg (head?_ne_some fun past hpast => hnamed past (hpast ▸ rfl))]
        rfl
      · rw [if_neg fun hc : c = '<' => hless rest (hc ▸ rfl)]
        exact readFlagged_eq flags (c :: rest)
  · rename_i hne
    exact absurd rfl (hne _)

theorem carries_readOpening (more : List Char) (flags : Flags) :
    Carries more (readOpening flags) (readOpening flags) := by
  rw [funext (readOpening_eq flags)]
  have hmarked : Carries more (fun rest => readOpening flags ('?' :: rest))
      fun rest => readOpening flags ('?' :: rest) := by
    refine .head (skips_nothing more) ?_ ?_ ?_ fun c => .without (c = '=' ∨ c = '!')
      (.ite (p := c = 'P') (fun _ => .need '<' (carries_readNamed more)) fun _ =>
        .ite (p := c = '<') (fun _ => .peek (c := '=') (by decide) .refused
          (.peek (c := '!') (by decide) .refused (carries_readNamed more)))
          fun _ => carries_readFlagged more flags c)
    · rintro _ rfl
      unfold readOpening
      rw [skipSpace_question]
      rfl
    · rintro _ c rest rfl
      exact readOpening_cons flags c rest
    · rintro _ c rest rfl
      exact readOpening_cons flags c rest
  exact .skipping (skips_space more flags) (.either (by decide) hmarked
    (.pure (Opening.group flags)))

-- ================================================================== items

variable {draft : Draft} {fuel fuel' : Nat} {names known : List String}

/-- What a pattern is read as, apart from groups. -/
inductive Item where
  /-- The end of an alternative. -/
  | branch
  | single (regex : Regex)
  /-- A mark that repeats the item before it. -/
  | repeated (least : Nat) (most : Option Nat) (greedy : Bool)

/-- The draft with one more item, if that can stand there. -/
def Draft.add? (draft : Draft) : Item → Option Draft
  | .branch =>
    some { draft with branches := sequence draft.items :: draft.branches, items := [] }
  | .single regex => some (draft.push (some regex))
  | .repeated least most greedy =>
    (repeatLast least most greedy draft.items).map fun items => { draft with items := items }

/-- An item adds no names, and does not depend on them. -/
theorem Draft.add?_names {item : Item} {later : Draft} (h : draft.add? item = some later)
    (known : List String) : later.names = draft.names ∧
      ({ draft with names := known } : Draft).add? item = some { later with names := known } := by
  cases item with
  | branch =>
      obtain rfl := Option.some.inj h
      exact ⟨rfl, rfl⟩
  | single regex =>
      obtain rfl := Option.some.inj h
      exact ⟨rfl, rfl⟩
  | repeated least most greedy =>
      obtain ⟨items, hitems, rfl⟩ := Option.map_eq_some_iff.1 h
      exact ⟨rfl, Option.map_eq_some_iff.2 ⟨items, hitems, rfl⟩⟩

/-- The next item of a pattern, if that is no group. -/
def readItem (flags : Flags) (c : Char) (rest : List Char) : Option (Item × List Char) :=
  if c = '|' then some (.branch, rest)
  else if c = '[' then
    (readClass flags rest).bind fun r =>
      if (flags.unicode || r.1.isAscii) = true then some (.single (.one r.1), r.2) else none
  else if c = '?' ∨ c = '*' ∨ c = '+' then
    (some (readGreed flags rest)).bind fun r =>
      some (.repeated (if c = '+' then 1 else 0) (if c = '?' then some 1 else none) r.1, r.2)
  else if c = '\x7b' then
    (readRepetition flags rest).bind fun r => some (.repeated r.1.1 r.1.2.1 r.1.2.2, r.2)
  else if c = '\\' then
    (readEscape flags rest).bind fun r =>
      (escapeItem flags r.1).bind fun regex => some (.single regex, r.2)
  else if c = '.' then
    if flags.unicode then some (.single (.one (anyCharacter flags)), rest) else none
  else if c = '^' then some (.single (.assertion (startAssertion flags)), rest)
  else if c = '$' then some (.single (.assertion (endAssertion flags)), rest)
  else some (.single (literal flags c), rest)

theorem carries_readItem (more : List Char) (flags : Flags) (c : Char) :
    Carries more (readItem flags c) (readItem flags c) :=
  .ite (p := c = '|') (fun _ => .pure _) fun _ =>
  .ite (p := c = '[') (fun _ => (carries_readClass more flags).bind fun set =>
    .when ((flags.unicode || set.isAscii) = true) (.pure (Item.single (.one set)))) fun _ =>
  .ite (p := c = '?' ∨ c = '*' ∨ c = '+') (fun _ => (carries_readGreed more flags).bind
    fun greedy => .pure (Item.repeated (if c = '+' then 1 else 0)
      (if c = '?' then some 1 else none) greedy)) fun _ =>
  .ite (p := c = '\x7b') (fun _ => (carries_readRepetition more flags).bind fun r =>
    .pure (Item.repeated r.1 r.2.1 r.2.2)) fun _ =>
  .ite (p := c = '\\') (fun _ => (carries_readEscape more flags).bind fun escape =>
    .given (escapeItem flags escape) fun regex => .pure (Item.single regex)) fun _ =>
  .ite (p := c = '.') (fun _ => .when (flags.unicode = true) (.pure _)) fun _ =>
  .ite (p := c = '^') (fun _ => .pure _) fun _ =>
  .ite (p := c = '$') (fun _ => .pure _) fun _ => .pure _

/-- A group up to the parenthesis that closes it. -/
def readClosed (fuel : Nat) (flags : Flags) (names : List String) (rest : List Char) :
    Option (Regex × List String × List Char) :=
  (readPattern fuel flags { names := names } rest).bind fun r =>
    if r.2.2.head? = some ')' then some (r.1, r.2.1, r.2.2.tail) else none

theorem readClosed_bind (fuel : Nat) (flags : Flags) (names : List String) (rest : List Char)
    (next : Regex → List String → List Char → Option (Regex × List String × List Char)) :
    ((readPattern fuel flags { names := names } rest).bind fun r => match r.2.2 with
      | ')' :: left => next r.1 r.2.1 left
      | _ => none) =
      (readClosed fuel flags names rest).bind fun r => next r.1 r.2.1 r.2.2 := by
  unfold readClosed
  rw [Option.bind_assoc]
  refine Option.bind_congr ?_
  rintro ⟨body, names, left⟩ -
  dsimp only
  split
  · rfl
  · rename_i hne
    rw [if_neg (head?_ne_some hne)]
    rfl

/-- What a parenthesis opens, and the rest of the pattern after it. -/
def readOpened (fuel : Nat) (flags : Flags) (draft : Draft) (opening : Opening)
    (rest : List Char) : Option (Regex × List String × List Char) :=
  match opening with
  | .flags inner => readPattern fuel inner (draft.push none) rest
  | .group inner => (readClosed fuel inner draft.names rest).bind fun r =>
      readPattern fuel flags { draft.push (some r.1) with names := r.2.1 } r.2.2
  | .named name => if draft.names.contains name = true then none else
      (readClosed fuel flags (name :: draft.names) rest).bind fun r =>
        readPattern fuel flags { draft.push (some (.capture name r.1)) with names := r.2.1 } r.2.2

theorem readPattern_of_cons {c : Char} (h : skipSpace flags ahead = c :: rest) :
    readPattern (fuel + 1) flags draft ahead =
      if c = ')' then some (draft.finish, draft.names, c :: rest)
      else if c = '(' then
        (readOpening flags rest).bind fun r => readOpened fuel flags draft r.1 r.2
      else (readItem flags c rest).bind fun r => (draft.add? r.1).bind fun later =>
        readPattern fuel flags later r.2 := by
  have hrepeated : ∀ least most greedy left,
      ((repeatLast least most greedy draft.items).bind fun items =>
        readPattern fuel flags { draft with items := items } left) =
      (draft.add? (.repeated least most greedy)).bind fun later =>
        readPattern fuel flags later left := by
    intro least most greedy left
    unfold Draft.add?
    rw [Option.bind_map]
    rfl
  rw [readPattern, h]
  dsimp only
  split
  · rfl
  · rfl
  · refine Option.bind_congr ?_
    rintro ⟨opening, left⟩ -
    cases opening with
    | flags inner => rfl
    | group inner =>
        exact readClosed_bind fuel inner draft.names left fun body names left =>
          readPattern fuel flags { draft.push (some body) with names := names } left
    | named name =>
        unfold readOpened
        dsimp only
        split
        · rfl
        · exact readClosed_bind fuel flags (name :: draft.names) left fun body names left =>
            readPattern fuel flags
              { draft.push (some (.capture name body)) with names := names } left
  · show (readClass flags rest).bind _ = ((readClass flags rest).bind _).bind _
    rw [Option.bind_assoc]
    refine Option.bind_congr ?_
    rintro ⟨set, left⟩ -
    dsimp only
    split <;> rfl
  · rw [readPattern.repeated]
    exact hrepeated 0 (some 1) (readGreed flags rest).1 (readGreed flags rest).2
  · rw [readPattern.repeated]
    exact hrepeated 0 none (readGreed flags rest).1 (readGreed flags rest).2
  · rw [readPattern.repeated]
    exact hrepeated 1 none (readGreed flags rest).1 (readGreed flags rest).2
  · show (readBounds flags rest).bind _ = ((readRepetition flags rest).bind _).bind _
    rw [readBounds_eq, Option.bind_map, Option.bind_assoc]
    refine Option.bind_congr ?_
    rintro ⟨⟨least, most, greedy⟩, left⟩ -
    exact hrepeated least most greedy left
  · show (readEscape flags rest).bind _ = ((readEscape flags rest).bind _).bind _
    rw [Option.bind_assoc]
    refine Option.bind_congr ?_
    rintro ⟨escape, left⟩ -
    show (escapeItem flags escape).bind _ = ((escapeItem flags escape).bind _).bind _
    rw [Option.bind_assoc]
    rfl
  · show _ = (if flags.unicode = true then _ else none : Option (Item × List Char)).bind _
    split <;> rfl
  · rfl
  · rfl
  · rename_i hclose halt hopen hclass hquestion hstar hplus hbrace hescape hdot hstart hend
    have hmark : ¬(c = '?' ∨ c = '*' ∨ c = '+') := fun h =>
      h.elim hquestion fun h => h.elim hstar hplus
    unfold readItem
    rw [if_neg hclose, if_neg hopen, if_neg halt, if_neg hclass, if_neg hmark, if_neg hbrace,
      if_neg hescape, if_neg hdot, if_neg hstart, if_neg hend]
    rfl

theorem readPattern_of_nil (h : skipSpace flags ahead = []) :
    readPattern (fuel + 1) flags draft ahead = some (draft.finish, draft.names, []) := by
  rw [readPattern, h]

-- =============================================================== patterns

theorem readPattern_of_readClosed {r : Regex × List String × List Char}
    (h : readClosed fuel flags names ahead = some r) :
    readPattern fuel flags { names := names } ahead = some (r.1, r.2.1, ')' :: r.2.2) := by
  obtain ⟨⟨body, later, left⟩, hbody, hclose⟩ := Option.bind_eq_some_iff.1 h
  split at hclose
  · rename_i hhead
    obtain ⟨past, rfl⟩ := List.head?_eq_some_iff.1 hhead
    obtain rfl := Option.some.inj hclose
    exact hbody
  · cases hclose

/-- With that much fuel, what is left of a pattern is the end of it. -/
def Shortening (fuel : Nat) : Prop :=
  ∀ {flags draft ahead r}, readPattern fuel flags draft ahead = some r → r.2.2 <:+ ahead

theorem Shortening.readClosed (h : Shortening fuel) {r : Regex × List String × List Char}
    (hr : readClosed fuel flags names ahead = some r) : r.2.2 <:+ ahead :=
  (List.suffix_cons ')' r.2.2).trans (h (readPattern_of_readClosed hr))

theorem Shortening.readOpened (h : Shortening fuel) {opening : Opening}
    {r : Regex × List String × List Char}
    (hr : readOpened fuel flags draft opening ahead = some r) : r.2.2 <:+ ahead := by
  unfold Regex.readOpened at hr
  cases opening with
  | flags inner => exact h hr
  | group inner =>
      obtain ⟨s, hs, hr⟩ := Option.bind_eq_some_iff.1 hr
      exact (h hr).trans (h.readClosed hs)
  | named name =>
      dsimp only at hr
      split at hr
      · cases hr
      · obtain ⟨s, hs, hr⟩ := Option.bind_eq_some_iff.1 hr
        exact (h hr).trans (h.readClosed hs)

theorem shortening (fuel : Nat) : Shortening fuel := by
  induction fuel with
  | zero =>
      intro flags draft ahead r h
      rw [readPattern] at h
      cases h
  | succ fuel ih =>
      intro flags draft ahead r h
      cases hskip : skipSpace flags ahead with
      | nil =>
          rw [readPattern_of_nil hskip] at h
          cases h
          exact List.nil_suffix
      | cons c rest =>
          have hsuffix : c :: rest <:+ ahead := hskip ▸ skipSpace_suffix flags ahead
          have hrest : rest <:+ ahead := (List.suffix_cons c rest).trans hsuffix
          rw [readPattern_of_cons hskip] at h
          split at h
          · cases h
            exact hsuffix
          · split at h
            · obtain ⟨⟨opening, past⟩, hopening, h⟩ := Option.bind_eq_some_iff.1 h
              have hpast := (carries_readOpening [] flags).suffix hopening
              exact ((ih.readOpened h).trans hpast).trans hrest
            · obtain ⟨⟨item, past⟩, hitem, h⟩ := Option.bind_eq_some_iff.1 h
              obtain ⟨later, -, h⟩ := Option.bind_eq_some_iff.1 h
              exact ((ih h).trans ((carries_readItem [] flags c).suffix hitem)).trans hrest

/-- What is read of a pattern when some names are known, and what is read of it with more behind
it when others are: the same, with the same new names. -/
structure Agree (more : List Char) (known known' : List String)
    (r r' : Regex × List String × List Char) : Prop where
  regex : r'.1 = r.1
  names : ∃ new, r.2.1 = new ++ known ∧ r'.2.1 = new ++ known'
  left : Followed more r.2.2 r'.2.2

/-- With that much fuel, patterns are read the same with more behind them and other names known. -/
def Agreeing (more : List Char) (fuel : Nat) : Prop :=
  ∀ {flags draft ahead r fuel' known ahead' r'}, readPattern fuel flags draft ahead = some r →
    readPattern fuel' flags { draft with names := known } ahead' = some r' →
    (r.2.2 ≠ [] ∨ Closing more) → Followed more ahead ahead' → Agree more draft.names known r r'

theorem Agree.trans {known₁ known₁' known₂ known₂' : List String}
    {r r' : Regex × List String × List Char} (h : Agree more known₂ known₂' r r')
    (hk : ∃ new, known₂ = new ++ known₁ ∧ known₂' = new ++ known₁') :
    Agree more known₁ known₁' r r' := by
  obtain ⟨new, rfl, rfl⟩ := hk
  obtain ⟨later, hlater, hlater'⟩ := h.names
  refine ⟨h.regex, ⟨later ++ new, ?_, ?_⟩, h.left⟩
  · rw [hlater, List.append_assoc]
  · rw [hlater', List.append_assoc]

theorem Agreeing.start (h : Agreeing more fuel) {known' : List String}
    {r r' : Regex × List String × List Char}
    (hr : readPattern fuel flags { names := known } ahead = some r)
    (hr' : readPattern fuel' flags { names := known' } ahead' = some r')
    (hm : r.2.2 ≠ [] ∨ Closing more) (hf : Followed more ahead ahead') :
    Agree more known known' r r' :=
  @h flags { names := known } ahead r fuel' known' ahead' r' hr hr' hm hf

theorem Agreeing.readClosed (h : Agreeing more fuel) {known' : List String}
    {r r' : Regex × List String × List Char}
    (hr : readClosed fuel flags known ahead = some r)
    (hr' : readClosed fuel' flags known' ahead' = some r')
    (hf : Followed more ahead ahead') : Agree more known known' r r' := by
  have hagree := h.start (readPattern_of_readClosed hr) (readPattern_of_readClosed hr')
    (.inl (List.cons_ne_nil _ _)) hf
  exact ⟨hagree.regex, hagree.names, .inl (List.cons.inj hagree.left.cons).2⟩

theorem Agreeing.readOpened (h : Agreeing more fuel) {opening : Opening}
    {r r' : Regex × List String × List Char}
    (hr : readOpened fuel flags draft opening ahead = some r)
    (hr' : readOpened fuel' flags { draft with names := known } opening ahead' = some r')
    (hm : r.2.2 ≠ [] ∨ Closing more) (hf : Followed more ahead ahead') :
    Agree more draft.names known r r' := by
  unfold Regex.readOpened at hr hr'
  cases opening with
  | flags inner => exact @h _ (draft.push none) _ _ _ _ _ _ hr hr' hm hf
  | group inner =>
      obtain ⟨s, hs, hr⟩ := Option.bind_eq_some_iff.1 hr
      obtain ⟨s', hs', hr'⟩ := Option.bind_eq_some_iff.1 hr'
      have hagree := h.readClosed hs hs' hf
      rw [hagree.regex] at hr'
      exact (h hr hr' hm hagree.left).trans hagree.names
  | named name =>
      dsimp only at hr hr'
      split at hr
      · cases hr
      · split at hr'
        · cases hr'
        · obtain ⟨s, hs, hr⟩ := Option.bind_eq_some_iff.1 hr
          obtain ⟨s', hs', hr'⟩ := Option.bind_eq_some_iff.1 hr'
          have hagree := (h.readClosed hs hs' hf).trans ⟨[name], rfl, rfl⟩
          rw [hagree.regex] at hr'
          exact (h hr hr' hm hagree.left).trans hagree.names

theorem agreeing (more : List Char) (fuel : Nat) : Agreeing more fuel := by
  induction fuel with
  | zero =>
      intro flags draft ahead r fuel' known ahead' r' h
      rw [readPattern] at h
      cases h
  | succ fuel ih =>
      intro flags draft ahead r fuel' known ahead' r' h h' hm hf
      cases fuel' with
      | zero =>
          rw [readPattern] at h'
          cases h'
      | succ fuel' =>
          have hspace := skips_space more flags
          cases hskip : skipSpace flags ahead with
          | nil =>
              rw [readPattern_of_nil hskip] at h
              cases h
              have hclosing := hm.resolve_left fun h => h rfl
              have hskip' := hspace.followed hf (.inr hclosing)
              rw [hskip] at hskip'
              rcases hskip' with hskip' | ⟨-, hskip'⟩
              · obtain ⟨rest, rfl⟩ := hclosing.exists_cons
                rw [readPattern_of_cons hskip', if_pos rfl] at h'
                cases h'
                exact ⟨rfl, ⟨[], rfl, rfl⟩, .inl rfl⟩
              · rw [readPattern_of_nil hskip'] at h'
                cases h'
                exact ⟨rfl, ⟨[], rfl, rfl⟩, .inr ⟨rfl, rfl⟩⟩
          | cons c rest =>
              have hskip' := hspace.cons hskip hf
              rw [readPattern_of_cons hskip] at h
              rw [readPattern_of_cons hskip'] at h'
              split at h
              · rename_i hc
                rw [if_pos hc] at h'
                cases h
                cases h'
                exact ⟨rfl, ⟨[], rfl, rfl⟩, followed_append more (c :: rest)⟩
              · rename_i hc
                rw [if_neg hc] at h'
                split at h
                · rename_i hopen
                  rw [if_pos hopen] at h'
                  obtain ⟨⟨opening, past⟩, hopening, h⟩ := Option.bind_eq_some_iff.1 h
                  have hpast := clear_of_suffix (Shortening.readOpened (shortening fuel) h) hm
                  obtain ⟨past', hopening', hf'⟩ := (carries_readOpening more flags).carries
                    hopening hpast (followed_append more rest)
                  rw [hopening', Option.bind_some] at h'
                  exact ih.readOpened h h' hm hf'
                · rename_i hopen
                  rw [if_neg hopen] at h'
                  obtain ⟨⟨item, past⟩, hitem, h⟩ := Option.bind_eq_some_iff.1 h
                  obtain ⟨later, hlater, h⟩ := Option.bind_eq_some_iff.1 h
                  have hpast := clear_of_suffix (shortening fuel h) hm
                  obtain ⟨past', hitem', hf'⟩ := (carries_readItem more flags c).carries hitem
                    hpast (followed_append more rest)
                  obtain ⟨hnames, hlater'⟩ := Draft.add?_names hlater known
                  rw [hitem', Option.bind_some, hlater', Option.bind_some] at h'
                  exact hnames ▸ ih h h' hm hf'

end TreeQuery.Regex
