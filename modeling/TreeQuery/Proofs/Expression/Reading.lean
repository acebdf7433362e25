/-
Reading is deriving.

`Reads` ties a reader to a production of the grammar, in both directions. What a derivation
writes is read as what it stands for, and reading stops where the derivation does, as long as
what follows ends the part; and whatever is read has been derived. One lemma for each reader,
from the tokens to the steps (`reads_…`). Readers take the longest name, the longest run of
digits and all white space there is, which is why the first direction needs to know what
follows and the second does not.

The grammar gives a text one derivation at most, so compiling answers with the steps of the
derivation of the text, or refuses because there is none.
-/
import Mathlib.Data.List.TakeWhile
import TreeQuery.Proofs.Expression.Grammar

namespace TreeQuery.Expression.Grammar

open Unicode
open Text

/-- The reader reads what derivations write, where they end, and nothing else. -/
structure Reads {α β : Type} (reader : List Char → Reading β) (write : α → List Char)
    (value : α → β) (follow : List Char → Prop) : Prop where
  accepts : ∀ x rest, follow rest → reader (write x ++ rest) = .ok (value x, rest)
  derives : ∀ ahead v rest, reader ahead = .ok (v, rest) →
    ∃ x, ahead = write x ++ rest ∧ v = value x

variable {ahead rest : List Char}

-- ============================================================== tokens

theorem skipBlank_run (blank : Blank) (h : Ends isWhitespace rest) :
    skipBlank (blank.run ++ rest) = rest :=
  dropWhile_run blank.blank h

/-- What is skipped is white space. -/
theorem exists_blank (ahead : List Char) :
    ∃ blank : Blank, ahead = blank.run ++ skipBlank ahead := by
  refine ⟨⟨ahead.takeWhile isWhitespace, fun c hc => ?_⟩, ?_⟩
  · exact List.mem_takeWhile_imp hc
  · exact (List.takeWhile_append_dropWhile).symm

theorem readName?_write (name : Name) (h : Ends isNamePart rest) :
    readName? (name.write ++ rest) = some (name.text, rest) := by
  have htake := takeWhile_run name.isNamePart_rest h
  have hdrop := dropWhile_run name.isNamePart_rest h
  simp only [Name.write, Name.text, List.cons_append, readName?, name.isNameStart_first, if_true,
    htake, hdrop]

theorem exists_name {text : String} (h : readName? ahead = some (text, rest)) :
    ∃ name : Name, ahead = name.write ++ rest ∧ text = name.text := by
  cases ahead with
  | nil => cases h
  | cons c more =>
      simp only [readName?] at h
      split at h
      · rename_i hstart
        obtain ⟨rfl, rfl⟩ := Prod.mk.inj (Option.some.inj h)
        refine ⟨⟨c, more.takeWhile isNamePart, ?_, fun d hd => ?_⟩, ?_, rfl⟩
        · simpa [isNameStart] using hstart
        · simpa [isNamePart, or_assoc] using List.mem_takeWhile_imp hd
        · show c :: more = c :: (_ ++ _)
          rw [List.takeWhile_append_dropWhile]
      · cases h

/-- The pieces of a literal, up to its quote. -/
theorem readLiteralBody?_write {quote : Char} (hq : quote ≠ '\\') (pieces : List (Piece quote))
    (rest : List Char) :
    readLiteralBody? quote (pieces.flatMap Piece.write ++ quote :: rest) =
      some (pieces.map Piece.value, rest) := by
  induction pieces with
  | nil =>
      show readLiteralBody? quote (quote :: rest) = _
      unfold readLiteralBody?
      split <;> simp_all
  | cons piece pieces ih =>
      cases piece with
      | plain c notQuote notBackslash =>
          show readLiteralBody? quote (c :: (pieces.flatMap Piece.write ++ quote :: rest)) = _
          rw [readLiteralBody?.eq_4 _ _ _ (by simp_all) (by simp_all), if_neg notQuote, ih]
          rfl
      | pair c =>
          show readLiteralBody? quote
            ('\\' :: c :: (pieces.flatMap Piece.write ++ quote :: rest)) = _
          rw [readLiteralBody?, ih]
          rfl

theorem exists_pieces {quote : Char} {value : List Char}
    (h : readLiteralBody? quote ahead = some (value, rest)) :
    ∃ pieces : List (Piece quote), ahead = pieces.flatMap Piece.write ++ quote :: rest ∧
      value = pieces.map Piece.value := by
  fun_induction readLiteralBody? quote ahead generalizing value rest with
  | case1 => cases h
  | case2 => cases h
  | case3 c more ih =>
      obtain ⟨⟨cs, left⟩, hbody, h⟩ := Option.map_eq_some_iff.1 h
      obtain ⟨rfl, rfl⟩ := Prod.mk.inj h
      obtain ⟨pieces, rfl, rfl⟩ := ih hbody
      exact ⟨.pair c :: pieces, rfl, rfl⟩
  | case4 c more =>
      obtain ⟨rfl, rfl⟩ := Prod.mk.inj (Option.some.inj h)
      exact ⟨[], rfl, rfl⟩
  | case5 c more hlast hpair hne ih =>
      have notBackslash : c ≠ '\\' := by
        rintro rfl
        cases more with
        | nil => exact hlast rfl rfl
        | cons d more => exact hpair d more rfl rfl
      obtain ⟨⟨cs, left⟩, hbody, h⟩ := Option.map_eq_some_iff.1 h
      obtain ⟨rfl, rfl⟩ := Prod.mk.inj h
      obtain ⟨pieces, rfl, rfl⟩ := ih hbody
      exact ⟨.plain c hne notBackslash :: pieces, rfl, rfl⟩

theorem reads_literal : Reads readLiteral Literal.write Literal.value fun _ => True where
  accepts := by
    rintro ⟨quote, isQuote, pieces⟩ rest -
    have hbody := readLiteralBody?_write
      (Literal.quote_ne_backslash ⟨quote, isQuote, pieces⟩) pieces rest
    simp only [Literal.write, List.cons_append, List.append_assoc, List.nil_append]
    rcases isQuote with rfl | rfl
    · simp only [readLiteral, readLiteral.close, hbody, Literal.value]
    · simp only [readLiteral, readLiteral.close, hbody, Literal.value]
  derives := by
    have close : ∀ {quote : Char} {whole more rest : List Char} {v : String}
        (isQuote : quote = '\'' ∨ quote = '"'),
        readLiteral.close whole quote more = .ok (v, rest) →
          ∃ x : Literal, quote :: more = x.write ++ rest ∧ v = x.value := by
      intro quote whole more rest v isQuote h
      unfold readLiteral.close at h
      split at h
      · rename_i value left hbody
        obtain ⟨rfl, rfl⟩ := Prod.mk.inj (Except.ok.inj h)
        obtain ⟨pieces, rfl, rfl⟩ := exists_pieces hbody
        refine ⟨⟨quote, isQuote, pieces⟩, ?_, rfl⟩
        simp only [Literal.write, List.cons_append, List.append_assoc, List.nil_append]
      · cases h
    intro ahead v rest h
    unfold readLiteral at h
    split at h
    · exact close (.inl rfl) h
    · exact close (.inr rfl) h
    · cases h

-- ========================================================== predicates

theorem reads_position : Reads readPosition Digits.run (fun digits => .position digits.value)
    (Ends isDigit) where
  accepts := by
    intro digits rest h
    have hvalue : digitsValue digits.run = digits.value := rfl
    have hpos : digits.value ≠ 0 := Nat.ne_of_gt digits.positive
    have hlt : digits.value < positionBound := digits.bounded
    simp only [readPosition, takeWhile_run digits.isDigit_run h,
      dropWhile_run digits.isDigit_run h, hvalue, hpos, hlt, if_false, if_true]
  derives := by
    intro ahead v rest h
    simp only [readPosition] at h
    split at h
    · cases h
    · rename_i hpos
      split at h
      · rename_i hlt
        obtain ⟨rfl, rfl⟩ := Prod.mk.inj (Except.ok.inj h)
        refine ⟨⟨ahead.takeWhile isDigit, fun c hc => ?_, Nat.pos_of_ne_zero hpos, hlt⟩, ?_, rfl⟩
        · simpa [isDigit] using List.mem_takeWhile_imp hc
        · exact (List.takeWhile_append_dropWhile).symm
      · cases h

/-- The test of a property, after its sign. -/
theorem readAttribute_write (name : Name) (before after : Blank) (value : Literal)
    (rest : List Char) :
    readAttribute (name.write ++ (before.run ++ '=' :: (after.run ++ (value.write ++ rest)))) =
      .ok (.attribute name.text value.value, rest) := by
  have hsign : ∀ ahead, skipBlank (before.run ++ '=' :: ahead) = '=' :: ahead := fun ahead =>
    skipBlank_run before (ends_cons (by decide))
  have hends : ∀ ahead, Ends isNamePart (before.run ++ '=' :: ahead) :=
    ends_name_blank (by decide) before
  simp only [readAttribute, readName?_write name (hends _), hsign,
    skipBlank_run after (value.ends_write rest), reads_literal.accepts value rest trivial]

theorem exists_property {v : Predicate} (h : readAttribute ahead = .ok (v, rest)) :
    ∃ (name : Name) (before after : Blank) (value : Literal),
      ahead = name.write ++ (before.run ++ '=' :: (after.run ++ (value.write ++ rest))) ∧
        v = .attribute name.text value.value := by
  unfold readAttribute at h
  split at h
  · cases h
  · rename_i text more hname
    obtain ⟨name, rfl, rfl⟩ := exists_name hname
    split at h
    · rename_i more' hsign
      obtain ⟨before, hbefore⟩ := exists_blank more
      rw [hsign] at hbefore
      obtain ⟨after, hafter⟩ := exists_blank more'
      split at h
      · rename_i text left hliteral
        obtain ⟨rfl, rfl⟩ := Prod.mk.inj (Except.ok.inj h)
        obtain ⟨value, hvalue, rfl⟩ := reads_literal.derives _ _ _ hliteral
        refine ⟨name, before, after, value, ?_, rfl⟩
        rw [← hvalue, ← hafter, ← hbefore]
      · cases h
    · cases h

/-- The first character says how a predicate is read. -/
theorem readPredicateBody_of_isDigit {c : Char} (h : isDigit c = true) :
    readPredicateBody (c :: rest) = readPosition (c :: rest) := by
  have hsign : c ≠ '@' := by
    rintro rfl
    exact absurd h (by decide)
  unfold readPredicateBody
  split
  · simp_all
  · simp_all
  · simp_all

theorem readPredicateBody_of_isNameStart {c : Char} (h : isNameStart c = true) {text : String}
    {left : List Char} (hname : readName? (c :: rest) = some (text, left)) :
    readPredicateBody (c :: rest) = .ok (.hasChild text, left) := by
  have hsign : c ≠ '@' := by
    rintro rfl
    exact absurd h (by decide)
  have hdigit : ¬ isDigit c = true := by
    intro hd
    rw [isNameStart_of_isDigit hd] at h
    cases h
  unfold readPredicateBody
  split
  · simp_all
  · simp_all
  · simp_all

theorem reads_condition : Reads readPredicateBody Condition.write Condition.value
    (Ends isNamePart) where
  accepts := by
    intro condition rest h
    cases condition with
    | property name before after value =>
        simp only [Condition.write, List.cons_append, List.append_assoc]
        exact readAttribute_write name before after value rest
    | hasChild name =>
        exact readPredicateBody_of_isNameStart name.isNameStart_first (readName?_write name h)
    | position place =>
        obtain ⟨c, run, hrun⟩ := place.exists_cons
        have hc : isDigit c = true := place.isDigit_run c (hrun ▸ List.mem_cons_self)
        have hread := reads_position.accepts place rest
          (h.mono fun _ => isNamePart_of_isDigit)
        rw [hrun, List.cons_append] at hread
        rw [Condition.write, hrun, List.cons_append, readPredicateBody_of_isDigit hc]
        exact hread
  derives := by
    intro ahead v rest h
    unfold readPredicateBody at h
    split at h
    · cases h
    · obtain ⟨name, before, after, value, rfl, rfl⟩ := exists_property h
      refine ⟨.property name before after value, ?_, rfl⟩
      simp only [Condition.write, List.cons_append, List.append_assoc]
    · split at h
      · obtain ⟨place, hplace, rfl⟩ := reads_position.derives _ _ _ h
        exact ⟨.position place, hplace, rfl⟩
      · split at h
        · rename_i text more hname
          obtain ⟨rfl, rfl⟩ := Prod.mk.inj (Except.ok.inj h)
          obtain ⟨name, hwrite, rfl⟩ := exists_name hname
          exact ⟨.hasChild name, hwrite, rfl⟩
        · cases h

/-- A predicate without its opening bracket. -/
def Bracket.tail (bracket : Bracket) : List Char :=
  bracket.before.run ++ (bracket.condition.write ++ (bracket.after.run ++ [']']))

theorem Bracket.write_eq (bracket : Bracket) : bracket.write = '[' :: bracket.tail := by
  simp only [Bracket.write, Bracket.tail, List.cons_append, List.append_assoc]

theorem reads_bracket : Reads readPredicate Bracket.tail (fun bracket => bracket.condition.value)
    fun _ => True where
  accepts := by
    rintro ⟨before, condition, after⟩ rest -
    have hclose : ∀ ahead, skipBlank (after.run ++ ']' :: ahead) = ']' :: ahead := fun ahead =>
      skipBlank_run after (ends_cons (by decide))
    have hcondition := reads_condition.accepts condition (after.run ++ ']' :: rest)
      (ends_name_blank (by decide) after rest)
    simp only [Bracket.tail, List.append_assoc, List.cons_append, List.nil_append, readPredicate,
      skipBlank_run before (condition.ends_write _), hcondition, hclose]
  derives := by
    intro ahead v rest h
    unfold readPredicate at h
    split at h
    · cases h
    · rename_i predicate more hbody
      obtain ⟨before, hbefore⟩ := exists_blank ahead
      obtain ⟨condition, hcondition, rfl⟩ := reads_condition.derives _ _ _ hbody
      obtain ⟨after, hafter⟩ := exists_blank more
      split at h
      · rename_i left hclose
        obtain ⟨rfl, rfl⟩ := Prod.mk.inj (Except.ok.inj h)
        refine ⟨⟨before, condition, after⟩, ?_, rfl⟩
        simp only [Bracket.tail, List.append_assoc, List.cons_append, List.nil_append]
        rw [← hclose, ← hafter, ← hcondition, ← hbefore]
      · cases h

theorem readPredicates_cons {left left' : List Char} {predicate : Predicate}
    {predicates : List Predicate} (hfirst : readPredicate rest = .ok (predicate, left))
    (hmore : readPredicates left = .ok (predicates, left')) :
    readPredicates ('[' :: rest) = .ok (predicate :: predicates, left') := by
  rw [readPredicates]
  split
  · simp_all
  · simp_all

theorem reads_brackets : Reads readPredicates (List.flatMap Bracket.write)
    (List.map fun bracket => bracket.condition.value) (Ends (· == '[')) where
  accepts := by
    intro brackets rest h
    induction brackets with
    | nil =>
        show readPredicates rest = .ok ([], rest)
        unfold readPredicates
        split
        · exact absurd h.of_cons (by decide)
        · rfl
    | cons bracket brackets ih =>
        have hfirst := reads_bracket.accepts bracket (brackets.flatMap Bracket.write ++ rest)
          trivial
        rw [List.flatMap_cons, List.append_assoc, bracket.write_eq, List.cons_append]
        exact readPredicates_cons hfirst ih
  derives := by
    intro ahead v rest h
    fun_induction readPredicates ahead generalizing v rest with
    | case1 => cases h
    | case2 => cases h
    | case3 more predicate left hfirst predicates left' hmore ih =>
        obtain ⟨rfl, rfl⟩ := Prod.mk.inj (Except.ok.inj h)
        obtain ⟨bracket, rfl, rfl⟩ := reads_bracket.derives _ _ _ hfirst
        obtain ⟨brackets, rfl, rfl⟩ := ih _ _ hmore
        refine ⟨bracket :: brackets, ?_, rfl⟩
        simp only [List.flatMap_cons, bracket.write_eq, List.cons_append, List.append_assoc]
    | case4 =>
        obtain ⟨rfl, rfl⟩ := Prod.mk.inj (Except.ok.inj h)
        exact ⟨[], rfl, rfl⟩

-- ==================================================== steps, expressions

theorem readTest_type {c : Char} (h : isNameStart c = true) {text : String} {left : List Char}
    (hname : readName? (c :: rest) = some (text, '(' :: ')' :: left)) :
    readTest (c :: rest) = .ok (.type text, left) := by
  have hstar : c ≠ '*' := by
    rintro rfl
    exact absurd h (by decide)
  unfold readTest
  split
  · simp_all
  · simp only [hname]

theorem readTest_name {c : Char} (h : isNameStart c = true) {text : String} {left : List Char}
    (hname : readName? (c :: rest) = some (text, left)) (hleft : Ends isTestPart left) :
    readTest (c :: rest) = .ok (.name text, left) := by
  have hstar : c ≠ '*' := by
    rintro rfl
    exact absurd h (by decide)
  have hparen : ∀ more, left ≠ '(' :: more := by
    rintro more rfl
    exact absurd hleft.of_cons (by decide)
  unfold readTest
  split
  · simp_all
  · simp only [hname]
    split
    · simp_all
    · simp_all
    · simp_all
    · simp_all

theorem reads_test : Reads readTest Test.write Test.value (Ends isTestPart) where
  accepts := by
    intro test rest h
    cases test with
    | any => rfl
    | name n => exact readTest_name n.isNameStart_first (readName?_write n (ends_name h)) h
    | type n =>
        have hname : readName? (n.write ++ '(' :: ')' :: rest) = _ :=
          readName?_write n (ends_cons (by decide))
        simp only [Test.write, List.append_assoc, List.cons_append, List.nil_append]
        exact readTest_type n.isNameStart_first hname
  derives := by
    intro ahead v rest h
    unfold readTest at h
    split at h
    · obtain ⟨rfl, rfl⟩ := Prod.mk.inj (Except.ok.inj h)
      exact ⟨.any, rfl, rfl⟩
    · split at h
      · rename_i text more hname
        obtain ⟨rfl, rfl⟩ := Prod.mk.inj (Except.ok.inj h)
        obtain ⟨name, rfl, rfl⟩ := exists_name hname
        refine ⟨.type name, ?_, rfl⟩
        simp only [Test.write, List.append_assoc, List.cons_append, List.nil_append]
      · cases h
      · rename_i text more hpair hparen hname
        obtain ⟨rfl, rfl⟩ := Prod.mk.inj (Except.ok.inj h)
        obtain ⟨name, rfl, rfl⟩ := exists_name hname
        exact ⟨.name name, rfl, rfl⟩
      · split at h <;> cases h

/-- What stands after an axis is a test and predicates. -/
theorem readStepBody_write (axis : Axis) (test : Test) (brackets : List Bracket)
    (htest : Ends isTestPart rest) (hbracket : Ends (· == '[') rest) :
    readStepBody axis (test.write ++ (brackets.flatMap Bracket.write ++ rest)) =
      .ok (⟨axis, test.value, brackets.map fun bracket => bracket.condition.value⟩, rest) := by
  obtain ⟨c, more, hwrite, hslash, hblank⟩ := test.exists_cons
  have hread := reads_test.accepts test (brackets.flatMap Bracket.write ++ rest)
    (ends_brackets brackets htest)
  rw [hwrite, List.cons_append] at hread ⊢
  simp only [readStepBody, List.head?_cons, Option.all_some, beq_eq_false_iff_ne.2 hslash, hblank,
    Bool.or_self, Bool.false_eq_true, if_false, hread,
    reads_brackets.accepts brackets rest hbracket]

theorem exists_of_readStepBody {axis : Axis} {step : Step}
    (h : readStepBody axis ahead = .ok (step, rest)) :
    ∃ (test : Test) (brackets : List Bracket),
      ahead = test.write ++ (brackets.flatMap Bracket.write ++ rest) ∧
        step = ⟨axis, test.value, brackets.map fun bracket => bracket.condition.value⟩ := by
  unfold readStepBody at h
  split at h
  · cases h
  · split at h
    · cases h
    · rename_i testValue more htest
      obtain ⟨test, rfl, rfl⟩ := reads_test.derives _ _ _ htest
      split at h
      · cases h
      · rename_i predicates left hpredicates
        obtain ⟨rfl, rfl⟩ := Prod.mk.inj (Except.ok.inj h)
        obtain ⟨brackets, rfl, rfl⟩ := reads_brackets.derives _ _ _ hpredicates
        exact ⟨test, brackets, rfl, rfl⟩

/-- A step is read up to the white space after it. -/
theorem readStep_write (first : Bool) (leg : Leg) (h : AtAxis rest) :
    readStep first (leg.write ++ rest) = .ok (leg.value, leg.after.run ++ rest) := by
  obtain ⟨axis, test, brackets, after⟩ := leg
  obtain ⟨htest, hbracket⟩ := ends_after h after
  have hbody := readStepBody_write axis test brackets htest hbracket
  obtain ⟨c, more, hwrite, hslash, -⟩ := test.exists_cons
  simp only [Leg.write, List.append_assoc]
  cases axis with
  | descendant => exact hbody
  | child =>
      rw [hwrite, List.cons_append] at hbody ⊢
      refine (readStep.eq_2 first _ fun more' he => ?_).trans hbody
      exact hslash (List.cons.inj he).1

theorem exists_leg {first : Bool} {step : Step} (h : readStep first ahead = .ok (step, rest))
    (after : Blank) {left : List Char} (hafter : rest = after.run ++ left) :
    ∃ leg : Leg, ahead = leg.write ++ left ∧ step = leg.value := by
  subst hafter
  unfold readStep at h
  split at h
  · obtain ⟨test, brackets, rfl, rfl⟩ := exists_of_readStepBody h
    refine ⟨⟨.descendant, test, brackets, after⟩, ?_, rfl⟩
    simp only [Leg.write, Axis.print, List.append_assoc, List.cons_append, List.nil_append]
  · obtain ⟨test, brackets, rfl, rfl⟩ := exists_of_readStepBody h
    refine ⟨⟨.child, test, brackets, after⟩, ?_, rfl⟩
    simp only [Leg.write, Axis.print, List.append_assoc, List.cons_append, List.nil_append]
  all_goals cases h

theorem readSteps_nil (first : Bool) (h : skipBlank ahead = []) :
    readSteps first ahead = .ok [] := by
  rw [readSteps]
  split
  · rfl
  · simp_all

theorem readSteps_cons {first : Bool} {c : Char} {more left : List Char} {step : Step}
    {steps : List Step} (h : skipBlank ahead = c :: more)
    (hfirst : readStep first (c :: more) = .ok (step, left))
    (hmore : readSteps false left = .ok steps) : readSteps first ahead = .ok (step :: steps) := by
  rw [readSteps]
  split
  · simp_all
  · rename_i d more' hahead
    obtain ⟨rfl, rfl⟩ := List.cons.inj (h.symm.trans hahead)
    split
    · simp_all
    · simp_all

theorem readSteps_write (first : Bool) (blank : Blank) (legs : List Leg) :
    readSteps first (blank.run ++ legs.flatMap Leg.write) = .ok (legs.map Leg.value) := by
  have hskip : skipBlank (blank.run ++ legs.flatMap Leg.write) = legs.flatMap Leg.write :=
    skipBlank_run blank (atAxis_legs legs).blank
  induction legs generalizing first blank with
  | nil => exact readSteps_nil first hskip
  | cons leg legs ih =>
      have hfirst := readStep_write first leg (atAxis_legs legs)
      obtain ⟨more, hwrite⟩ := leg.exists_cons
      rw [List.flatMap_cons, hwrite, List.cons_append] at hskip
      rw [hwrite, List.cons_append] at hfirst
      rw [List.flatMap_cons, hwrite, List.cons_append]
      exact readSteps_cons hskip hfirst
        (ih false leg.after (skipBlank_run leg.after (atAxis_legs legs).blank))

theorem exists_legs {first : Bool} {steps : List Step} (h : readSteps first ahead = .ok steps) :
    ∃ (blank : Blank) (legs : List Leg), ahead = blank.run ++ legs.flatMap Leg.write ∧
      steps = legs.map Leg.value := by
  fun_induction readSteps first ahead generalizing steps with
  | case1 first ahead hahead =>
      obtain ⟨blank, hblank⟩ := exists_blank ahead
      obtain rfl := Except.ok.inj h
      refine ⟨blank, [], ?_, rfl⟩
      rw [hahead] at hblank
      exact hblank
  | case2 => cases h
  | case3 => cases h
  | case4 first ahead c more hahead step left hfirst steps' hmore ih =>
      obtain rfl := Except.ok.inj h
      obtain ⟨blank, hblank⟩ := exists_blank ahead
      obtain ⟨after, legs, hafter, rfl⟩ := ih hmore
      obtain ⟨leg, hleg, rfl⟩ := exists_leg hfirst after hafter
      refine ⟨blank, leg :: legs, ?_, rfl⟩
      rw [hblank, hahead, hleg]
      rfl

/-- Reading answers with the steps of a derivation. -/
theorem read_write (derivation : Derivation) :
    read derivation.write = .ok derivation.steps := by
  have hskip : skipBlank derivation.write = derivation.legs.flatMap Leg.write := by
    rw [derivation.write_eq]
    exact skipBlank_run derivation.before (atAxis_legs derivation.legs).blank
  obtain ⟨more, hfirst⟩ := derivation.first.exists_cons
  unfold read
  split
  · rename_i hnone
    rw [hskip, Derivation.legs, List.flatMap_cons, hfirst] at hnone
    cases hnone
  · rw [hskip]
    exact readSteps_write true .none derivation.legs

/-- What is left after white space starts with no more of it, so there is no step to find only if
nothing is left. -/
theorem exists_derivation {steps : List Step} (h : read ahead = .ok steps) :
    ∃ derivation : Derivation, ahead = derivation.write ∧ steps = derivation.steps := by
  obtain ⟨before, hbefore⟩ := exists_blank ahead
  unfold read at h
  split at h
  · cases h
  · rename_i hsome
    obtain ⟨blank, legs, hlegs, rfl⟩ := exists_legs h
    have hends : Ends isWhitespace (skipBlank ahead) := ends_dropWhile isWhitespace ahead
    obtain ⟨-, hahead⟩ := unmixed_blank .none blank _ _ hends
      (atAxis_legs legs).blank hlegs
    cases legs with
    | nil => exact absurd hahead hsome
    | cons first more =>
        refine ⟨⟨before, first, more⟩, ?_, rfl⟩
        rw [Derivation.write_eq, hbefore, hahead]
        rfl

-- =========================================================== compiling

theorem compile_of_read {expression : String} {steps : List Step}
    (h : read expression.toList = .ok steps) : compile expression = .ok ⟨expression, steps⟩ := by
  simp only [compile, h]

theorem read_of_compile {expression : String} {program : Program}
    (h : compile expression = .ok program) :
    read expression.toList = .ok program.steps ∧ program.expression = expression := by
  unfold compile at h
  split at h
  · rename_i steps hread
    obtain rfl := Except.ok.inj h
    exact ⟨hread, rfl⟩
  · cases h

/-- The text that a derivation derives. -/
def Derivation.text (derivation : Derivation) : String := String.ofList derivation.write

/-- What a derivation derives compiles to its steps. -/
theorem compile_text (derivation : Derivation) :
    compile derivation.text = .ok ⟨derivation.text, derivation.steps⟩ := by
  apply compile_of_read
  rw [Derivation.text, String.toList_ofList]
  exact read_write derivation

theorem Derivation.text_injective {d d' : Derivation} (h : d.text = d'.text) : d = d' := by
  apply Derivation.write_injective
  have hlist := congrArg String.toList h
  simp only [Derivation.text, String.toList_ofList] at hlist
  exact hlist

/-- Compiled programs come from derivations. -/
theorem exists_derivation_of_compile {expression : String} {program : Program}
    (h : compile expression = .ok program) :
    ∃ derivation : Derivation, derivation.text = expression ∧
      program.steps = derivation.steps := by
  obtain ⟨hread, -⟩ := read_of_compile h
  obtain ⟨derivation, hwrite, hsteps⟩ := exists_derivation hread
  refine ⟨derivation, ?_, hsteps⟩
  rw [Derivation.text, ← hwrite, String.ofList_toList]

/-- An expression compiles if the grammar derives it, and not otherwise. If it does, there is one
derivation only, and the program has its steps. -/
theorem compiles_iff_derived (expression : String) :
    ((∃ program, compile expression = .ok program) ↔
        ∃ derivation : Derivation, derivation.text = expression) ∧
      ∀ derivation : Derivation, derivation.text = expression →
        (∀ other : Derivation, other.text = expression → other = derivation) ∧
          compile expression = .ok ⟨expression, derivation.steps⟩ := by
  refine ⟨⟨?_, ?_⟩, ?_⟩
  · rintro ⟨program, h⟩
    obtain ⟨derivation, htext, -⟩ := exists_derivation_of_compile h
    exact ⟨derivation, htext⟩
  · rintro ⟨derivation, rfl⟩
    exact ⟨_, compile_text derivation⟩
  · rintro derivation rfl
    exact ⟨fun other => Derivation.text_injective, compile_text derivation⟩

end TreeQuery.Expression.Grammar
