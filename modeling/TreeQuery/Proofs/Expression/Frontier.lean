/-
Where a refused text goes wrong.

A text that is refused is `used ++ rest`, and `rest` is what the refusal counts. `Frontier` says
of a reader what that cut is worth. Up to the cut nothing was wrong: what was used begins
something the grammar writes. At the cut nothing can be right: any other text that has the same
characters up to the cut and one more after it is refused there, too.

Neither half is true of every fault. A number is too large long before its digits end, and a
literal without its closing quote and the position zero are reported where they start, although
they could have gone on otherwise. `Fault.Final` names the faults for which the second half
holds, and the first fails for `positionTooLarge` only.

# From the tokens to the expression

The second half says that a reader has looked at no more than one character behind the cut. So
it goes through from a part to the whole (`Frontier.after`) if what stands before the part is
read the same way whenever the part starts with the same character (`Local`). One lemma of each
kind for every reader, in the order of the grammar.
-/
import TreeQuery.Proofs.Expression.Reading

namespace TreeQuery.Expression

/-- The faults that no text can avoid that goes on with the character at fault. -/
def Fault.Final (fault : Fault) : Prop :=
  fault ≠ .positionTooLarge ∧ fault ≠ .positionZero ∧ fault ≠ .unterminatedLiteral

namespace Grammar

open Unicode
open Text

variable {α β γ : Type} {ahead rest rest' lead : List Char}

-- ===================================================== one character ahead

/-- What follows two texts with one character ahead is one character, too. -/
theorem head?_append_congr (lead : List Char) (h : rest'.head? = rest.head?) :
    (lead ++ rest').head? = (lead ++ rest).head? := by
  simp only [List.head?_append, h]

theorem ends_congr {p : Char → Bool} (h : rest'.head? = rest.head?) (hends : Ends p rest) :
    Ends p rest' := by
  intro c hc
  exact hends c (h ▸ hc)

/-- Texts with one character ahead start the same way. -/
theorem starts_of_head? (h : rest'.head? = rest.head?) :
    (rest = [] ∧ rest' = []) ∨ ∃ c more more', rest = c :: more ∧ rest' = c :: more' := by
  cases rest with
  | nil => exact .inl ⟨rfl, List.head?_eq_none_iff.1 h⟩
  | cons c more =>
      cases rest' with
      | nil => cases h
      | cons d more' =>
          obtain rfl := Option.some.inj h
          exact .inr ⟨d, more, more', rfl, rfl⟩

-- ============================================================== frontiers

/-- The text is one that derivations write. -/
def Writes (write : α → List Char) (text : List Char) : Prop := ∃ x, write x = text

/-- Where a reader gives up: `used` is what it has read of the text ahead, and `rest` what the
refusal counts. -/
structure Frontier (reader : List Char → Except Refusal β) (Written : List Char → Prop)
    (ahead : List Char) (refusal : Refusal) (used rest : List Char) : Prop where
  cut : ahead = used ++ rest
  counted : refusal.left = rest.length
  viable : refusal.fault ≠ .positionTooLarge → ∃ more, Written (used ++ more)
  stuck : refusal.fault.Final → ∀ rest', rest'.head? = rest.head? →
    reader (used ++ rest') = .error ⟨rest'.length, refusal.fault⟩

/-- The reader refuses at frontiers only. -/
def Stops (reader : List Char → Except Refusal β) (Written : List Char → Prop) : Prop :=
  ∀ ahead refusal, reader ahead = .error refusal →
    ∃ used rest, Frontier reader Written ahead refusal used rest

/-- What has been read is read again before any text that starts with the same character. -/
def Local (reader : List Char → Reading β) (write : α → List Char) : Prop :=
  ∀ ahead v rest, reader ahead = .ok (v, rest) →
    ∃ x, ahead = write x ++ rest ∧
      ∀ rest', rest'.head? = rest.head? → reader (write x ++ rest') = .ok (v, rest')

section Composition

variable {reader : List Char → Except Refusal β} {inner : List Char → Except Refusal γ}
  {Written Inner : List Char → Prop} {refusal : Refusal}

/-- A reader that gives up for the character ahead. -/
theorem Frontier.here {fault : Fault} (some : ∃ text, Written text)
    (same : ∀ rest', rest'.head? = ahead.head? → reader rest' = refuse rest' fault) :
    Frontier reader Written ahead ⟨ahead.length, fault⟩ [] ahead where
  cut := rfl
  counted := rfl
  viable _ := some
  stuck _ := same

/-- A reader that gives up on the token ahead as a whole. -/
theorem Frontier.token {fault : Fault} (some : ∃ text, Written text) (notFinal : ¬ fault.Final) :
    Frontier reader Written ahead ⟨ahead.length, fault⟩ [] ahead where
  cut := rfl
  counted := rfl
  viable _ := some
  stuck final := absurd final notFinal

/-- The frontier of a part is one of the whole, behind what comes before the part. -/
theorem Frontier.after {used : List Char} (h : Frontier inner Inner ahead refusal used rest)
    (lead : List Char) (complete : ∀ text, Inner text → ∃ more, Written (lead ++ (text ++ more)))
    (goesOn : ∀ ahead' refusal', ahead'.head? = ahead.head? → inner ahead' = .error refusal' →
      reader (lead ++ ahead') = .error refusal') :
    Frontier reader Written (lead ++ ahead) refusal (lead ++ used) rest where
  cut := by rw [h.cut, List.append_assoc]
  counted := h.counted
  viable := by
    intro hfault
    obtain ⟨more, hinner⟩ := h.viable hfault
    obtain ⟨more', hwritten⟩ := complete _ hinner
    refine ⟨more ++ more', ?_⟩
    simpa only [List.append_assoc] using hwritten
  stuck := by
    intro final rest' hhead
    have hsame : (used ++ rest').head? = ahead.head? := by
      rw [h.cut]
      exact head?_append_congr used hhead
    rw [List.append_assoc]
    exact goesOn _ _ hsame (h.stuck final rest' hhead)

/-- A part that stops at frontiers does so in the whole. -/
theorem Stops.after (h : Stops inner Inner) (hinner : inner ahead = .error refusal)
    (lead : List Char) (complete : ∀ text, Inner text → ∃ more, Written (lead ++ (text ++ more)))
    (goesOn : ∀ ahead' refusal', ahead'.head? = ahead.head? → inner ahead' = .error refusal' →
      reader (lead ++ ahead') = .error refusal') :
    ∃ used rest, Frontier reader Written (lead ++ ahead) refusal used rest := by
  obtain ⟨used, rest, hfrontier⟩ := h ahead refusal hinner
  exact ⟨lead ++ used, rest, hfrontier.after lead complete goesOn⟩

end Composition

-- ============================================================== samples

/-- A name, for what could have stood where there is none. -/
def Name.sample : Name := ⟨'_', [], .inr rfl, fun c hc => by cases hc⟩

def Literal.sample : Literal := ⟨'"', .inr rfl, []⟩

def Digits.sample : Digits :=
  ⟨['1'], fun c hc => by obtain rfl := List.mem_singleton.1 hc; decide, by decide, by decide⟩

def Leg.sample : Leg := ⟨.child, .any, [], .none⟩

-- =============================================================== tokens

theorem readName?_none (h : readName? ahead = none) : Ends isNameStart ahead := by
  cases ahead with
  | nil => exact ends_nil
  | cons c more =>
      simp only [readName?] at h
      split at h
      · cases h
      · rename_i hstart
        exact ends_cons (by simpa using hstart)

theorem readName?_of_ends (h : Ends isNameStart ahead) : readName? ahead = none := by
  cases ahead with
  | nil => rfl
  | cons c more => simp only [readName?, h.of_cons, Bool.false_eq_true, if_false]

/-- The longest name has been read. -/
theorem ends_of_readName? {text : String} (h : readName? ahead = some (text, rest)) :
    Ends isNamePart rest := by
  cases ahead with
  | nil => cases h
  | cons c more =>
      simp only [readName?] at h
      split at h
      · obtain ⟨-, rfl⟩ := Prod.mk.inj (Option.some.inj h)
        exact ends_dropWhile isNamePart more
      · cases h

theorem skipBlank_ends (ahead : List Char) : Ends isWhitespace (skipBlank ahead) :=
  ends_dropWhile isWhitespace ahead

/-- White space is skipped up to the same character. -/
theorem skipBlank_congr (blank : Blank) (h : rest.head? = (skipBlank ahead).head?) :
    skipBlank (blank.run ++ rest) = rest :=
  skipBlank_run blank (ends_congr h (skipBlank_ends ahead))

theorem stops_literal : Stops readLiteral (Writes Literal.write) := by
  have close : ∀ {whole more : List Char} {quote : Char} {refusal : Refusal},
      readLiteral.close whole quote more = .error refusal →
        refusal = ⟨whole.length, .unterminatedLiteral⟩ := by
    intro whole more quote refusal h
    unfold readLiteral.close at h
    split at h
    · cases h
    · exact (Except.error.inj h).symm
  have notFinal : ¬ Fault.unterminatedLiteral.Final := fun final => final.2.2 rfl
  intro ahead refusal h
  unfold readLiteral at h
  split at h
  · obtain rfl := close h
    exact ⟨[], _, .token ⟨_, .sample, rfl⟩ notFinal⟩
  · obtain rfl := close h
    exact ⟨[], _, .token ⟨_, .sample, rfl⟩ notFinal⟩
  · rename_i hsingle hdouble
    obtain rfl := Except.error.inj h
    refine ⟨[], _, .here ⟨_, .sample, rfl⟩ fun rest' hhead => ?_⟩
    unfold readLiteral
    obtain ⟨rfl, rfl⟩ | ⟨c, more, more', rfl, rfl⟩ := starts_of_head? hhead
    · rfl
    · split
      · exact (hsingle more (by simp_all)).elim
      · exact (hdouble more (by simp_all)).elim
      · rfl

-- =========================================================== predicates

/-- A predicate without its bracket and its `@`. -/
def WritesProperty (text : List Char) : Prop := Writes Condition.write ('@' :: text)

theorem writesProperty (name : Name) (before after : Blank) (value : Literal) :
    WritesProperty
      (name.write ++ (before.run ++ '=' :: (after.run ++ value.write))) := by
  refine ⟨.property name before after value, ?_⟩
  simp only [Condition.write, List.cons_append, List.append_assoc]

theorem local_attribute {v : Predicate} (h : readAttribute ahead = .ok (v, rest)) :
    ∃ text, WritesProperty text ∧ ahead = text ++ rest ∧
      ∀ rest', readAttribute (text ++ rest') = .ok (v, rest') := by
  obtain ⟨name, before, after, value, rfl, rfl⟩ := exists_property h
  refine ⟨_, writesProperty name before after value, ?_, fun rest' => ?_⟩
  · simp only [List.cons_append, List.append_assoc]
  · simp only [List.cons_append, List.append_assoc]
    exact readAttribute_write name before after value rest'

theorem stops_attribute : Stops readAttribute WritesProperty := by
  intro ahead refusal h
  unfold readAttribute at h
  split at h
  · rename_i hname
    obtain rfl := Except.error.inj h
    refine ⟨[], _, .here ⟨_, writesProperty .sample .none .none .sample⟩ fun rest' hhead => ?_⟩
    simp only [readAttribute, readName?_of_ends (ends_congr hhead (readName?_none hname))]
  · rename_i text more hname
    have hends := ends_of_readName? hname
    obtain ⟨name, rfl, rfl⟩ := exists_name hname
    obtain ⟨before, hbefore⟩ := exists_blank more
    have hread : ∀ rest', rest'.head? = (skipBlank more).head? →
        readName? (name.write ++ (before.run ++ rest')) = some (name.text, before.run ++ rest') ∧
          skipBlank (before.run ++ rest') = rest' := by
      intro rest' hhead
      refine ⟨readName?_write name (ends_congr ?_ hends), skipBlank_congr before hhead⟩
      rw [hbefore]
      exact head?_append_congr before.run hhead
    split at h
    · rename_i more' hsign
      rw [hsign] at hbefore hread
      obtain ⟨after, hafter⟩ := exists_blank more'
      split at h
      · cases h
      · rename_i refusal' hliteral
        obtain rfl := Except.error.inj h
        have hcut : name.write ++ more =
            (name.write ++ (before.run ++ '=' :: after.run)) ++ skipBlank more' := by
          simp only [List.append_assoc, List.cons_append, ← hafter, ← hbefore]
        rw [hcut]
        refine stops_literal.after hliteral _ ?_ fun ahead' refusal'' hhead hrefused => ?_
        · rintro text ⟨value, rfl⟩
          refine ⟨[], ?_⟩
          simpa only [List.append_nil, List.append_assoc, List.cons_append]
            using writesProperty name before after value
        · obtain ⟨hname', hskip⟩ := hread ('=' :: (after.run ++ ahead')) rfl
          simp only [List.append_assoc, List.cons_append, readAttribute, hname', hskip,
            skipBlank_congr after hhead, hrefused]
    · rename_i hsign
      obtain rfl := Except.error.inj h
      refine ⟨name.write ++ before.run, skipBlank more, ⟨?_, rfl, fun _ => ?_, ?_⟩⟩
      · rw [List.append_assoc, ← hbefore]
      · refine ⟨'=' :: Literal.sample.write, ?_⟩
        rw [List.append_assoc]
        exact writesProperty name before .none .sample
      · intro _ rest' hhead
        obtain ⟨hname', hskip⟩ := hread rest' hhead
        simp only [List.append_assoc, readAttribute, hname', hskip]
        split
        · rename_i more'
          obtain ⟨he, -⟩ | ⟨c, left, left', he, he'⟩ := starts_of_head? hhead
          · rw [he] at hhead
            cases hhead
          · obtain ⟨rfl, -⟩ := List.cons.inj he'
            exact (hsign left he).elim
        · rfl

theorem stops_position : Stops readPosition (Writes Digits.run) := by
  intro ahead refusal h
  simp only [readPosition] at h
  split at h
  · obtain rfl := Except.error.inj h
    exact ⟨[], _, .token ⟨_, .sample, rfl⟩ fun final => final.2.1 rfl⟩
  · split at h
    · cases h
    · obtain rfl := Except.error.inj h
      exact ⟨ahead.takeWhile isDigit, ahead.dropWhile isDigit,
        List.takeWhile_append_dropWhile.symm, rfl, fun hfault => absurd rfl hfault,
        fun final => absurd rfl final.1⟩

theorem local_position {v : Predicate} (h : readPosition ahead = .ok (v, rest)) :
    ∃ digits : Digits, ahead = digits.run ++ rest ∧
      ∀ rest', rest'.head? = rest.head? → readPosition (digits.run ++ rest') = .ok (v, rest') := by
  obtain ⟨digits, hdigits, rfl⟩ := reads_position.derives _ _ _ h
  have hends : Ends isDigit rest := by
    simp only [readPosition] at h
    split at h
    · cases h
    · split at h
      · obtain ⟨-, rfl⟩ := Prod.mk.inj (Except.ok.inj h)
        exact ends_dropWhile isDigit ahead
      · cases h
  exact ⟨digits, hdigits, fun rest' hhead => reads_position.accepts digits rest'
    (ends_congr hhead hends)⟩

/-- What ends a condition depends on its alternative: names and numbers end at the character
after them, a property by its own quote. -/
theorem local_condition : Local readPredicateBody Condition.write := by
  intro ahead v rest h
  unfold readPredicateBody at h
  split at h
  · cases h
  · rename_i more
    obtain ⟨text, ⟨condition, hwrite⟩, rfl, hread⟩ := local_attribute h
    exact ⟨condition, by rw [hwrite]; rfl, fun rest' _ => by rw [hwrite]; exact hread rest'⟩
  · rename_i c more hsign
    split at h
    · rename_i hdigit
      obtain ⟨digits, hdigits, hread⟩ := local_position h
      refine ⟨.position digits, hdigits, fun rest' hhead => ?_⟩
      obtain ⟨d, run, hrun⟩ := digits.exists_cons
      rw [← hread rest' hhead]
      show readPredicateBody (digits.run ++ rest') = _
      rw [hrun]
      exact readPredicateBody_of_isDigit (digits.isDigit_run d (hrun ▸ List.mem_cons_self))
    · split at h
      · rename_i text left hname
        obtain ⟨rfl, rfl⟩ := Prod.mk.inj (Except.ok.inj h)
        have hends := ends_of_readName? hname
        obtain ⟨name, hwrite, rfl⟩ := exists_name hname
        refine ⟨.hasChild name, hwrite, fun rest' hhead => ?_⟩
        exact readPredicateBody_of_isNameStart name.isNameStart_first
          (readName?_write name (ends_congr hhead hends))
      · cases h

theorem stops_condition : Stops readPredicateBody (Writes Condition.write) := by
  intro ahead refusal h
  unfold readPredicateBody at h
  split at h
  · obtain rfl := Except.error.inj h
    refine ⟨[], _, .here ⟨_, .hasChild .sample, rfl⟩ fun rest' hhead => ?_⟩
    obtain rfl := List.head?_eq_none_iff.1 hhead
    rfl
  · refine stops_attribute.after h ['@'] (fun text => ?_) fun ahead' refusal' _ hrefused => ?_
    · rintro ⟨condition, hwrite⟩
      exact ⟨[], condition, by rw [hwrite, List.append_nil]; rfl⟩
    · exact hrefused
  · rename_i c more hsign
    split at h
    · rename_i hdigit
      refine stops_position.after h [] (fun text => ?_) fun ahead' refusal' hhead hrefused => ?_
      · rintro ⟨digits, rfl⟩
        exact ⟨[], .position digits, by simp only [List.append_nil]; rfl⟩
      · obtain ⟨he, -⟩ | ⟨d, left, left', he, rfl⟩ := starts_of_head? hhead
        · cases he
        · obtain ⟨rfl, -⟩ := List.cons.inj he
          rw [← hrefused]
          exact readPredicateBody_of_isDigit hdigit
    · split at h
      · cases h
      · rename_i hdigit hname
        obtain rfl := Except.error.inj h
        refine ⟨[], _, .here ⟨_, .hasChild .sample, rfl⟩ fun rest' hhead => ?_⟩
        obtain ⟨he, -⟩ | ⟨d, left, left', he, rfl⟩ := starts_of_head? hhead
        · cases he
        · obtain ⟨rfl, -⟩ := List.cons.inj he
          have hname' : readName? (c :: left') = none :=
            readName?_of_ends (ends_congr hhead (readName?_none hname))
          unfold readPredicateBody
          split <;> simp_all

theorem stops_bracket : Stops readPredicate (Writes Bracket.tail) := by
  intro ahead refusal h
  obtain ⟨before, hbefore⟩ := exists_blank ahead
  have htail : ∀ (condition : Condition) (after : Blank),
      before.run ++ (condition.write ++ (after.run ++ [']'])) =
        Bracket.tail ⟨before, condition, after⟩ := fun _ _ => rfl
  unfold readPredicate at h
  split at h
  · rename_i refusal' hbody
    obtain rfl := Except.error.inj h
    rw [hbefore]
    refine stops_condition.after hbody before.run (fun text => ?_)
      fun ahead' refusal'' hhead hrefused => ?_
    · rintro ⟨condition, rfl⟩
      exact ⟨[']'], _, (htail condition .none).symm⟩
    · simp only [readPredicate, skipBlank_congr before hhead, hrefused]
  · rename_i v more hbody
    obtain ⟨condition, hcondition, hread⟩ := local_condition _ _ _ hbody
    obtain ⟨after, hafter⟩ := exists_blank more
    split at h
    · cases h
    · rename_i hclose
      obtain rfl := Except.error.inj h
      refine ⟨before.run ++ (condition.write ++ after.run), skipBlank more,
        ⟨?_, rfl, fun _ => ?_, ?_⟩⟩
      · simp only [List.append_assoc, ← hafter, ← hcondition, ← hbefore]
      · refine ⟨[']'], _, (htail condition after).symm.trans ?_⟩
        simp only [List.append_assoc]
      · intro _ rest' hhead
        have hmore : (after.run ++ rest').head? = more.head? := by
          rw [hafter]
          exact head?_append_congr after.run hhead
        have hahead : (condition.write ++ (after.run ++ rest')).head? =
            (skipBlank ahead).head? := by
          rw [hcondition]
          exact head?_append_congr condition.write hmore
        simp only [List.append_assoc, readPredicate, skipBlank_congr before hahead,
          hread _ hmore, skipBlank_congr after hhead]
        split
        · rename_i left'
          obtain ⟨-, he⟩ | ⟨c, left, more', he, he'⟩ := starts_of_head? hhead
          · cases he
          · obtain ⟨rfl, -⟩ := List.cons.inj he'
            exact (hclose left he).elim
        · rfl

theorem readPredicates_error {refusal : Refusal} (h : readPredicate rest = .error refusal) :
    readPredicates ('[' :: rest) = .error refusal := by
  rw [readPredicates]
  split <;> simp_all

theorem readPredicates_more_error {left : List Char} {predicate : Predicate} {refusal : Refusal}
    (hfirst : readPredicate rest = .ok (predicate, left))
    (hmore : readPredicates left = .error refusal) :
    readPredicates ('[' :: rest) = .error refusal := by
  rw [readPredicates]
  split <;> simp_all

/-- All predicates have been read. -/
theorem ends_of_readPredicates {predicates : List Predicate}
    (h : readPredicates ahead = .ok (predicates, rest)) : Ends (· == '[') rest := by
  fun_induction readPredicates ahead generalizing predicates rest with
  | case1 => cases h
  | case2 => cases h
  | case3 more predicate left hfirst predicates' left' hmore ih =>
      obtain ⟨-, rfl⟩ := Prod.mk.inj (Except.ok.inj h)
      exact ih hmore
  | case4 ahead hbracket =>
      obtain ⟨-, rfl⟩ := Prod.mk.inj (Except.ok.inj h)
      cases ahead with
      | nil => exact ends_nil
      | cons c more =>
          refine ends_cons (beq_eq_false_iff_ne.2 ?_)
          rintro rfl
          exact hbracket more rfl

theorem local_brackets : Local readPredicates (List.flatMap Bracket.write) := by
  intro ahead v rest h
  obtain ⟨brackets, hwrite, rfl⟩ := reads_brackets.derives _ _ _ h
  exact ⟨brackets, hwrite, fun rest' hhead => reads_brackets.accepts brackets rest'
    (ends_congr hhead (ends_of_readPredicates h))⟩

theorem stops_brackets : Stops readPredicates (Writes (List.flatMap Bracket.write)) := by
  intro ahead refusal h
  fun_induction readPredicates ahead generalizing refusal with
  | case1 more refusal' hfirst =>
      obtain rfl := Except.error.inj h
      refine stops_bracket.after hfirst ['['] (fun text => ?_) fun ahead' refusal'' _ => ?_
      · rintro ⟨bracket, rfl⟩
        refine ⟨[], [bracket], ?_⟩
        simp only [List.flatMap_cons, List.flatMap_nil, List.append_nil, bracket.write_eq]
        rfl
      · exact readPredicates_error
  | case2 more predicate left hfirst refusal' hmore ih =>
      obtain rfl := Except.error.inj h
      obtain ⟨bracket, rfl, rfl⟩ := reads_bracket.derives _ _ _ hfirst
      obtain ⟨used, rest, hfrontier⟩ := ih _ hmore
      refine ⟨_, _, hfrontier.after ('[' :: bracket.tail) (fun text => ?_)
        fun ahead' refusal'' _ => ?_⟩
      · rintro ⟨brackets, rfl⟩
        refine ⟨[], bracket :: brackets, ?_⟩
        simp only [List.flatMap_cons, bracket.write_eq, List.append_nil]
      · exact readPredicates_more_error (reads_bracket.accepts bracket ahead' trivial)
  | case3 => cases h
  | case4 => cases h

-- ==================================================== steps, expressions

/-- What is wrong if no test is ahead. -/
def noTest : Option Char → Fault
  | none => .emptyStep
  | some '[' => .predicateWithoutTest
  | some c => .expectedTest c

theorem readTest_of_ends (hstar : ahead.head? ≠ some '*') (h : Ends isNameStart ahead) :
    readTest ahead = refuse ahead (noTest ahead.head?) := by
  cases ahead with
  | nil => rfl
  | cons c more =>
      unfold readTest
      split
      · simp_all
      · simp only [readName?_of_ends h, List.head?_cons, noTest]
        split <;> simp_all

theorem readTest_unclosed {c : Char} (h : isNameStart c = true) {text : String} {left : List Char}
    (hname : readName? (c :: rest) = some (text, '(' :: left))
    (hclose : ∀ more, left ≠ ')' :: more) :
    readTest (c :: rest) = refuse left .unclosedParenthesis := by
  have hstar : c ≠ '*' := by
    rintro rfl
    exact absurd h (by decide)
  unfold readTest
  split
  · simp_all
  · simp only [hname]

theorem local_test : Local readTest Test.write := by
  intro ahead v rest h
  unfold readTest at h
  split at h
  · obtain ⟨rfl, rfl⟩ := Prod.mk.inj (Except.ok.inj h)
    exact ⟨.any, rfl, fun rest' _ => rfl⟩
  · split at h
    · rename_i text more hname
      obtain ⟨rfl, rfl⟩ := Prod.mk.inj (Except.ok.inj h)
      obtain ⟨name, rfl, rfl⟩ := exists_name hname
      refine ⟨.type name, ?_, fun rest' _ => ?_⟩
      · simp only [Test.write, List.append_assoc, List.cons_append, List.nil_append]
      · simp only [Test.write, List.append_assoc, List.cons_append, List.nil_append]
        exact readTest_type name.isNameStart_first (readName?_write name (ends_cons (by decide)))
    · cases h
    · rename_i text more hpair hparen hname
      obtain ⟨rfl, rfl⟩ := Prod.mk.inj (Except.ok.inj h)
      have hends : Ends isTestPart more := by
        intro c hc
        have hpart := ends_of_readName? hname c hc
        simp only [isTestPart, hpart, Bool.false_or, beq_eq_false_iff_ne]
        rintro rfl
        obtain ⟨left, hleft⟩ := List.head?_eq_some_iff.1 hc
        exact hparen left hleft
      obtain ⟨name, rfl, rfl⟩ := exists_name hname
      refine ⟨.name name, rfl, fun rest' hhead => ?_⟩
      exact readTest_name name.isNameStart_first
        (readName?_write name (ends_name (ends_congr hhead hends))) (ends_congr hhead hends)
    · split at h <;> cases h

theorem stops_test : Stops readTest (Writes Test.write) := by
  intro ahead refusal h
  cases hname : readName? ahead with
  | none =>
      have hends := readName?_none hname
      have hstar : ahead.head? ≠ some '*' := by
        intro he
        obtain ⟨more, rfl⟩ := List.head?_eq_some_iff.1 he
        cases h
      rw [readTest_of_ends hstar hends] at h
      obtain rfl := Except.error.inj h
      refine ⟨[], _, .here ⟨_, .any, rfl⟩ fun rest' hhead => ?_⟩
      rw [← hhead]
      exact readTest_of_ends (hhead ▸ hstar) (ends_congr hhead hends)
  | some read =>
      unfold readTest at h
      simp only [hname] at h
      split at h
      · cases h
      · split at h
        · cases h
        · rename_i text left hclose he
          obtain rfl := Except.error.inj h
          obtain ⟨name, rfl, rfl⟩ := exists_name (hname.trans he)
          refine ⟨name.write ++ ['('], left, ⟨?_, rfl, fun _ => ⟨[')'], .type name, ?_⟩, ?_⟩⟩
          · simp only [List.append_assoc, List.cons_append, List.nil_append]
          · simp only [Test.write, List.append_assoc, List.cons_append, List.nil_append]
          · intro _ rest' hhead
            simp only [List.append_assoc, List.cons_append, List.nil_append]
            refine readTest_unclosed name.isNameStart_first
              (readName?_write name (ends_cons (by decide))) fun more he => ?_
            obtain ⟨-, he'⟩ | ⟨c, more', more'', he', he''⟩ := starts_of_head? hhead
            · rw [he] at he'
              cases he'
            · obtain ⟨rfl, -⟩ := List.cons.inj (he.symm.trans he'')
              exact hclose more' he'
        · cases h
        · rename_i he
          cases he

/-- What stands after an axis. -/
def writeBody (body : Test × List Bracket) : List Char :=
  body.1.write ++ body.2.flatMap Bracket.write

/-- Whether there is no step after an axis. -/
def AtNoStep (ahead : List Char) : Prop :=
  (ahead.head?.all fun c => c == '/' || isWhitespace c) = true

theorem readStepBody_of_atNoStep {axis : Axis} (h : AtNoStep ahead) :
    readStepBody axis ahead = refuse ahead .emptyStep :=
  if_pos h

theorem readStepBody_of_not_atNoStep {axis : Axis} (h : ¬ AtNoStep ahead) :
    readStepBody axis ahead = match readTest ahead with
      | .error e => .error e
      | .ok (test, rest) =>
        match readPredicates rest with
        | .error e => .error e
        | .ok (predicates, left) => .ok (⟨axis, test, predicates⟩, left) :=
  if_neg h

theorem not_atNoStep_of_readStepBody {axis : Axis} {step : Step}
    (h : readStepBody axis ahead = .ok (step, rest)) : ¬ AtNoStep ahead := by
  intro hempty
  rw [readStepBody_of_atNoStep hempty] at h
  cases h

theorem local_stepBody (axis : Axis) : Local (readStepBody axis) writeBody := by
  intro ahead step rest h
  have hsome := not_atNoStep_of_readStepBody h
  rw [readStepBody_of_not_atNoStep hsome] at h
  split at h
  · cases h
  · rename_i v more htest
    split at h
    · cases h
    · rename_i predicates left hpredicates
      obtain ⟨rfl, rfl⟩ := Prod.mk.inj (Except.ok.inj h)
      obtain ⟨test, hwrite, hread⟩ := local_test _ _ _ htest
      obtain ⟨brackets, hwrite', hread'⟩ := local_brackets _ _ _ hpredicates
      refine ⟨(test, brackets), ?_, fun rest' hhead => ?_⟩
      · rw [writeBody, List.append_assoc, ← hwrite', ← hwrite]
      · have hmore : (brackets.flatMap Bracket.write ++ rest').head? = more.head? := by
          rw [hwrite']
          exact head?_append_congr _ hhead
        have hahead : (test.write ++ (brackets.flatMap Bracket.write ++ rest')).head? =
            ahead.head? := by
          rw [hwrite]
          exact head?_append_congr _ hmore
        rw [AtNoStep, ← hahead] at hsome
        simp only [writeBody, List.append_assoc]
        rw [readStepBody_of_not_atNoStep hsome]
        simp only [hread _ hmore, hread' _ hhead]

theorem stops_stepBody (axis : Axis) : Stops (readStepBody axis) (Writes writeBody) := by
  intro ahead refusal h
  by_cases hempty : AtNoStep ahead
  · rw [readStepBody_of_atNoStep hempty] at h
    obtain rfl := Except.error.inj h
    refine ⟨[], _, .here ⟨_, (.any, []), rfl⟩ fun rest' hhead => ?_⟩
    rw [AtNoStep, ← hhead] at hempty
    exact readStepBody_of_atNoStep hempty
  · rw [readStepBody_of_not_atNoStep hempty] at h
    split at h
    · rename_i refusal' htest
      obtain rfl := Except.error.inj h
      refine stops_test.after htest [] (fun text => ?_) fun ahead' refusal'' hhead hrefused => ?_
      · rintro ⟨test, rfl⟩
        exact ⟨[], (test, []), rfl⟩
      · rw [AtNoStep, ← hhead] at hempty
        simp only [List.nil_append]
        rw [readStepBody_of_not_atNoStep hempty]
        simp only [hrefused]
    · rename_i v more htest
      obtain ⟨test, hwrite, hread⟩ := local_test _ _ _ htest
      split at h
      · rename_i refusal' hpredicates
        obtain rfl := Except.error.inj h
        rw [hwrite] at hempty ⊢
        refine stops_brackets.after hpredicates test.write (fun text => ?_)
          fun ahead' refusal'' hhead hrefused => ?_
        · rintro ⟨brackets, rfl⟩
          exact ⟨[], (test, brackets), by rw [List.append_nil]; rfl⟩
        · rw [AtNoStep, ← head?_append_congr test.write hhead] at hempty
          rw [readStepBody_of_not_atNoStep hempty]
          simp only [hread _ hhead, hrefused]
      · cases h

/-- Two slashes are an axis of their own, so one is an axis if the next character is none. -/
theorem readStep_child (first : Bool) (h : rest.head? ≠ some '/') :
    readStep first ('/' :: rest) = readStepBody .child rest :=
  readStep.eq_2 first rest fun more he => h (by rw [he]; rfl)

/-- What is wrong if no axis is ahead. -/
def noAxis (first : Bool) : Option Char → Fault
  | some ']' => .unexpectedBracket
  | some ')' => .unexpectedParenthesis
  | some c => if first then .missingSlash c else .unexpectedCharacter c
  | none => .emptyExpression

theorem readStep_of_head? (first : Bool) (h : ahead.head? ≠ some '/') :
    readStep first ahead = refuse ahead (noAxis first ahead.head?) := by
  cases ahead with
  | nil => rfl
  | cons c more =>
      have hslash : c ≠ '/' := by
        rintro rfl
        exact h rfl
      simp only [List.head?_cons, noAxis]
      unfold readStep
      split <;> simp_all

/-- A step without the white space after it. -/
def writeStep (step : Axis × Test × List Bracket) : List Char :=
  step.1.print ++ writeBody step.2

theorem Leg.write_eq (leg : Leg) :
    leg.write = writeStep (leg.axis, leg.test, leg.brackets) ++ leg.after.run := by
  simp only [Leg.write, writeStep, writeBody, List.append_assoc]

theorem local_step (first : Bool) : Local (readStep first) writeStep := by
  intro ahead step rest h
  unfold readStep at h
  split at h
  · obtain ⟨body, hwrite, hread⟩ := local_stepBody _ _ _ _ h
    exact ⟨(.descendant, body), by rw [hwrite]; rfl, hread⟩
  · rename_i more hone
    obtain ⟨body, hwrite, hread⟩ := local_stepBody _ _ _ _ h
    refine ⟨(.child, body), by rw [hwrite]; rfl, fun rest' hhead => ?_⟩
    have hsame : (writeBody body ++ rest').head? = more.head? := by
      rw [hwrite]
      exact head?_append_congr _ hhead
    refine (readStep_child first fun he => ?_).trans (hread rest' hhead)
    obtain ⟨more', he'⟩ := List.head?_eq_some_iff.1 (hsame.symm.trans he)
    exact hone more' he'
  all_goals cases h

theorem stops_step (first : Bool) : Stops (readStep first) (Writes Leg.write) := by
  have complete : ∀ (axis : Axis) (text : List Char), Writes writeBody text →
      ∃ more, Writes Leg.write (axis.print ++ (text ++ more)) := by
    rintro axis text ⟨⟨test, brackets⟩, rfl⟩
    exact ⟨[], ⟨axis, test, brackets, .none⟩, by
      simp only [Leg.write_eq, writeStep, List.append_assoc]
      rfl⟩
  intro ahead refusal h
  by_cases hslash : ahead.head? = some '/'
  · obtain ⟨more, rfl⟩ := List.head?_eq_some_iff.1 hslash
    by_cases hslash' : more.head? = some '/'
    · obtain ⟨more', rfl⟩ := List.head?_eq_some_iff.1 hslash'
      exact (stops_stepBody .descendant).after h ['/', '/'] (complete .descendant)
        fun _ _ _ hrefused => hrefused
    · rw [readStep_child first hslash'] at h
      refine (stops_stepBody .child).after h ['/'] (complete .child)
        fun ahead' refusal' hhead hrefused => ?_
      exact (readStep_child first (hhead ▸ hslash')).trans hrefused
  · rw [readStep_of_head? first hslash] at h
    obtain rfl := Except.error.inj h
    refine ⟨[], _, .here ⟨_, .sample, rfl⟩ fun rest' hhead => ?_⟩
    rw [← hhead]
    exact readStep_of_head? first (hhead ▸ hslash)

theorem readSteps_error {first : Bool} {refusal : Refusal} (hsome : skipBlank ahead ≠ [])
    (hfirst : readStep first (skipBlank ahead) = .error refusal) :
    readSteps first ahead = .error refusal := by
  rw [readSteps]
  split
  · exact absurd ‹_› hsome
  · rename_i hahead
    rw [hahead] at hfirst
    split <;> simp_all

theorem readSteps_more_error {first : Bool} {left : List Char} {step : Step} {refusal : Refusal}
    (hfirst : readStep first (skipBlank ahead) = .ok (step, left))
    (hmore : readSteps false left = .error refusal) :
    readSteps first ahead = .error refusal := by
  rw [readSteps]
  split
  · rename_i hahead
    rw [hahead] at hfirst
    cases hfirst
  · rename_i hahead
    rw [hahead] at hfirst
    split <;> simp_all

/-- White space and steps. -/
def writeSteps (steps : Blank × List Leg) : List Char :=
  steps.1.run ++ steps.2.flatMap Leg.write

theorem stops_steps (first : Bool) : Stops (readSteps first) (Writes writeSteps) := by
  intro ahead refusal h
  fun_induction readSteps first ahead generalizing refusal with
  | case1 => cases h
  | case2 first ahead c more hahead refusal' hstep =>
      obtain rfl := Except.error.inj h
      obtain ⟨blank, hblank⟩ := exists_blank ahead
      rw [hblank, hahead]
      refine (stops_step first).after hstep blank.run (fun text => ?_)
        fun ahead' refusal'' hhead hrefused => ?_
      · rintro ⟨leg, rfl⟩
        refine ⟨[], (blank, [leg]), ?_⟩
        simp only [writeSteps, List.flatMap_cons, List.flatMap_nil]
      · have hskip := skipBlank_congr blank (hhead.trans (congrArg List.head? hahead.symm))
        refine readSteps_error (fun hnone => ?_) (by rw [hskip, hrefused])
        rw [← hskip, hnone] at hhead
        cases hhead
  | case3 first ahead c more hahead step left hstep refusal' hmore ih =>
      obtain rfl := Except.error.inj h
      obtain ⟨blank, hblank⟩ := exists_blank ahead
      obtain ⟨⟨axis, test, brackets⟩, hwrite, hread⟩ := local_step _ _ _ _ hstep
      obtain ⟨used, rest, hfrontier⟩ := ih _ hmore
      have hcut : ahead = (blank.run ++ writeStep (axis, test, brackets)) ++ left := by
        rw [List.append_assoc, ← hwrite, ← hahead, ← hblank]
      rw [hcut]
      refine ⟨_, _, hfrontier.after _ (fun text => ?_) fun ahead' refusal'' hhead hrefused => ?_⟩
      · rintro ⟨⟨after, legs⟩, rfl⟩
        refine ⟨[], (blank, ⟨axis, test, brackets, after⟩ :: legs), ?_⟩
        simp only [writeSteps, List.flatMap_cons, Leg.write_eq, List.append_assoc, List.append_nil]
      · have hsame : (writeStep (axis, test, brackets) ++ ahead').head? =
            (skipBlank ahead).head? := by
          rw [hahead, hwrite]
          exact head?_append_congr _ hhead
        have hfirst := hread ahead' hhead
        rw [← skipBlank_congr blank hsame] at hfirst
        rw [List.append_assoc]
        exact readSteps_more_error hfirst hrefused
  | case4 => cases h

/-- White space after white space. -/
def Blank.append (blank blank' : Blank) : Blank :=
  ⟨blank.run ++ blank'.run, fun c hc =>
    (List.mem_append.1 hc).elim (blank.blank c) (blank'.blank c)⟩

theorem read_of_ne_nil (h : skipBlank ahead ≠ []) :
    read ahead = readSteps true (skipBlank ahead) := by
  unfold read
  split
  · exact absurd ‹_› h
  · rfl

theorem stops_read : Stops read (Writes Derivation.write) := by
  intro ahead refusal h
  obtain ⟨before, hbefore⟩ := exists_blank ahead
  by_cases hnone : skipBlank ahead = []
  · have hread : read ahead = refuse [] .emptyExpression := by
      unfold read
      rw [hnone]
    rw [hread] at h
    obtain rfl := Except.error.inj h
    rw [hnone, List.append_nil] at hbefore
    refine ⟨ahead, [], ⟨(List.append_nil _).symm, rfl, fun _ => ?_, fun _ rest' hhead => ?_⟩⟩
    · refine ⟨Leg.sample.write, ⟨before, .sample, []⟩, ?_⟩
      simp only [Derivation.write, List.flatMap_nil, List.append_nil, ← hbefore]
    · obtain rfl := List.head?_eq_none_iff.1 hhead
      rw [List.append_nil]
      exact hread
  · rw [read_of_ne_nil hnone] at h
    rw [hbefore]
    refine (stops_steps true).after h before.run (fun text => ?_)
      fun ahead' refusal' hhead hrefused => ?_
    · rintro ⟨⟨blank, legs⟩, rfl⟩
      cases legs with
      | nil =>
          refine ⟨Leg.sample.write, ⟨before.append blank, .sample, []⟩, ?_⟩
          simp only [Derivation.write, Blank.append, writeSteps, List.flatMap_nil, List.append_nil,
            List.append_assoc]
      | cons leg legs =>
          refine ⟨[], ⟨before.append blank, leg, legs⟩, ?_⟩
          simp only [Derivation.write, Blank.append, writeSteps, List.flatMap_cons, List.append_nil,
            List.append_assoc]
    · have hskip := skipBlank_congr before hhead
      rw [read_of_ne_nil, hskip, hrefused]
      intro he
      rw [hskip] at he
      rw [he] at hhead
      exact hnone (List.head?_eq_none_iff.1 hhead.symm)

-- ============================================================ compiling

/-- Some expression that compiles begins with these characters. -/
def Viable (lead : List Char) : Prop :=
  ∃ expression program, compile expression = .ok program ∧ lead <+: expression.toList

theorem viable_of_writes {more : List Char} (h : Writes Derivation.write (lead ++ more)) :
    Viable lead := by
  obtain ⟨derivation, hwrite⟩ := h
  refine ⟨derivation.text, _, compile_text derivation, more, ?_⟩
  rw [Derivation.text, String.toList_ofList, hwrite]

theorem not_viable_of_stuck {c : Char} {more : List Char} {fault : Fault}
    (h : ∀ rest', rest'.head? = (c :: more).head? →
      read (lead ++ rest') = .error ⟨rest'.length, fault⟩) : ¬ Viable (lead ++ [c]) := by
  rintro ⟨expression, program, hcompile, more', hexpression⟩
  obtain ⟨hread, -⟩ := read_of_compile hcompile
  rw [← hexpression, List.append_assoc, List.singleton_append, h (c :: more') rfl] at hread
  cases hread

theorem final_of_message {fault : Fault} (h : fault.message ≠ "position out of range")
    (h' : fault.message ≠ "positions are 1-based")
    (h'' : fault.message ≠ "unterminated string literal") : fault.Final :=
  ⟨fun he => h (congrArg Fault.message he), fun he => h' (congrArg Fault.message he),
    fun he => h'' (congrArg Fault.message he)⟩

/-- The position of a fault is the length of what comes before the frontier. -/
theorem frontier_of_compile {expression : String} {e : SyntaxError}
    (h : compile expression = .error e) :
    ∃ used rest, e.position = used.length ∧
      Frontier read (Writes Derivation.write) expression.toList ⟨rest.length, e.fault⟩ used rest := by
  unfold compile at h
  split at h
  · cases h
  · rename_i refusal hread
    obtain rfl := Except.error.inj h
    obtain ⟨used, rest, hfrontier⟩ := stops_read _ _ hread
    refine ⟨used, rest, ?_, hfrontier.cut, rfl, hfrontier.viable, hfrontier.stuck⟩
    show expression.length - refusal.left = used.length
    rw [hfrontier.counted, ← String.length_toList, hfrontier.cut, List.length_append,
      Nat.add_sub_cancel]

/-- A text that does not compile is reported at its frontier. The characters before the position
are no reason to refuse it, unless a number is too large. The character at the position is, unless
a number is wrong or a literal stays open, which is reported where it starts. -/
theorem refused_at_frontier {expression : String} {e : SyntaxError}
    (h : compile expression = .error e) :
    e.position ≤ expression.length ∧
      (e.fault.message ≠ "position out of range" →
        Viable (expression.toList.take e.position)) ∧
      (e.fault.message ≠ "position out of range" → e.fault.message ≠ "positions are 1-based" →
        e.fault.message ≠ "unterminated string literal" → e.position < expression.length →
          ¬ Viable (expression.toList.take (e.position + 1))) := by
  obtain ⟨used, rest, hposition, hfrontier⟩ := frontier_of_compile h
  have hlength : expression.length = used.length + rest.length := by
    rw [← String.length_toList, hfrontier.cut, List.length_append]
  refine ⟨by omega, fun hmessage => ?_, fun hmessage hmessage' hmessage'' hlt => ?_⟩
  · obtain ⟨more, hwritten⟩ := hfrontier.viable fun he => hmessage (congrArg Fault.message he)
    rw [hfrontier.cut, hposition, List.take_left]
    exact viable_of_writes hwritten
  · have hstuck := hfrontier.stuck (final_of_message hmessage hmessage' hmessage'')
    cases rest with
    | nil =>
        rw [hposition, hlength] at hlt
        exact absurd hlt (Nat.lt_irrefl _)
    | cons c more =>
        have htake : (used ++ c :: more).take (used.length + 1) = used ++ [c] := by
          rw [List.append_cons]
          exact List.take_left' List.length_append
        rw [hfrontier.cut, hposition, htake]
        exact not_viable_of_stuck hstuck

/-- A value without quotes is reported where the quote should be. -/
theorem refused_at_frontier_unquoted :
    compile "//fn[@name=x]" = .error ⟨"//fn[@name=x]", 11, .expectedLiteral⟩ ∧
      Viable "//fn[@name=".toList ∧ ¬ Viable "//fn[@name=x".toList := by
  have hrefused : compile "//fn[@name=x]" = .error ⟨"//fn[@name=x]", 11, .expectedLiteral⟩ := by
    decide +kernel
  obtain ⟨-, viable, stuck⟩ := refused_at_frontier hrefused
  refine ⟨hrefused, viable ?_, stuck ?_ ?_ ?_ ?_⟩ <;> decide

end Grammar

end TreeQuery.Expression
