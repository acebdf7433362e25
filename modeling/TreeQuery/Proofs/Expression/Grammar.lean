/-
The grammar of path expressions, said without a reader.

# Derivations

    expression := blank* (axis step blank* )+
    axis       := '/' | '//'
    step       := ('*' | name | name '()') predicate*
    predicate  := '[' blank* ('@' name blank* '=' blank* literal | name | digits) blank* ']'

Each production is a type of its own, whose values are its derivations: a value says which
alternative was taken and what every part of it was derived as, and what a part has to satisfy
is a field of it. `write` is the text a derivation derives, `value` what the text stands for. So
a text belongs to the language when some derivation writes it.

# One derivation at most

Nothing in a text says where a part ends but the characters after it. A name or a run of
digits ends where a character cannot go on with it, a literal at its quote, a predicate at its
bracket. `Ends` is what has to follow a part, in terms of the first character ahead; `Unmixed`
says that parts so followed can be told apart and cut off in one way only. It holds of every
production (`unmixed_…`), from the inside out, and so a text has at most one derivation
(`Derivation.write_injective`).
-/
import TreeQuery.Expression.Parser
import TreeQuery.Proofs.Text.Unmixed

namespace TreeQuery

-- ========================================================== characters

namespace Unicode

/-- The white space of Unicode, one by one. -/
def whitespaceCodes : List Nat :=
  List.range' 9 5 ++ [0x20, 0x85, 0xA0, 0x1680] ++ List.range' 0x2000 11 ++
    [0x2028, 0x2029, 0x202F, 0x205F, 0x3000]

theorem mem_whitespaceCodes {c : Char} (h : isWhitespace c = true) :
    c.toNat ∈ whitespaceCodes := by
  simp only [isWhitespace, whitespace, Ranges.contains] at h
  simp only [whitespaceCodes, List.mem_append, List.mem_range'_1, List.mem_cons, List.not_mem_nil,
    or_false]
  grind

/-- White space belongs to no word. -/
theorem isAlphanumeric_of_isWhitespace {c : Char} (h : isWhitespace c = true) :
    isAlphanumeric c = false := by
  have apart : ∀ code ∈ whitespaceCodes,
      (alphabetic.contains code || numeric.contains code) = false := by decide +kernel
  exact apart c.toNat (mem_whitespaceCodes h)

end Unicode

namespace Expression

open Unicode

theorem mem_range_of_isDigit {c : Char} (h : isDigit c = true) : c.toNat ∈ List.range' 48 10 := by
  simp only [isDigit, Bool.and_eq_true, decide_eq_true_eq, Char.le_def, UInt32.le_iff_toNat_le]
    at h
  have low : 48 ≤ c.toNat := h.1
  have high : c.toNat ≤ 57 := h.2
  simp only [List.mem_range'_1]
  omega

theorem isNameStart_of_isDigit {c : Char} (h : isDigit c = true) : isNameStart c = false := by
  have apart : ∀ code ∈ List.range' 48 10, alphabetic.contains code = false ∧ code ≠ 95 := by
    decide
  obtain ⟨letter, line⟩ := apart c.toNat (mem_range_of_isDigit h)
  simp only [isNameStart, isAlphabetic, letter, Bool.false_or, beq_eq_false_iff_ne]
  rintro rfl
  exact line rfl

theorem isNamePart_of_isDigit {c : Char} (h : isDigit c = true) : isNamePart c = true := by
  have within : ∀ code ∈ List.range' 48 10, numeric.contains code = true := by decide
  simp only [isNamePart, isAlphanumeric, within c.toNat (mem_range_of_isDigit h), Bool.or_true,
    Bool.true_or]

theorem isNamePart_of_isNameStart {c : Char} (h : isNameStart c = true) : isNamePart c = true := by
  simp only [isNameStart, Bool.or_eq_true] at h
  simp only [isNamePart, isAlphanumeric, Bool.or_eq_true]
  rcases h with letter | line
  · exact .inl (.inl (.inl (.inl letter)))
  · exact .inl (.inl (.inr line))

theorem isNamePart_of_isWhitespace {c : Char} (h : isWhitespace c = true) :
    isNamePart c = false := by
  simp only [isNamePart, isAlphanumeric_of_isWhitespace h, Bool.false_or, Bool.or_eq_false_iff,
    beq_eq_false_iff_ne]
  refine ⟨⟨?_, ?_⟩, ?_⟩ <;> rintro rfl <;> exact absurd h (by decide)

theorem isWhitespace_of_isNamePart {c : Char} (h : isNamePart c = true) :
    isWhitespace c = false := by
  cases blank : isWhitespace c with
  | false => rfl
  | true =>
      rw [isNamePart_of_isWhitespace blank] at h
      cases h

end Expression

namespace Expression.Grammar

open Unicode
open Text

-- ========================================================= productions

/-- White space, none included. -/
structure Blank where
  run : List Char
  blank : ∀ c ∈ run, isWhitespace c = true

/-- No white space. -/
def Blank.none : Blank := ⟨[], fun c hc => by cases hc⟩

structure Name where
  first : Char
  rest : List Char
  starts : isAlphabetic first = true ∨ first = '_'
  goesOn : ∀ c ∈ rest, isAlphanumeric c = true ∨ c = '_' ∨ c = '.' ∨ c = '-'

/-- The digits of a position, leading zeros included: a number from 1 to 2^64 - 1. -/
structure Digits where
  run : List Char
  digits : ∀ c ∈ run, '0' ≤ c ∧ c ≤ '9'
  positive : 1 ≤ Nat.ofDigitChars 10 run 0
  bounded : Nat.ofDigitChars 10 run 0 < UInt64.size

/-- A piece of a literal with the given quote. -/
inductive Piece (quote : Char) where
  | plain (c : Char) (notQuote : c ≠ quote) (notBackslash : c ≠ '\\')
  /-- A backslash and the character it stands for. -/
  | pair (c : Char)

structure Literal where
  quote : Char
  isQuote : quote = '\'' ∨ quote = '"'
  pieces : List (Piece quote)

/-- What stands in brackets, without the white space around it. -/
inductive Condition where
  | property (name : Name) (beforeSign afterSign : Blank) (value : Literal)
  | hasChild (name : Name)
  | position (place : Digits)

/-- A predicate. -/
structure Bracket where
  before : Blank
  condition : Condition
  after : Blank

inductive Test where
  | any
  | name (name : Name)
  | type (name : Name)

/-- An axis, a step along it and the white space after that. -/
structure Leg where
  axis : Axis
  test : Test
  brackets : List Bracket
  after : Blank

/-- A whole expression. -/
structure Derivation where
  before : Blank
  first : Leg
  rest : List Leg

-- =============================================================== texts

def Name.write (name : Name) : List Char := name.first :: name.rest

def Piece.write {quote : Char} : Piece quote → List Char
  | .plain c _ _ => [c]
  | .pair c => ['\\', c]

def Literal.write (literal : Literal) : List Char :=
  literal.quote :: literal.pieces.flatMap Piece.write ++ [literal.quote]

def Condition.write : Condition → List Char
  | .property name beforeSign afterSign value =>
    '@' :: name.write ++ beforeSign.run ++ '=' :: afterSign.run ++ value.write
  | .hasChild name => name.write
  | .position place => place.run

def Bracket.write (bracket : Bracket) : List Char :=
  '[' :: bracket.before.run ++ bracket.condition.write ++ bracket.after.run ++ [']']

def Test.write : Test → List Char
  | .any => ['*']
  | .name n => n.write
  | .type n => n.write ++ ['(', ')']

def Leg.write (leg : Leg) : List Char :=
  leg.axis.print ++ leg.test.write ++ leg.brackets.flatMap Bracket.write ++ leg.after.run

def Derivation.write (derivation : Derivation) : List Char :=
  derivation.before.run ++ derivation.first.write ++ derivation.rest.flatMap Leg.write

-- ============================================================= meaning

def Name.text (name : Name) : String := String.ofList name.write

def Digits.value (digits : Digits) : Nat := Nat.ofDigitChars 10 digits.run 0

def Piece.value {quote : Char} : Piece quote → Char
  | .plain c _ _ => c
  | .pair c => c

def Literal.value (literal : Literal) : String := String.ofList (literal.pieces.map Piece.value)

def Condition.value : Condition → Predicate
  | .property name _ _ value => .attribute name.text value.value
  | .hasChild name => .hasChild name.text
  | .position place => .position place.value

def Test.value : Test → NodeTest
  | .any => .any
  | .name n => .name n.text
  | .type n => .type n.text

def Leg.value (leg : Leg) : Step where
  axis := leg.axis
  test := leg.test.value
  predicates := leg.brackets.map fun bracket => bracket.condition.value

def Derivation.steps (derivation : Derivation) : List Step :=
  derivation.first.value :: derivation.rest.map Leg.value

-- ================================================= what ends a part

variable {p : Char → Bool} {ahead rest rest' : List Char}

/-- A class without white space ends before white space. -/
theorem ends_blank (h : Ends p ahead) (apart : ∀ c, isWhitespace c = true → p c = false)
    (blank : Blank) : Ends p (blank.run ++ ahead) := by
  obtain ⟨run, hrun⟩ := blank
  cases run with
  | nil => exact h
  | cons c run => exact ends_cons (apart c (hrun c List.mem_cons_self))

/-- A name ends at the sign or bracket after it, with white space in front of that or without. -/
theorem ends_name_blank {c : Char} (h : isNamePart c = false) (blank : Blank) (ahead : List Char) :
    Ends isNamePart (blank.run ++ c :: ahead) :=
  ends_blank (ends_cons h) (fun _ => isNamePart_of_isWhitespace) blank

-- ============================================================ unmixed

theorem unmixed_blank : Unmixed Blank.run (Ends isWhitespace) := by
  rintro ⟨run, hrun⟩ ⟨run', hrun'⟩ rest rest' h h' he
  obtain ⟨rfl, rfl⟩ := run_unmixed hrun hrun' h h' he
  exact ⟨rfl, rfl⟩

theorem Name.isNameStart_first (name : Name) : isNameStart name.first = true := by
  simp only [isNameStart, Bool.or_eq_true, beq_iff_eq]
  exact name.starts

theorem Name.isNamePart_rest (name : Name) : ∀ c ∈ name.rest, isNamePart c = true := by
  intro c hc
  simp only [isNamePart, Bool.or_eq_true, beq_iff_eq, or_assoc]
  exact name.goesOn c hc

theorem unmixed_name : Unmixed Name.write (Ends isNamePart) := by
  intro x y rest rest' h h' he
  obtain ⟨hfirst, hrest⟩ := List.cons.inj he
  obtain ⟨hrun, hafter⟩ := run_unmixed x.isNamePart_rest y.isNamePart_rest h h' hrest
  refine ⟨?_, hafter⟩
  cases x
  cases y
  simp_all

theorem Digits.isDigit_run (digits : Digits) : ∀ c ∈ digits.run, isDigit c = true := by
  intro c hc
  simp only [isDigit, Bool.and_eq_true, decide_eq_true_eq]
  exact digits.digits c hc

/-- A position has at least one digit. -/
theorem Digits.exists_cons (digits : Digits) : ∃ c run, digits.run = c :: run := by
  obtain ⟨run, -, positive, -⟩ := digits
  cases run with
  | nil => exact absurd positive (by decide)
  | cons c run => exact ⟨c, run, rfl⟩

theorem unmixed_digits : Unmixed Digits.run (Ends isDigit) := by
  intro x y rest rest' h h' he
  obtain ⟨hrun, hafter⟩ := run_unmixed x.isDigit_run y.isDigit_run h h' he
  refine ⟨?_, hafter⟩
  cases x
  cases y
  simp_all

theorem unmixed_piece {quote : Char} : Unmixed (@Piece.write quote) fun _ => True := by
  rintro x y rest rest' - - he
  cases x with
  | plain c notQuote notBackslash =>
      cases y with
      | plain d notQuote' notBackslash' =>
          obtain ⟨rfl, hafter⟩ := List.cons.inj he
          exact ⟨rfl, hafter⟩
      | pair d => exact absurd (List.cons.inj he).1 notBackslash
  | pair c =>
      cases y with
      | plain d notQuote' notBackslash' => exact absurd (List.cons.inj he).1.symm notBackslash'
      | pair d =>
          obtain ⟨rfl, hafter⟩ := List.cons.inj (List.cons.inj he).2
          exact ⟨rfl, hafter⟩

/-- The pieces of a literal go on until the quote, which no piece starts with. -/
theorem unmixed_pieces {quote : Char} (hq : quote ≠ '\\') :
    Unmixed (List.flatMap (@Piece.write quote)) fun ahead => ∃ after, ahead = quote :: after := by
  refine unmixed_piece.flatMap ?_ fun _ _ _ => trivial
  rintro piece ahead ⟨after, he⟩
  cases piece with
  | plain c notQuote notBackslash => exact notQuote (List.cons.inj he).1
  | pair c => exact hq (List.cons.inj he).1.symm

theorem Literal.quote_ne_backslash (literal : Literal) : literal.quote ≠ '\\' := by
  rcases literal.isQuote with h | h <;> rw [h] <;> decide

theorem unmixed_literal : Unmixed Literal.write fun _ => True := by
  rintro ⟨quote, isQuote, xs⟩ ⟨quote', isQuote', ys⟩ rest rest' - - he
  simp only [Literal.write, List.cons_append, List.append_assoc, List.nil_append] at he
  obtain ⟨rfl, hpieces⟩ := List.cons.inj he
  obtain ⟨rfl, hafter⟩ :=
    unmixed_pieces (Literal.quote_ne_backslash ⟨quote, isQuote, xs⟩) xs ys _ _ ⟨_, rfl⟩ ⟨_, rfl⟩
      hpieces
  exact ⟨rfl, (List.cons.inj hafter).2⟩

-- ---------------------------------------------------- what a part starts with

theorem Literal.ends_write (literal : Literal) (ahead : List Char) :
    Ends isWhitespace (literal.write ++ ahead) := by
  refine ends_cons ?_
  rcases literal.isQuote with h | h <;> rw [h] <;> decide

/-- What kind of character a condition starts with tells its alternative. -/
theorem Condition.exists_cons (condition : Condition) :
    ∃ c rest, condition.write = c :: rest ∧ match condition with
      | .property .. => c = '@'
      | .hasChild _ => isNameStart c = true
      | .position _ => isDigit c = true := by
  cases condition with
  | property name beforeSign afterSign value => exact ⟨_, _, rfl, rfl⟩
  | hasChild name => exact ⟨_, _, rfl, name.isNameStart_first⟩
  | position place =>
      obtain ⟨c, run, hrun⟩ := place.exists_cons
      refine ⟨c, run, hrun, place.isDigit_run c ?_⟩
      rw [hrun]
      exact List.mem_cons_self

theorem Condition.ends_write (condition : Condition) (ahead : List Char) :
    Ends isWhitespace (condition.write ++ ahead) := by
  obtain ⟨c, rest, hwrite, hc⟩ := condition.exists_cons
  rw [hwrite]
  refine ends_cons ?_
  cases condition with
  | property name beforeSign afterSign value =>
      obtain rfl : c = '@' := hc
      decide
  | hasChild name => exact isWhitespace_of_isNamePart (isNamePart_of_isNameStart hc)
  | position place => exact isWhitespace_of_isNamePart (isNamePart_of_isDigit hc)

-- -------------------------------------------------- predicates and steps

theorem unmixed_property {name name' : Name} {before before' after after' : Blank}
    {value value' : Literal} {rest rest' : List Char}
    (he : name.write ++ (before.run ++ '=' :: (after.run ++ (value.write ++ rest))) =
      name'.write ++ (before'.run ++ '=' :: (after'.run ++ (value'.write ++ rest')))) :
    (name = name' ∧ before = before' ∧ after = after' ∧ value = value') ∧ rest = rest' := by
  have sign : ∀ (blank : Blank) (ahead : List Char), Ends isNamePart (blank.run ++ '=' :: ahead) :=
    ends_name_blank (by decide)
  have hsign : ∀ ahead, Ends isWhitespace ('=' :: ahead) := fun ahead => ends_cons (by decide)
  obtain ⟨rfl, hafterName⟩ := unmixed_name _ _ _ _ (sign _ _) (sign _ _) he
  obtain ⟨rfl, hafterBlank⟩ := unmixed_blank _ _ _ _ (hsign _) (hsign _) hafterName
  obtain ⟨rfl, hafterSign⟩ := unmixed_blank _ _ _ _ (value.ends_write _) (value'.ends_write _)
    (List.cons.inj hafterBlank).2
  obtain ⟨rfl, hafterValue⟩ := unmixed_literal _ _ _ _ trivial trivial hafterSign
  exact ⟨⟨rfl, rfl, rfl, rfl⟩, hafterValue⟩

theorem unmixed_condition : Unmixed Condition.write (Ends isNamePart) := by
  intro x y rest rest' h h' he
  have hdigits : ∀ {ahead}, Ends isNamePart ahead → Ends isDigit ahead := fun h =>
    h.mono fun _ => isNamePart_of_isDigit
  obtain ⟨c, more, hx, hc⟩ := x.exists_cons
  obtain ⟨d, more', hy, hd⟩ := y.exists_cons
  obtain rfl : c = d := by
    rw [hx, hy] at he
    exact (List.cons.inj he).1
  cases x with
  | property name before after value =>
      obtain rfl : c = '@' := hc
      cases y with
      | property name' before' after' value' =>
          simp only [Condition.write, List.cons_append, List.append_assoc] at he
          obtain ⟨⟨rfl, rfl, rfl, rfl⟩, hafter⟩ := unmixed_property (List.cons.inj he).2
          exact ⟨rfl, hafter⟩
      | hasChild name' => exact absurd (show isNameStart '@' = true from hd) (by decide)
      | position place' => exact absurd (show isDigit '@' = true from hd) (by decide)
  | hasChild name =>
      cases y with
      | property name' before' after' value' =>
          obtain rfl : c = '@' := hd
          exact absurd (show isNameStart '@' = true from hc) (by decide)
      | hasChild name' =>
          obtain ⟨rfl, hafter⟩ := unmixed_name _ _ _ _ h h' he
          exact ⟨rfl, hafter⟩
      | position place' =>
          rw [isNameStart_of_isDigit hd] at hc
          cases hc
  | position place =>
      cases y with
      | property name' before' after' value' =>
          obtain rfl : c = '@' := hd
          exact absurd (show isDigit '@' = true from hc) (by decide)
      | hasChild name' =>
          rw [isNameStart_of_isDigit hc] at hd
          cases hd
      | position place' =>
          obtain ⟨rfl, hafter⟩ := unmixed_digits _ _ _ _ (hdigits h) (hdigits h') he
          exact ⟨rfl, hafter⟩

theorem unmixed_bracket : Unmixed Bracket.write fun _ => True := by
  rintro ⟨before, condition, after⟩ ⟨before', condition', after'⟩ rest rest' - - he
  have close : ∀ (blank : Blank) (ahead : List Char), Ends isNamePart (blank.run ++ ']' :: ahead) :=
    ends_name_blank (by decide)
  simp only [Bracket.write, List.cons_append, List.append_assoc, List.nil_append] at he
  have hclose : ∀ ahead, Ends isWhitespace (']' :: ahead) := fun ahead => ends_cons (by decide)
  obtain ⟨rfl, hinner⟩ := unmixed_blank _ _ _ _ (condition.ends_write _)
    (condition'.ends_write _) (List.cons.inj he).2
  obtain ⟨rfl, hblank⟩ := unmixed_condition _ _ _ _ (close _ _) (close _ _) hinner
  obtain ⟨rfl, hafter⟩ := unmixed_blank _ _ _ _ (hclose _) (hclose _) hblank
  exact ⟨rfl, (List.cons.inj hafter).2⟩

/-- Predicates go on as long as there is a bracket. -/
theorem unmixed_brackets : Unmixed (List.flatMap Bracket.write) (Ends (· == '[')) :=
  unmixed_bracket.flatMap (fun _ _ h => absurd h.of_cons (by decide)) fun _ _ _ => trivial

/-- What a name after an axis could go on with. -/
def isTestPart (c : Char) : Bool := isNamePart c || c == '('

theorem ends_name (h : Ends isTestPart ahead) : Ends isNamePart ahead :=
  h.mono fun c hc => by simp only [isTestPart, hc, Bool.true_or]

theorem unmixed_test : Unmixed Test.write (Ends isTestPart) := by
  have parens : ∀ {ahead}, Ends isNamePart ('(' :: ahead) := ends_cons (by decide)
  have star : ∀ {name : Name} {ahead ahead' : List Char},
      '*' :: ahead ≠ name.write ++ ahead' := by
    intro name ahead ahead' he
    have hstart := name.isNameStart_first
    rw [← (List.cons.inj he).1] at hstart
    exact absurd hstart (by decide)
  intro x y rest rest' h h' he
  cases x with
  | any =>
      cases y with
      | any => exact ⟨rfl, (List.cons.inj he).2⟩
      | name n => exact absurd he star
      | type n => exact absurd (he.trans (List.append_assoc _ _ _)) star
  | name n =>
      cases y with
      | any => exact absurd he.symm star
      | name m =>
          obtain ⟨rfl, hafter⟩ := unmixed_name _ _ _ _ (ends_name h) (ends_name h') he
          exact ⟨rfl, hafter⟩
      | type m =>
          simp only [Test.write, List.append_assoc, List.cons_append] at he
          obtain ⟨rfl, rfl⟩ := unmixed_name _ _ _ _ (ends_name h) parens he
          exact absurd h.of_cons (by decide)
  | type n =>
      cases y with
      | any => exact absurd (he.symm.trans (List.append_assoc _ _ _)) star
      | name m =>
          simp only [Test.write, List.append_assoc, List.cons_append] at he
          obtain ⟨rfl, rfl⟩ := unmixed_name _ _ _ _ parens (ends_name h') he
          exact absurd h'.of_cons (by decide)
      | type m =>
          simp only [Test.write, List.append_assoc, List.cons_append] at he
          obtain ⟨rfl, hafter⟩ := unmixed_name _ _ _ _ parens parens he
          exact ⟨rfl, (List.cons.inj (List.cons.inj hafter).2).2⟩

-- ============================================== steps and expressions

/-- A test starts with no slash and no white space. -/
theorem Test.exists_cons (test : Test) :
    ∃ c rest, test.write = c :: rest ∧ c ≠ '/' ∧ isWhitespace c = false := by
  have hname : ∀ name : Name, name.first ≠ '/' ∧ isWhitespace name.first = false := by
    intro name
    have hstart := name.isNameStart_first
    refine ⟨?_, isWhitespace_of_isNamePart (isNamePart_of_isNameStart hstart)⟩
    intro he
    rw [he] at hstart
    exact absurd hstart (by decide)
  cases test with
  | any => exact ⟨'*', [], rfl, by decide, by decide⟩
  | name n => exact ⟨_, _, rfl, hname n⟩
  | type n => exact ⟨_, _, rfl, hname n⟩

/-- The next step ahead, or the end. -/
def AtAxis (ahead : List Char) : Prop := Ends (· != '/') ahead

/-- After a step the text goes on with white space, another step or not at all. -/
theorem AtAxis.after (h : AtAxis ahead) (blank : Blank) {p : Char → Bool} (slash : p '/' = false)
    (apart : ∀ c, isWhitespace c = true → p c = false) : Ends p (blank.run ++ ahead) := by
  refine ends_blank (fun c hc => ?_) apart blank
  have hne := h c hc
  obtain rfl : c = '/' := by simpa using hne
  exact slash

theorem AtAxis.blank (h : AtAxis ahead) : Ends isWhitespace ahead :=
  h.mono fun c hc => by
    simp only [bne_iff_ne, ne_eq]
    rintro rfl
    exact absurd hc (by decide)

/-- What follows the predicates of a step cannot be taken for more of it. -/
theorem ends_after (h : AtAxis ahead) (blank : Blank) :
    Ends isTestPart (blank.run ++ ahead) ∧ Ends (· == '[') (blank.run ++ ahead) := by
  refine ⟨h.after blank (by decide) fun c hc => ?_, h.after blank (by decide) fun c hc => ?_⟩
  · simp only [isTestPart, isNamePart_of_isWhitespace hc, Bool.false_or, beq_eq_false_iff_ne]
    rintro rfl
    exact absurd hc (by decide)
  · simp only [beq_eq_false_iff_ne]
    rintro rfl
    exact absurd hc (by decide)

theorem ends_brackets (brackets : List Bracket) (h : Ends isTestPart ahead) :
    Ends isTestPart (brackets.flatMap Bracket.write ++ ahead) := by
  cases brackets with
  | nil => exact h
  | cons bracket more => exact ends_cons (by decide)

/-- An axis is one slash or two, for what comes next is no slash. -/
theorem unmixed_axis {axis axis' : Axis} {test test' : Test} {rest rest' : List Char}
    (he : axis.print ++ (test.write ++ rest) = axis'.print ++ (test'.write ++ rest')) :
    axis = axis' ∧ test.write ++ rest = test'.write ++ rest' := by
  obtain ⟨c, more, hwrite, hne, -⟩ := test.exists_cons
  obtain ⟨c', more', hwrite', hne', -⟩ := test'.exists_cons
  cases axis with
  | child =>
      cases axis' with
      | child => exact ⟨rfl, (List.cons.inj he).2⟩
      | descendant =>
          rw [hwrite] at he
          exact absurd (List.cons.inj (List.cons.inj he).2).1 hne
  | descendant =>
      cases axis' with
      | child =>
          rw [hwrite'] at he
          exact absurd (List.cons.inj (List.cons.inj he).2).1.symm hne'
      | descendant => exact ⟨rfl, (List.cons.inj (List.cons.inj he).2).2⟩

theorem unmixed_leg : Unmixed Leg.write AtAxis := by
  rintro ⟨axis, test, brackets, after⟩ ⟨axis', test', brackets', after'⟩ rest rest' h h' he
  simp only [Leg.write, List.append_assoc] at he
  obtain ⟨rfl, htest⟩ := unmixed_axis he
  obtain ⟨rfl, hbrackets⟩ := unmixed_test _ _ _ _ (ends_brackets _ (ends_after h after).1)
    (ends_brackets _ (ends_after h' after').1) htest
  obtain ⟨rfl, hblank⟩ := unmixed_brackets _ _ _ _ (ends_after h after).2
    (ends_after h' after').2 hbrackets
  obtain ⟨rfl, hafter⟩ := unmixed_blank _ _ _ _ h.blank h'.blank hblank
  exact ⟨rfl, hafter⟩

theorem Leg.exists_cons (leg : Leg) : ∃ rest, leg.write = '/' :: rest := by
  obtain ⟨axis, test, brackets, after⟩ := leg
  cases axis with
  | child => exact ⟨_, rfl⟩
  | descendant => exact ⟨_, rfl⟩

theorem atAxis_legs (legs : List Leg) : AtAxis (legs.flatMap Leg.write) := by
  cases legs with
  | nil => exact ends_nil
  | cons leg legs =>
      obtain ⟨rest, hwrite⟩ := leg.exists_cons
      rw [List.flatMap_cons, hwrite]
      exact ends_cons (by decide)

/-- Steps go on up to the end of the text. -/
theorem unmixed_legs : Unmixed (List.flatMap Leg.write) (· = []) := by
  refine unmixed_leg.flatMap (fun leg ahead h => ?_) fun legs ahead h => ?_
  · obtain ⟨rest, hwrite⟩ := leg.exists_cons
    rw [hwrite] at h
    cases h
  · rw [h, List.append_nil]
    exact atAxis_legs legs

/-- A derivation as white space and steps. -/
def Derivation.legs (derivation : Derivation) : List Leg := derivation.first :: derivation.rest

theorem Derivation.write_eq (derivation : Derivation) :
    derivation.write = derivation.before.run ++ derivation.legs.flatMap Leg.write :=
  List.append_assoc _ _ _

/-- A text has one derivation at most. -/
theorem Derivation.write_injective {d d' : Derivation} (he : d.write = d'.write) : d = d' := by
  rw [write_eq, write_eq] at he
  obtain ⟨hbefore, hlegs⟩ := unmixed_blank _ _ _ _ (atAxis_legs d.legs).blank
    (atAxis_legs d'.legs).blank he
  obtain ⟨hfirst, hrest⟩ := List.cons.inj (unmixed_legs.injective rfl hlegs)
  cases d
  cases d'
  simp_all

end Expression.Grammar

end TreeQuery
