/-
Reading path expressions.

    expression := blank* (axis step blank* )+
    axis       := '/' | '//'
    step       := ('*' | name | name '()') predicate*
    predicate  := '[' blank* ('@' name blank* '=' blank* literal | name | digits) blank* ']'

Each reader takes the characters ahead and returns what it read with the characters that
are left. A reader that cannot go on says how many characters were left and why; counted
from the end of the whole text that is the position of the fault.
-/
import TreeQuery.Cache
import TreeQuery.Expression.Printer
import TreeQuery.Unicode.Classes

namespace TreeQuery.Expression

-- ============================================================ faults

/-- What is wrong with a text that is no path expression. -/
inductive Fault where
  | emptyExpression
  | emptyStep
  | predicateWithoutTest
  | missingSlash (found : Char)
  | unexpectedCharacter (found : Char)
  | unexpectedBracket
  | unexpectedParenthesis
  | unclosedParenthesis
  | unclosedBracket
  | expectedTest (found : Char)
  | expectedAttributeName
  | expectedEquals
  | expectedLiteral
  | unterminatedLiteral
  | expectedPredicate
  | positionZero
  | positionTooLarge
deriving DecidableEq, Repr

def Fault.message : Fault → String
  | .emptyExpression => "empty expression"
  | .emptyStep => "empty step"
  | .predicateWithoutTest => "empty step: predicate without a node test"
  | .missingSlash found => "expression must start with '/', found '" ++ found.toString ++ "'"
  | .unexpectedCharacter found => "unexpected character '" ++ found.toString ++ "'"
  | .unexpectedBracket => "unbalanced brackets: unexpected ']'"
  | .unexpectedParenthesis => "unbalanced parentheses: unexpected ')'"
  | .unclosedParenthesis => "unbalanced parentheses: expected ')'"
  | .unclosedBracket => "unbalanced brackets: expected ']'"
  | .expectedTest found => "expected a type, name or '*', found '" ++ found.toString ++ "'"
  | .expectedAttributeName => "expected attribute name after '@'"
  | .expectedEquals => "expected '=' in attribute test"
  | .expectedLiteral => "expected quoted string literal"
  | .unterminatedLiteral => "unterminated string literal"
  | .expectedPredicate => "expected '@', a name or a position in predicate"
  | .positionZero => "positions are 1-based"
  | .positionTooLarge => "position out of range"

/-- A refusal: how many characters were left, and what was wrong there. -/
structure Refusal where
  left : Nat
  fault : Fault
deriving DecidableEq, Repr

/-- Why a text is no path expression. -/
structure SyntaxError where
  expression : String
  /-- How many characters come before the fault. -/
  position : Nat
  fault : Fault
deriving DecidableEq, Repr

def SyntaxError.text (e : SyntaxError) : String :=
  "invalid path expression '" ++ e.expression ++ "' at position " ++ toString e.position ++
    ": " ++ e.fault.message

/-- What a reader returns: a value and the characters left, or a refusal. -/
abbrev Reading (α : Type) := Except Refusal (α × List Char)

/-- Refuses at the characters ahead. -/
def refuse {α : Type} (ahead : List Char) (fault : Fault) : Except Refusal α :=
  .error ⟨ahead.length, fault⟩

-- ======================================================== characters

/-- Whether a name may start with the character. -/
def isNameStart (c : Char) : Bool := Unicode.isAlphabetic c || c == '_'

/-- Whether a name may go on with the character. -/
def isNamePart (c : Char) : Bool :=
  Unicode.isAlphanumeric c || c == '_' || c == '.' || c == '-'

/-- Whether the character is one of the ten digits. -/
def isDigit (c : Char) : Bool := '0' ≤ c && c ≤ '9'

def skipBlank (ahead : List Char) : List Char := ahead.dropWhile Unicode.isWhitespace

theorem skipBlank_length_le (ahead : List Char) : (skipBlank ahead).length ≤ ahead.length :=
  (List.dropWhile_sublist _).length_le

-- ============================================================ tokens

/-- The longest name ahead. -/
def readName? : List Char → Option (String × List Char)
  | [] => none
  | c :: rest =>
    if isNameStart c then
      some (String.ofList (c :: rest.takeWhile isNamePart), rest.dropWhile isNamePart)
    else none

theorem readName?_length {ahead rest : List Char} {name : String}
    (h : readName? ahead = some (name, rest)) : rest.length < ahead.length := by
  cases ahead with
  | nil => simp [readName?] at h
  | cons c cs =>
    simp only [readName?] at h
    split at h
    · cases h
      have := (List.dropWhile_sublist (p := isNamePart) (l := cs)).length_le
      simp
      omega
    · simp at h

/-- The rest of a literal after its opening quote: characters up to the same quote, where a
backslash takes the next character as it is. -/
def readLiteralBody? (quote : Char) : List Char → Option (List Char × List Char)
  | [] => none
  | '\\' :: [] => none
  | '\\' :: c :: rest => (readLiteralBody? quote rest).map fun (cs, left) => (c :: cs, left)
  | c :: rest =>
    if c = quote then some ([], rest)
    else (readLiteralBody? quote rest).map fun (cs, left) => (c :: cs, left)

theorem readLiteralBody?_length {quote : Char} {ahead value rest : List Char}
    (h : readLiteralBody? quote ahead = some (value, rest)) : rest.length < ahead.length := by
  fun_induction readLiteralBody? quote ahead generalizing value rest with
  | case1 => simp at h
  | case2 => simp at h
  | case3 c more ih =>
    obtain ⟨⟨cs, left⟩, hl, h⟩ := Option.map_eq_some_iff.1 h
    cases h
    have := ih hl
    simp
    omega
  | case4 c more => simp_all
  | case5 c more _ _ _ ih =>
    obtain ⟨⟨cs, left⟩, hl, h⟩ := Option.map_eq_some_iff.1 h
    cases h
    have := ih hl
    simp
    omega

/-- A quoted literal. -/
def readLiteral (ahead : List Char) : Reading String :=
  match ahead with
  | '\'' :: rest => close '\'' rest
  | '"' :: rest => close '"' rest
  | _ => refuse ahead .expectedLiteral
where
  /-- Reads up to the closing quote; if there is none, the opening one is at fault. -/
  close (quote : Char) (rest : List Char) : Reading String :=
    match readLiteralBody? quote rest with
    | some (value, left) => .ok (String.ofList value, left)
    | none => refuse ahead .unterminatedLiteral

theorem readLiteral_length {ahead rest : List Char} {value : String}
    (h : readLiteral ahead = .ok (value, rest)) : rest.length < ahead.length := by
  unfold readLiteral readLiteral.close refuse at h
  split at h
  all_goals first
    | (split at h
       · rename_i hb
         cases h
         have := readLiteralBody?_length hb
         simp
         omega
       · cases h)
    | cases h

/-- The number a run of digits writes. -/
def digitsValue (digits : List Char) : Nat :=
  digits.foldl (fun n c => 10 * n + (c.toNat - '0'.toNat)) 0

/-- Positions are below this. -/
def positionBound : Nat := UInt64.size

-- ======================================================== predicates

/-- What stands after `[@` and the blanks before it. -/
def readAttribute (ahead : List Char) : Reading Predicate :=
  match readName? ahead with
  | none => refuse ahead .expectedAttributeName
  | some (name, rest) =>
    match skipBlank rest with
    | '=' :: rest' =>
      match readLiteral (skipBlank rest') with
      | .ok (value, left) => .ok (.attribute name value, left)
      | .error e => .error e
    | rest' => refuse rest' .expectedEquals

/-- A position, given that a digit is ahead. -/
def readPosition (ahead : List Char) : Reading Predicate :=
  let place := digitsValue (ahead.takeWhile isDigit)
  let rest := ahead.dropWhile isDigit
  if place = 0 then refuse ahead .positionZero
  else if place < positionBound then .ok (.position place, rest)
  else refuse rest .positionTooLarge

/-- What stands between the brackets, without the blanks around it. -/
def readPredicateBody (ahead : List Char) : Reading Predicate :=
  match ahead with
  | [] => refuse ahead .unclosedBracket
  | '@' :: rest => readAttribute rest
  | c :: _ =>
    if isDigit c then readPosition ahead
    else match readName? ahead with
      | some (name, rest) => .ok (.hasChild name, rest)
      | none => refuse ahead .expectedPredicate

/-- What stands after an opening bracket, up to the closing one. -/
def readPredicate (ahead : List Char) : Reading Predicate :=
  match readPredicateBody (skipBlank ahead) with
  | .error e => .error e
  | .ok (predicate, rest) =>
    match skipBlank rest with
    | ']' :: left => .ok (predicate, left)
    | rest' => refuse rest' .unclosedBracket

theorem readAttribute_length {ahead rest : List Char} {p : Predicate}
    (h : readAttribute ahead = .ok (p, rest)) : rest.length < ahead.length := by
  unfold readAttribute refuse at h
  split at h
  · cases h
  · rename_i name left hn
    split at h
    · rename_i more hs
      split at h
      · rename_i value out hl
        cases h
        have h1 := readName?_length hn
        have h2 := skipBlank_length_le left
        have h3 := skipBlank_length_le more
        have h4 := readLiteral_length hl
        rw [hs] at h2
        simp at h2
        omega
      · cases h
    · cases h

theorem readPredicateBody_length {ahead rest : List Char} {p : Predicate}
    (h : readPredicateBody ahead = .ok (p, rest)) : rest.length ≤ ahead.length := by
  unfold readPredicateBody refuse at h
  split at h
  · cases h
  · have := readAttribute_length h
    simp
    omega
  · split at h
    · simp only [readPosition, refuse] at h
      split at h
      · cases h
      · split at h
        · cases h
          exact (List.dropWhile_sublist _).length_le
        · cases h
    · split at h
      · rename_i hn
        cases h
        exact Nat.le_of_lt (readName?_length hn)
      · cases h

theorem readPredicate_length {ahead rest : List Char} {p : Predicate}
    (h : readPredicate ahead = .ok (p, rest)) : rest.length ≤ ahead.length := by
  unfold readPredicate refuse at h
  split at h
  · cases h
  · rename_i q left hb
    split at h
    · rename_i out hs
      cases h
      have h1 := skipBlank_length_le ahead
      have h2 := readPredicateBody_length hb
      have h3 := skipBlank_length_le left
      rw [hs] at h3
      simp at h3
      omega
    · cases h

/-- The predicates ahead, as many as there are. -/
def readPredicates (ahead : List Char) : Reading (List Predicate) :=
  match ahead with
  | '[' :: rest =>
    match _h : readPredicate rest with
    | .error e => .error e
    | .ok (predicate, left) =>
      match readPredicates left with
      | .error e => .error e
      | .ok (predicates, left') => .ok (predicate :: predicates, left')
  | _ => .ok ([], ahead)
termination_by ahead.length
decreasing_by
  have := readPredicate_length _h
  simp
  omega

theorem readPredicates_length {ahead rest : List Char} {ps : List Predicate}
    (h : readPredicates ahead = .ok (ps, rest)) : rest.length ≤ ahead.length := by
  fun_induction readPredicates ahead generalizing ps rest with
  | case1 => cases h
  | case2 => cases h
  | case3 more p left hp ps' left' hps ih =>
    cases h
    have h1 := readPredicate_length hp
    have h2 := ih hps
    simp
    omega
  | case4 => cases h; exact Nat.le_refl _

-- ============================================================= steps

/-- The node test ahead. -/
def readTest (ahead : List Char) : Reading NodeTest :=
  match ahead with
  | '*' :: rest => .ok (.any, rest)
  | _ =>
    match readName? ahead with
    | some (name, '(' :: ')' :: rest) => .ok (.type name, rest)
    | some (_, '(' :: rest) => refuse rest .unclosedParenthesis
    | some (name, rest) => .ok (.name name, rest)
    | none =>
      match ahead with
      | '[' :: _ => refuse ahead .predicateWithoutTest
      | c :: _ => refuse ahead (.expectedTest c)
      | [] => refuse ahead .emptyStep

/-- What stands after an axis. -/
def readStepBody (axis : Axis) (ahead : List Char) : Reading Step :=
  if ahead.head?.all fun c => c == '/' || Unicode.isWhitespace c then refuse ahead .emptyStep
  else match readTest ahead with
    | .error e => .error e
    | .ok (test, rest) =>
      match readPredicates rest with
      | .error e => .error e
      | .ok (predicates, left) => .ok (⟨axis, test, predicates⟩, left)

/-- The step ahead; `first` says whether it is the first of its expression. -/
def readStep (first : Bool) (ahead : List Char) : Reading Step :=
  match ahead with
  | '/' :: '/' :: rest => readStepBody .descendant rest
  | '/' :: rest => readStepBody .child rest
  | ']' :: _ => refuse ahead .unexpectedBracket
  | ')' :: _ => refuse ahead .unexpectedParenthesis
  | c :: _ => refuse ahead (if first then .missingSlash c else .unexpectedCharacter c)
  | [] => refuse ahead .emptyExpression

theorem readTest_length {ahead rest : List Char} {t : NodeTest}
    (h : readTest ahead = .ok (t, rest)) : rest.length ≤ ahead.length := by
  unfold readTest refuse at h
  split at h
  · cases h
    simp
  · split at h
    · rename_i hn
      cases h
      have := readName?_length hn
      simp at this
      omega
    · cases h
    · rename_i hn
      cases h
      exact Nat.le_of_lt (readName?_length hn)
    · split at h <;> cases h

theorem readStepBody_length {axis : Axis} {ahead rest : List Char} {s : Step}
    (h : readStepBody axis ahead = .ok (s, rest)) : rest.length ≤ ahead.length := by
  unfold readStepBody refuse at h
  split at h
  · cases h
  · split at h
    · cases h
    · rename_i ht
      split at h
      · cases h
      · rename_i hp
        cases h
        have h1 := readTest_length ht
        have h2 := readPredicates_length hp
        omega

theorem readStep_length {first : Bool} {ahead rest : List Char} {s : Step}
    (h : readStep first ahead = .ok (s, rest)) : rest.length < ahead.length := by
  unfold readStep refuse at h
  split at h
  · have := readStepBody_length h
    simp
    omega
  · have := readStepBody_length h
    simp
    omega
  all_goals cases h

/-- The steps ahead, up to the end of the text. -/
def readSteps (first : Bool) (ahead : List Char) : Except Refusal (List Step) :=
  match _ha : skipBlank ahead with
  | [] => .ok []
  | c :: rest =>
    match _hs : readStep first (c :: rest) with
    | .error e => .error e
    | .ok (step, left) =>
      match readSteps false left with
      | .error e => .error e
      | .ok steps => .ok (step :: steps)
termination_by ahead.length
decreasing_by
  have h1 := skipBlank_length_le ahead
  have h2 := readStep_length _hs
  rw [_ha] at h1
  omega

/-- Reads the characters of a path expression. -/
def read (ahead : List Char) : Except Refusal (List Step) :=
  match skipBlank ahead with
  | [] => refuse [] .emptyExpression
  | rest => readSteps true rest

/-- Compiles a path expression. -/
def compile (expression : String) : Except SyntaxError Program :=
  match read expression.toList with
  | .ok steps => .ok ⟨expression, steps⟩
  | .error refusal =>
    .error ⟨expression, expression.length - refusal.left, refusal.fault⟩

/-- The programs compiled so far, by their expressions. -/
abbrev ProgramCache := Cache (id : String → String) compile

end TreeQuery.Expression
