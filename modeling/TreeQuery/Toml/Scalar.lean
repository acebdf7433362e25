/-
Scalars written without quotes: booleans, integers, floats, dates and times. Each reader
takes a whole word and says what it stands for, if anything.
-/
import TreeQuery.Toml.Value

namespace TreeQuery.Toml

-- ============================================================== digits

/-- The digits of a group in which single underscores may stand between digits. -/
def groupedDigits? (isDigit : Char → Bool) (text : List Char) : Option (List Char) :=
  let groups := text.splitOn '_'
  if groups.all fun group => !group.isEmpty && group.all isDigit then some groups.flatten
  else none

/-- What a digit counts, in any base up to sixteen. -/
def digitValue (c : Char) : Nat :=
  if c.isDigit then c.toNat - '0'.toNat
  else if 'a' ≤ c && c ≤ 'f' then c.toNat - 'a'.toNat + 10
  else c.toNat - 'A'.toNat + 10

/-- Whether the character is a hexadecimal digit. -/
def isHexDigit (c : Char) : Bool := c.isDigit || ('a' ≤ c && c ≤ 'f') || ('A' ≤ c && c ≤ 'F')

/-- The number that digits write in a base. -/
def numeral (base : Nat) (digits : List Char) : Nat :=
  digits.foldl (fun n c => n * base + digitValue c) 0

/-- The number of decimal digits; the first must not be a needless zero. -/
def decimal? (text : List Char) : Option Nat := do
  let digits ← groupedDigits? Char.isDigit text
  if digits.head? == some '0' && digits.length > 1 then none
  else some (numeral 10 digits)

/-- A sign, if there is one, and the rest. -/
def splitSign : List Char → Bool × List Char
  | '-' :: rest => (true, rest)
  | '+' :: rest => (false, rest)
  | text => (false, text)

-- ============================================================ integers

/-- The integers a document can hold. -/
def inRange (n : Int) : Bool := -0x8000000000000000 ≤ n && n < 0x8000000000000000

/-- The integer that a word writes. Only decimal integers have signs. -/
def integer? (word : List Char) : Option Int := do
  let n ← match word with
    | '0' :: 'x' :: digits => (groupedDigits? isHexDigit digits).map fun d => (numeral 16 d : Int)
    | '0' :: 'o' :: digits =>
      (groupedDigits? (fun c => '0' ≤ c && c ≤ '7') digits).map fun d => (numeral 8 d : Int)
    | '0' :: 'b' :: digits =>
      (groupedDigits? (fun c => c == '0' || c == '1') digits).map fun d => (numeral 2 d : Int)
    | _ =>
      let (negative, digits) := splitSign word
      (decimal? digits).map fun n => if negative then -(n : Int) else n
  if inRange n then some n else none

-- ============================================================== floats

/-- Whether a word writes a float: a whole part with a fraction, an exponent or both, infinity,
or no number. -/
def isFloat (word : List Char) : Bool :=
  let (_, unsigned) := splitSign word
  if unsigned == "inf".toList || unsigned == "nan".toList then true else
  let mantissa := unsigned.takeWhile fun c => c != 'e' && c != 'E'
  let exponent := (unsigned.dropWhile fun c => c != 'e' && c != 'E').drop 1
  let hasExponent := mantissa.length < unsigned.length
  let whole := mantissa.takeWhile (· != '.')
  let fraction := (mantissa.dropWhile (· != '.')).drop 1
  let hasFraction := whole.length < mantissa.length
  (hasExponent || hasFraction) && (decimal? whole).isSome &&
    (!hasFraction || (groupedDigits? Char.isDigit fraction).isSome) &&
    (!hasExponent || (groupedDigits? Char.isDigit (splitSign exponent).2).isSome)

-- ===================================================== dates and times

/-- Whether two digits write a number in a range. -/
def pairWithin (a b : Char) (low high : Nat) : Bool :=
  a.isDigit && b.isDigit && low ≤ numeral 10 [a, b] && numeral 10 [a, b] ≤ high

/-- How many days a month has. -/
def daysIn (year month : Nat) : Nat :=
  if month = 2 then
    if year % 4 = 0 && (year % 100 != 0 || year % 400 = 0) then 29 else 28
  else if month = 4 || month = 6 || month = 9 || month = 11 then 30
  else 31

/-- What follows a date at the start of the text. -/
def afterDate? : List Char → Option (List Char)
  | y₁ :: y₂ :: y₃ :: y₄ :: '-' :: m₁ :: m₂ :: '-' :: d₁ :: d₂ :: rest =>
    let year := [y₁, y₂, y₃, y₄]
    if year.all Char.isDigit && pairWithin m₁ m₂ 1 12 &&
        pairWithin d₁ d₂ 1 (daysIn (numeral 10 year) (numeral 10 [m₁, m₂])) then some rest
    else none
  | _ => none

/-- What follows a fraction of a second, if there is one. -/
def afterFraction? : List Char → Option (List Char)
  | '.' :: rest =>
    if (rest.head?.map Char.isDigit).getD false then some (rest.dropWhile Char.isDigit) else none
  | text => some text

/-- What follows a time of the day at the start of the text. Seconds can be left out. -/
def afterTime? : List Char → Option (List Char)
  | h₁ :: h₂ :: ':' :: m₁ :: m₂ :: rest =>
    if pairWithin h₁ h₂ 0 23 && pairWithin m₁ m₂ 0 59 then
      match rest with
      | ':' :: s₁ :: s₂ :: more => if pairWithin s₁ s₂ 0 60 then afterFraction? more else none
      | ':' :: _ => none
      | _ => some rest
    else none
  | _ => none

/-- Whether the text is an offset from universal time, or nothing. -/
def isOffset : List Char → Bool
  | [] => true
  | ['Z'] => true
  | ['z'] => true
  | [sign, h₁, h₂, ':', m₁, m₂] =>
    (sign == '+' || sign == '-') && pairWithin h₁ h₂ 0 23 && pairWithin m₁ m₂ 0 59
  | _ => false

/-- Whether a word writes a date, a time of the day, or a date with a time. -/
def isTime (word : List Char) : Bool :=
  match afterDate? word with
  | some [] => true
  | some (c :: rest) =>
    (c == 'T' || c == 't' || c == ' ') && (afterTime? rest).any isOffset
  | none => afterTime? word == some []

-- ============================================================ any word

/-- What a word without quotes stands for. -/
def scalar? (word : List Char) : Option Value :=
  if word == "true".toList then some (.boolean true)
  else if word == "false".toList then some (.boolean false)
  else match integer? word with
    | some n => some (.integer n)
    | none =>
      if isFloat word then some (.float (String.ofList word))
      else if isTime word then some (.time (String.ofList word))
      else none

/-- Whether a character can stand in a word without quotes. -/
def isWordCharacter (c : Char) : Bool :=
  c.isAlphanum || c == '_' || c == '-' || c == '+' || c == '.' || c == ':'

/-- The word at the start of the text, and what follows it. A date and a time may have one space
between them. -/
def splitWord (text : List Char) : List Char × List Char :=
  let word := text.takeWhile isWordCharacter
  let rest := text.dropWhile isWordCharacter
  match rest with
  | ' ' :: c :: more =>
    if afterDate? word == some [] && c.isDigit then
      (word ++ ' ' :: (c :: more).takeWhile isWordCharacter,
        (c :: more).dropWhile isWordCharacter)
    else (word, rest)
  | _ => (word, rest)

end TreeQuery.Toml
