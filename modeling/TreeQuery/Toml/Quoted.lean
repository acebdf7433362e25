/-
Strings of TOML documents. There are four ways to write one: between double quotes, where
a backslash starts an escape, or between single quotes, where every character stands for
itself; and each of these with the quotes three times, so that the text may go over lines.
-/
import TreeQuery.Toml.Scalar

namespace TreeQuery.Toml

/-- Whether a character may stand in a comment or in a string on one line. -/
def isTextCharacter (c : Char) : Bool := c == '\t' || (' ' ≤ c && c != '\x7f')

/-- What follows a line ending at the start of the text. -/
def afterNewline? : List Char → Option (List Char)
  | '\n' :: rest => some rest
  | '\r' :: '\n' :: rest => some rest
  | _ => none

/-- The text without a line ending at its start. -/
def dropNewline (text : List Char) : List Char := (afterNewline? text).getD text

/-- Whether a character is a space between tokens. -/
def isBlank (c : Char) : Bool := c == ' ' || c == '\t'

-- ============================================================= escapes

/-- The character with the code that hexadecimal digits write. -/
def ofHex? (digits : List Char) : Option Char :=
  if digits.all isHexDigit then
    let n := numeral 16 digits
    if n.isValidChar then some (Char.ofNat n) else none
  else none

/-- The character with a code of some digits, and what follows them. -/
def hexEscape? (count : Nat) (text : List Char) : Option (Char × List Char) :=
  if text.length < count then none
  else (ofHex? (text.take count)).map fun c => (c, text.drop count)

/-- The character that an escape stands for, after its backslash, and what follows. -/
def escape? : List Char → Option (Char × List Char)
  | 'b' :: rest => some ('\x08', rest)
  | 't' :: rest => some ('\t', rest)
  | 'n' :: rest => some ('\n', rest)
  | 'f' :: rest => some ('\x0c', rest)
  | 'r' :: rest => some ('\r', rest)
  | 'e' :: rest => some ('\x1b', rest)
  | '"' :: rest => some ('"', rest)
  | '\\' :: rest => some ('\\', rest)
  | 'x' :: rest => hexEscape? 2 rest
  | 'u' :: rest => hexEscape? 4 rest
  | 'U' :: rest => hexEscape? 8 rest
  | _ => none

theorem hexEscape?_length {count : Nat} {text rest : List Char} {c : Char}
    (h : hexEscape? count text = some (c, rest)) : rest.length ≤ text.length := by
  unfold hexEscape? at h
  split at h
  · simp at h
  · obtain ⟨_, _, h⟩ := Option.map_eq_some_iff.1 h
    obtain ⟨_, rfl⟩ := Prod.mk.inj h
    simp

/-- An escape takes at least one character. -/
theorem escape?_length {text rest : List Char} {c : Char} (h : escape? text = some (c, rest)) :
    rest.length < text.length := by
  unfold escape? at h
  split at h
  all_goals first
    | (obtain ⟨_, rfl⟩ := Prod.mk.inj (Option.some.inj h)
       simp)
    | exact Nat.lt_succ_of_le (hexEscape?_length h)
    | simp at h

-- ============================================= strings on a single line

/-- The text up to the next double quote, with escapes resolved, and what follows the quote. -/
def basicRest? (text : List Char) : Option (List Char × List Char) :=
  match text with
  | [] => none
  | '"' :: rest => some ([], rest)
  | '\\' :: rest =>
    match _h : escape? rest with
    | none => none
    | some (c, more) => (basicRest? more).map fun (read, left) => (c :: read, left)
  | c :: rest =>
    if isTextCharacter c then (basicRest? rest).map fun (read, left) => (c :: read, left)
    else none
termination_by text.length
decreasing_by
  · have := escape?_length _h
    simp only [List.length_cons]
    omega
  · simp

/-- The text up to the next single quote, and what follows it. -/
def literalRest? : List Char → Option (List Char × List Char)
  | [] => none
  | '\'' :: rest => some ([], rest)
  | c :: rest =>
    if isTextCharacter c then (literalRest? rest).map fun (read, left) => (c :: read, left)
    else none

-- ============================================== strings over many lines

/-- Three quotes or more at the start of the text end a string: the quotes beyond three, of which
there can be two, belong to it. The quotes that belong to it, and what follows. -/
def closing? (quote : Char) (text : List Char) : Option (List Char × List Char) :=
  let run := (text.takeWhile (· == quote)).take 5
  if run.length < 3 then none else some (run.drop 3, text.drop run.length)

/-- What follows a backslash at the end of a line: the next character that is no white space, on
whatever line. -/
def afterLineEscape? (text : List Char) : Option (List Char) :=
  (afterNewline? (text.dropWhile isBlank)).map fun rest =>
    rest.dropWhile fun c => isBlank c || c == '\n' || c == '\r'

theorem afterNewline?_length {text rest : List Char} (h : afterNewline? text = some rest) :
    rest.length < text.length := by
  unfold afterNewline? at h
  split at h
  all_goals first
    | (obtain rfl := Option.some.inj h
       simp +arith)
    | simp at h

theorem afterLineEscape?_length {text rest : List Char} (h : afterLineEscape? text = some rest) :
    rest.length < text.length := by
  obtain ⟨line, hl, rfl⟩ := Option.map_eq_some_iff.1 h
  have h₁ := afterNewline?_length hl
  have h₂ := (List.dropWhile_sublist (l := text) isBlank).length_le
  have h₃ := (List.dropWhile_sublist (l := line)
    fun c => isBlank c || c == '\n' || c == '\r').length_le
  omega

/-- The text up to three double quotes, with escapes resolved, and what follows them. -/
def basicLines? (text : List Char) : Option (List Char × List Char) :=
  match closing? '"' text with
  | some found => some found
  | none =>
    match text with
    | [] => none
    | '\\' :: rest =>
      match _h : afterLineEscape? rest with
      | some more => basicLines? more
      | none =>
        match _h : escape? rest with
        | none => none
        | some (c, more) => (basicLines? more).map fun (read, left) => (c :: read, left)
    | '\r' :: '\n' :: rest =>
      (basicLines? rest).map fun (read, left) => ('\r' :: '\n' :: read, left)
    | c :: rest =>
      if isTextCharacter c || c == '\n' then
        (basicLines? rest).map fun (read, left) => (c :: read, left)
      else none
termination_by text.length
decreasing_by
  · have := afterLineEscape?_length _h
    simp only [List.length_cons]
    omega
  · have := escape?_length _h
    simp only [List.length_cons]
    omega
  · simp only [List.length_cons]
    omega
  · simp

/-- The text up to three single quotes, and what follows them. -/
def literalLines? (text : List Char) : Option (List Char × List Char) :=
  match closing? '\'' text with
  | some found => some found
  | none =>
    match text with
    | [] => none
    | '\r' :: '\n' :: rest =>
      (literalLines? rest).map fun (read, left) => ('\r' :: '\n' :: read, left)
    | c :: rest =>
      if isTextCharacter c || c == '\n' then
        (literalLines? rest).map fun (read, left) => (c :: read, left)
      else none
termination_by text.length
decreasing_by
  · simp only [List.length_cons]
    omega
  · simp

-- ========================================================= any string

/-- The string at the start of the text, and what follows it. A line ending right after three
opening quotes does not belong to the string. -/
def string? : List Char → Option (List Char × List Char)
  | '"' :: '"' :: '"' :: rest => basicLines? (dropNewline rest)
  | '"' :: rest => basicRest? rest
  | '\'' :: '\'' :: '\'' :: rest => literalLines? (dropNewline rest)
  | '\'' :: rest => literalRest? rest
  | _ => none

/-- The string on one line at the start of the text, and what follows it. -/
def lineString? : List Char → Option (List Char × List Char)
  | '"' :: rest => basicRest? rest
  | '\'' :: rest => literalRest? rest
  | _ => none

end TreeQuery.Toml
