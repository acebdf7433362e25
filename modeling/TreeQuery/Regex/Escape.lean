/-
What a backslash introduces in a pattern, and the flags that decide how a pattern is read.
Readers take the characters ahead and return what they read with the characters left.
-/
import TreeQuery.Regex.Property
import TreeQuery.Regex.Syntax

namespace TreeQuery.Regex

-- ============================================================= flags

/-- How the rest of a group is to be read. -/
structure Flags where
  ignoreCase : Bool := false
  /-- Line ends count for `^` and `$`. -/
  multiLine : Bool := false
  /-- The dot matches newlines too. -/
  dotAll : Bool := false
  /-- Repetitions are lazy unless marked. -/
  swapGreed : Bool := false
  /-- Classes hold characters of all of Unicode, else of ASCII. -/
  unicode : Bool := true
  /-- A carriage return takes part in line ends. -/
  crlf : Bool := false
  /-- White space and comments in the pattern do not count. -/
  extended : Bool := false
deriving DecidableEq, Repr

/-- The flags with one of them set, if the letter names one. -/
def Flags.set? (flags : Flags) (letter : Char) (value : Bool) : Option Flags :=
  match letter with
  | 'i' => some { flags with ignoreCase := value }
  | 'm' => some { flags with multiLine := value }
  | 's' => some { flags with dotAll := value }
  | 'U' => some { flags with swapGreed := value }
  | 'u' => some { flags with unicode := value }
  | 'R' => some { flags with crlf := value }
  | 'x' => some { flags with extended := value }
  | _ => none

/-- The pattern after the white space and comments ahead, where those do not count. -/
def skipSpace (flags : Flags) (ahead : List Char) : List Char :=
  if flags.extended then go false ahead else ahead
where
  /-- Skips space, or the rest of a comment. -/
  go (comment : Bool) : List Char → List Char
    | [] => []
    | c :: rest =>
      if comment then go (c != '\n') rest
      else if Unicode.isWhitespace c then go false rest
      else if c = '#' then go true rest
      else c :: rest

/-- The word characters under the flags. -/
def wordSet (flags : Flags) : CharSet := if flags.unicode then Unicode.word else asciiWord

/-- The characters not in a set. Without Unicode a set speaks of bytes. -/
def negate (flags : Flags) (set : CharSet) : CharSet :=
  if flags.unicode then set.complement else CharSet.inter set.complement [(0, 0xFF)]

/-- The set closed under case, if case is to be ignored, and then negated on demand. -/
def foldAndNegate (flags : Flags) (negated : Bool) (set : CharSet) : CharSet :=
  let folded :=
    if flags.ignoreCase then (if flags.unicode then set.foldCase else set.foldCaseAscii) else set
  if negated then negate flags folded else folded

-- =========================================================== escapes

/-- What an escape stands for. -/
inductive Escape where
  | literal (c : Char)
  /-- A byte that is no ASCII character, in a pattern without Unicode. -/
  | byte
  | set (members : CharSet)
  | place (kind : Assertion)
deriving DecidableEq, Repr

/-- The value of a hexadecimal digit. -/
def hexValue? (c : Char) : Option Nat :=
  if '0' ≤ c ∧ c ≤ '9' then some (c.toNat - 0x30)
  else if 'a' ≤ c ∧ c ≤ 'f' then some (c.toNat - 0x61 + 10)
  else if 'A' ≤ c ∧ c ≤ 'F' then some (c.toNat - 0x41 + 10)
  else none

/-- The character with a code point, if there is one. -/
def charOf? (code : Nat) : Option Char :=
  if code.isValidChar then some (Char.ofNat code) else none

/-- Exactly `n` hexadecimal digits, continuing the number `value`. -/
def readHexDigits (flags : Flags) : Nat → Nat → List Char → Option (Nat × List Char)
  | 0, value, ahead => some (value, ahead)
  | n + 1, value, ahead =>
    match ahead with
    | [] => none
    | c :: rest => do
      let digit ← hexValue? c
      readHexDigits flags n (16 * value + digit) (skipSpace flags rest)

/-- Hexadecimal digits up to a closing brace, continuing the number `value`. -/
def readHexBraced (flags : Flags) : Nat → Bool → Nat → List Char → Option (Nat × List Char)
  | 0, _, _, _ => none
  | fuel + 1, some?, value, ahead =>
    match skipSpace flags ahead with
    | [] => none
    | '\x7d' :: rest => if some? then some (value, rest) else none
    | c :: rest => do
      let digit ← hexValue? c
      readHexBraced flags fuel true (16 * value + digit) rest

/-- The character written in hexadecimal after `\x`, `\u` or `\U`. -/
def readHex (flags : Flags) (kind : Char) (ahead : List Char) : Option (Escape × List Char) := do
  match skipSpace flags ahead with
  | '\x7b' :: rest =>
    let (code, left) ← readHexBraced flags (rest.length + 1) false 0 rest
    return (.literal (← charOf? code), left)
  | rest =>
    let digits := if kind = 'x' then 2 else if kind = 'u' then 4 else 8
    let (code, left) ← readHexDigits flags digits 0 rest
    if kind = 'x' ∧ flags.unicode = false ∧ 0x80 ≤ code then return (.byte, left)
    return (.literal (← charOf? code), left)

/-- The text before and after the first occurrence of a separator. -/
def splitAtFirst? (separator : List Char) : List Char → Option (List Char × List Char)
  | [] => none
  | c :: rest =>
    if (c :: rest).take separator.length = separator then
      some ([], (c :: rest).drop separator.length)
    else (splitAtFirst? separator rest).map fun (before, after) => (c :: before, after)

/-- The set a property name in braces stands for, and whether it is negated there. -/
def bracedProperty? (name : List Char) : Option (CharSet × Bool) :=
  match splitAtFirst? ['!', '='] name with
  | some (key, value) => (propertyValue? key value).map (·, true)
  | none =>
    match (splitAtFirst? [':'] name).or (splitAtFirst? ['='] name) with
    | some (key, value) => (propertyValue? key value).map (·, false)
    | none => (property? name).map (·, false)

/-- A property name up to the closing brace. -/
def readPropertyName (flags : Flags) : Nat → List Char → Option (List Char × List Char)
  | 0, _ => none
  | fuel + 1, ahead =>
    match skipSpace flags ahead with
    | [] => none
    | '\x7d' :: rest => some ([], rest)
    | c :: rest => (readPropertyName flags fuel rest).map fun (cs, left) => (c :: cs, left)

/-- The property class after `\p` or `\P`. -/
def readProperty (flags : Flags) (negated : Bool) (ahead : List Char) :
    Option (Escape × List Char) := do
  if flags.unicode = false then none else
  match skipSpace flags ahead with
  | [] => none
  | '\x7b' :: rest =>
    let (name, left) ← readPropertyName flags (rest.length + 1) rest
    let (set, inverse) ← bracedProperty? name
    return (.set (foldAndNegate flags (negated != inverse) set), left)
  | c :: rest =>
    if c = '\\' then none else
    let set ← property? [c]
    return (.set (foldAndNegate flags negated set), skipSpace flags rest)

/-- Letters and hyphens up to the first other character. -/
def readWords (flags : Flags) : Nat → List Char → List Char × List Char
  | 0, ahead => ([], ahead)
  | fuel + 1, ahead =>
    match ahead with
    | c :: rest =>
      if c.isAlpha || c == '-' then
        let (cs, left) := readWords flags fuel (skipSpace flags rest)
        (c :: cs, left)
      else ([], ahead)
    | [] => ([], [])

/-- The word boundary after `\b`: the plain one, or the one named in braces. Braces that do not
start with a letter or hyphen are left alone, to be read as a repetition. -/
def readBoundary (flags : Flags) (ahead : List Char) : Option (Escape × List Char) :=
  let words := wordSet flags
  match ahead with
  | '\x7b' :: rest =>
    match skipSpace flags rest with
    | [] => none
    | c :: more =>
      if c.isAlpha || c == '-' then
        match readWords flags (more.length + 2) (c :: more) with
        | (name, '\x7d' :: left) =>
          match String.ofList name with
          | "start" => some (.place (.wordStart words), left)
          | "end" => some (.place (.wordEnd words), left)
          | "start-half" => some (.place (.wordStartHalf words), left)
          | "end-half" => some (.place (.wordEndHalf words), left)
          | _ => none
        | _ => none
      else some (.place (.boundary words), ahead)
  | _ => some (.place (.boundary words), ahead)

/-- The escape after a backslash. -/
def readEscape (flags : Flags) (ahead : List Char) : Option (Escape × List Char) :=
  let words := wordSet flags
  let digits := if flags.unicode then Unicode.categoryNd else asciiDigit
  let spaces := if flags.unicode then Unicode.whitespace else asciiSpace
  match ahead with
  | [] => none
  | c :: rest =>
    match c with
    | 'x' | 'u' | 'U' => readHex flags c rest
    | 'p' => readProperty flags false rest
    | 'P' => readProperty flags true rest
    | 'd' => some (.set digits, rest)
    | 'D' => some (.set (negate flags digits), rest)
    | 's' => some (.set spaces, rest)
    | 'S' => some (.set (negate flags spaces), rest)
    | 'w' => some (.set words, rest)
    | 'W' => some (.set (negate flags words), rest)
    | 'a' => some (.literal '\x07', rest)
    | 'f' => some (.literal '\x0c', rest)
    | 't' => some (.literal '\t', rest)
    | 'n' => some (.literal '\n', rest)
    | 'r' => some (.literal '\r', rest)
    | 'v' => some (.literal '\x0b', rest)
    | 'A' => some (.place .textStart, rest)
    | 'z' => some (.place .textEnd, rest)
    | 'b' => readBoundary flags rest
    | 'B' => some (.place (.notBoundary words), rest)
    | '<' => some (.place (.wordStart words), rest)
    | '>' => some (.place (.wordEnd words), rest)
    | _ => if c.toNat < 0x80 ∧ c.isAlphanum = false then some (.literal c, rest) else none

end TreeQuery.Regex
