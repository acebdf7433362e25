/-
Reading TOML documents, of version 1.1.

    document := (blank* (header | array header | key '=' value)? blank* comment? newline)*
    key      := part (blank* '.' blank* part)*
    value    := string | '[' values ']' | '{' pairs '}' | word

Readers take the text ahead and answer what they read and what follows, or nothing if the
text is not well formed. Values can hold values, so their reader counts down from the length
of the document, which no nesting exceeds.
-/
import TreeQuery.Toml.Quoted
import TreeQuery.Toml.Table

namespace TreeQuery.Toml

-- ============================================================== blanks

/-- The text without blanks at its start. -/
def skipBlanks (text : List Char) : List Char := text.dropWhile isBlank

/-- The text without a comment at its start. -/
def skipComment? : List Char → Option (List Char)
  | '#' :: rest =>
    let after := rest.dropWhile isTextCharacter
    if after.isEmpty || (afterNewline? after).isSome then some after else none
  | text => some text

/-- The text without blanks, comments and line endings at its start, of which there are fewer than
`fuel`. -/
def skipLines? : Nat → List Char → Option (List Char)
  | 0, _ => none
  | fuel + 1, text => do
    let rest ← skipComment? (skipBlanks text)
    match afterNewline? rest with
    | some more => skipLines? fuel more
    | none => some rest

/-- What follows the end of a line: blanks, a comment, and a line ending or the end of the text. -/
def endLine? (text : List Char) : Option (List Char) := do
  let rest ← skipComment? (skipBlanks text)
  if rest.isEmpty then some [] else afterNewline? rest

-- ================================================================ keys

/-- Whether a character may stand in a key without quotes. -/
def isKeyCharacter (c : Char) : Bool := c.isAlphanum || c == '_' || c == '-'

/-- One part of a key. -/
def keyPart? (text : List Char) : Option (String × List Char) :=
  match lineString? text with
  | some (part, rest) => some (String.ofList part, rest)
  | none =>
    let part := text.takeWhile isKeyCharacter
    if part.isEmpty then none else some (String.ofList part, text.dropWhile isKeyCharacter)

/-- The parts of a key after which no more than `fuel` follow. -/
def keyParts? : Nat → List Char → Option (List String × List Char)
  | 0, _ => none
  | fuel + 1, text => do
    let (part, rest) ← keyPart? (skipBlanks text)
    match skipBlanks rest with
    | '.' :: more =>
      let (parts, left) ← keyParts? fuel more
      some (part :: parts, left)
    | left => some ([part], left)

/-- A key: the parts before the last, the last one, and what follows. -/
def key? (text : List Char) : Option (List String × String × List Char) := do
  let (parts, rest) ← keyParts? text.length text
  let last ← parts.getLast?
  some (parts.dropLast, last, rest)

-- ============================================================== values

mutual

/-- The value at the start of the text. -/
def value? : Nat → List Char → Option (Value × List Char)
  | 0, _ => none
  | fuel + 1, text =>
    match text with
    | '[' :: rest => do
      let (values, left) ← elements? fuel rest
      some (.array values, left)
    | '{' :: rest => do
      let (entries, left) ← pairs? fuel [] rest
      some (.table (Entries.toValues entries), left)
    | _ =>
      match string? text with
      | some (read, left) => some (.string (String.ofList read), left)
      | none =>
        let (word, left) := splitWord text
        (scalar? word).map fun v => (v, left)

/-- The elements of an array up to its end. -/
def elements? : Nat → List Char → Option (List Value × List Char)
  | 0, _ => none
  | fuel + 1, text => do
    match ← skipLines? text.length.succ text with
    | ']' :: rest => some ([], rest)
    | start =>
      let (v, rest) ← value? fuel start
      match ← skipLines? rest.length.succ rest with
      | ']' :: left => some ([v], left)
      | ',' :: more =>
        let (values, left) ← elements? fuel more
        some (v :: values, left)
      | _ => none

/-- The entries of a table written in place up to its end, after those read so far. -/
def pairs? : Nat → Entries → List Char → Option (Entries × List Char)
  | 0, _, _ => none
  | fuel + 1, entries, text => do
    match ← skipLines? text.length.succ text with
    | '}' :: rest => some (entries, rest)
    | start =>
      let (path, last, rest) ← key? start
      match rest with
      | '=' :: rest =>
        let (v, rest) ← value? fuel (skipBlanks rest)
        let entries ← Entries.put path last v entries
        match ← skipLines? rest.length.succ rest with
        | '}' :: left => some (entries, left)
        | ',' :: more => pairs? fuel entries more
        | _ => none
      | _ => none

end

-- =========================================================== documents

/-- A document read in part: the path of the last header, and the entries. -/
structure Partial where
  header : List String := []
  entries : Entries := []

/-- Reads one line, which may go on over others if it has a value. -/
def line? (read : Partial) (text : List Char) : Option (Partial × List Char) :=
  match skipBlanks text with
  | '[' :: '[' :: rest => do
    let (path, last, rest) ← key? rest
    match rest with
    | ']' :: ']' :: rest =>
      let change := fun _ entries => Entries.openElement last entries
      let entries ← Entries.update change false path false read.entries
      some (⟨path ++ [last], entries⟩, ← endLine? rest)
    | _ => none
  | '[' :: rest => do
    let (path, last, rest) ← key? rest
    match rest with
    | ']' :: rest =>
      let change := fun _ entries => Entries.openTable last entries
      let entries ← Entries.update change false path false read.entries
      some (⟨path ++ [last], entries⟩, ← endLine? rest)
    | _ => none
  | start =>
    match endLine? start with
    | some rest => some (read, rest)
    | none => do
      let (path, last, rest) ← key? start
      match rest with
      | '=' :: rest =>
        let (v, rest) ← value? rest.length (skipBlanks rest)
        let change := fun _ entries => Entries.put path last v entries
        let entries ← Entries.update change false read.header false read.entries
        some ({ read with entries }, ← endLine? rest)
      | _ => none

/-- Reads as many lines as there are, if they are fewer than `fuel`. -/
def lines? : Nat → Partial → List Char → Option Partial
  | _, read, [] => some read
  | 0, _, _ => none
  | fuel + 1, read, text => do
    let (read, rest) ← line? read text
    lines? fuel read rest

/-- The entries of a document. A byte order mark at its start does not count. -/
def parse? (text : String) : Option Document :=
  let characters := match text.toList with
    | '\ufeff' :: rest => rest
    | all => all
  (lines? characters.length {} characters).map fun read => Entries.toValues read.entries

end TreeQuery.Toml
