/-
Reading patterns. A pattern is a list of alternatives, each a sequence of items; an item
may be repeated, and a group is a pattern in parentheses with its own scope of flags.
Look-around and back-references are no part of the language, names of groups are unique,
and only named groups are recorded, for nobody can ask for the others.

A reader is given fuel in proportion to the text ahead of it; every round takes at least
one character away, so the fuel never decides anything.
-/
import TreeQuery.Regex.Class

namespace TreeQuery.Regex

-- ========================================================== building

/-- Everything that may be matched by one character, under the flags. -/
def anyCharacter (flags : Flags) : CharSet :=
  if flags.dotAll then CharSet.complement []
  else if flags.crlf then CharSet.complement [(0xA, 0xA), (0xD, 0xD)]
  else CharSet.complement [(0xA, 0xA)]

/-- The leaf for a character that stands for itself. -/
def literal (flags : Flags) (c : Char) : Regex :=
  .one (foldAndNegate flags false (CharSet.singleton c))

/-- What `^` asserts. -/
def startAssertion (flags : Flags) : Assertion :=
  if flags.multiLine then (if flags.crlf then .lineStartCrlf else .lineStart) else .textStart

/-- What `$` asserts. -/
def endAssertion (flags : Flags) : Assertion :=
  if flags.multiLine then (if flags.crlf then .lineEndCrlf else .lineEnd) else .textEnd

/-- The items of an alternative, newest first. A change of flags is an item that cannot be
repeated and matches nothing by itself. -/
abbrev Items := List (Option Regex)

/-- The items one after the other. -/
def sequence (items : Items) : Regex :=
  match items.reverse.filterMap id with
  | [] => .empty
  | first :: rest => rest.foldl .seq first

/-- The alternatives, newest first, each tried after those before it. -/
def alternatives (last : Regex) (before : List Regex) : Regex :=
  before.foldl (fun later branch => .alt branch later) last

/-- How large the machine for a pattern would be, in bytes, roughly: repetition counts are
multiplied out, and a class costs by its ranges. -/
def weight : Regex → Nat
  | .empty => 0
  | .one set => 40 + 60 * (set.length - 1)
  | .assertion _ => 40
  | .seq a b => weight a + weight b
  | .alt a b => weight a + weight b + 40
  | .many body least most _ => (weight body + 40) * max 1 (max least (most.getD (least + 1)))
  | .capture _ body => weight body + 80

/-- Patterns with larger machines than this are refused. -/
def weightLimit : Nat := 10 * 1024 * 1024

-- =========================================================== reading

/-- A decimal number with white space around it. -/
def readCount (flags : Flags) (ahead : List Char) : Option (Nat × List Char) :=
  let ahead := ahead.dropWhile Unicode.isWhitespace
  let (digits, rest) := digitsFrom ahead.length ahead
  if digits.isEmpty then none
  else
    let value := digits.foldl (fun n c => 10 * n + (c.toNat - 0x30)) 0
    if value < UInt32.size then some (value, skipSpace flags (rest.dropWhile Unicode.isWhitespace))
    else none
where
  /-- The digits ahead. -/
  digitsFrom : Nat → List Char → List Char × List Char
    | 0, ahead => ([], ahead)
    | fuel + 1, ahead =>
      match ahead with
      | c :: rest =>
        if c.isDigit then
          let (cs, left) := digitsFrom fuel (skipSpace flags rest)
          (c :: cs, left)
        else ([], ahead)
      | [] => ([], [])

/-- Whether a repetition is marked to prefer the other number of times. -/
def readGreed (flags : Flags) (ahead : List Char) : Bool × List Char :=
  match ahead with
  | '?' :: rest => (flags.swapGreed, rest)
  | _ => (!flags.swapGreed, ahead)

/-- The bounds of a repetition after its opening brace. -/
def readBounds (flags : Flags) (ahead : List Char) :
    Option (Nat × Option Nat × Bool × List Char) := do
  let (least, rest) ← readCount flags (skipSpace flags ahead)
  let (most, rest) ← match rest with
    | ',' :: more =>
      match skipSpace flags more with
      | '\x7d' :: left => pure (none, '\x7d' :: left)
      | more => do
        let (n, left) ← readCount flags more
        pure (some n, left)
    | _ => pure (some least, rest)
  match rest with
  | '\x7d' :: left =>
    let (greedy, left) := readGreed flags (skipSpace flags left)
    if most.all (least ≤ ·) then return (least, most, greedy, left) else none
  | _ => none

/-- Flags after `(?`, up to the colon or parenthesis that ends them. -/
def readFlags : Flags → (seen : List Char) → (negated : Bool) → List Char →
    Option (Flags × Bool × List Char)
  | _, _, _, [] => none
  | flags, seen, negated, c :: rest =>
    if c = ':' ∨ c = ')' then
      if seen.head? = some '-' then none else some (flags, !seen.isEmpty, c :: rest)
    else if seen.contains c then none
    else if c = '-' then readFlags flags ('-' :: seen) true rest
    else match flags.set? c (!negated) with
      | some flags => readFlags flags (c :: seen) negated rest
      | none => none

/-- Whether a group name may go on with the character. -/
def isGroupNamePart (c : Char) : Bool :=
  c == '_' || c == '.' || c == '[' || c == ']' || Unicode.isAlphanumeric c

/-- The name of a group, up to the bracket that closes it. -/
def readGroupName (ahead : List Char) : Option (String × List Char) :=
  match ahead with
  | [] => none
  | c :: rest =>
    if c == '_' || Unicode.isAlphabetic c then
      match rest.dropWhile isGroupNamePart with
      | '>' :: left => some (String.ofList (c :: rest.takeWhile isGroupNamePart), left)
      | _ => none
    else none

/-- What an opening parenthesis begins. -/
inductive Opening where
  /-- A change of flags for the rest of the group around it. -/
  | flags (flags : Flags)
  /-- A group, with its flags. -/
  | group (flags : Flags)
  /-- A group that is recorded under a name. -/
  | named (name : String)

/-- What stands after an opening parenthesis. -/
def readOpening (flags : Flags) (ahead : List Char) : Option (Opening × List Char) :=
  match skipSpace flags ahead with
  | '?' :: rest =>
    match rest with
    | '=' :: _ | '!' :: _ | '<' :: '=' :: _ | '<' :: '!' :: _ => none
    | 'P' :: '<' :: more | '<' :: more => do
      let (name, left) ← readGroupName more
      return (.named name, left)
    | _ => do
      match ← readFlags flags [] false rest with
      | (flags, some?, ')' :: left) => if some? then return (.flags flags, left) else none
      | (flags, _, _ :: left) => return (.group flags, left)
      | _ => none
  | rest => some (.group flags, rest)

/-- An escape as an item of a sequence. -/
def escapeItem (flags : Flags) : Escape → Option Regex
  | .literal c => some (literal flags c)
  | .byte => none
  | .set members => if flags.unicode || members.isAscii then some (.one members) else none
  | .place kind => some (.assertion kind)

/-- The items with the newest one repeated; a change of flags cannot be repeated. -/
def repeatLast (least : Nat) (most : Option Nat) (greedy : Bool) (items : Items) :
    Option Items :=
  match items with
  | some body :: rest => some (some (.many body least most greedy) :: rest)
  | _ => none

/-- What the reader of a pattern carries along: the names of groups so far, the finished
alternatives and the items of the present one. -/
structure Draft where
  names : List String
  branches : List Regex := []
  items : Items := []

/-- The pattern read so far. -/
def Draft.finish (draft : Draft) : Regex := alternatives (sequence draft.items) draft.branches

def Draft.push (draft : Draft) (item : Option Regex) : Draft :=
  { draft with items := item :: draft.items }

/-- Reads alternatives up to the end of the text or to a closing parenthesis that belongs to
nothing read here. -/
def readPattern : Nat → Flags → Draft → List Char → Option (Regex × List String × List Char)
  | 0, _, _, _ => none
  | fuel + 1, flags, draft, ahead =>
    match skipSpace flags ahead with
    | [] => some (draft.finish, draft.names, [])
    | c :: rest =>
      match c with
      | ')' => some (draft.finish, draft.names, c :: rest)
      | '|' =>
        readPattern fuel flags
          { draft with branches := sequence draft.items :: draft.branches, items := [] } rest
      | '(' => do
        let (opening, rest) ← readOpening flags rest
        match opening with
        | .flags flags => readPattern fuel flags (draft.push none) rest
        | .group inner =>
          let (body, names, left) ← readPattern fuel inner { names := draft.names } rest
          match left with
          | ')' :: left =>
            readPattern fuel flags { draft.push (some body) with names := names } left
          | _ => none
        | .named name =>
          if draft.names.contains name then none else
          let (body, names, left) ← readPattern fuel flags { names := name :: draft.names } rest
          match left with
          | ')' :: left =>
            readPattern fuel flags
              { draft.push (some (.capture name body)) with names := names } left
          | _ => none
      | '[' => do
        let (set, left) ← readClass flags rest
        if flags.unicode || set.isAscii then
          readPattern fuel flags (draft.push (some (.one set))) left
        else none
      | '?' => repeated fuel flags draft 0 (some 1) rest
      | '*' => repeated fuel flags draft 0 none rest
      | '+' => repeated fuel flags draft 1 none rest
      | '\x7b' => do
        let (least, most, greedy, left) ← readBounds flags rest
        let items ← repeatLast least most greedy draft.items
        readPattern fuel flags { draft with items := items } left
      | '\\' => do
        let (escape, left) ← readEscape flags rest
        let item ← escapeItem flags escape
        readPattern fuel flags (draft.push (some item)) left
      | '.' =>
        if flags.unicode then
          readPattern fuel flags (draft.push (some (.one (anyCharacter flags)))) rest
        else none
      | '^' =>
        readPattern fuel flags (draft.push (some (.assertion (startAssertion flags)))) rest
      | '$' =>
        readPattern fuel flags (draft.push (some (.assertion (endAssertion flags)))) rest
      | _ => readPattern fuel flags (draft.push (some (literal flags c))) rest
where
  /-- Repeats the newest item and goes on. -/
  repeated (fuel : Nat) (flags : Flags) (draft : Draft) (least : Nat) (most : Option Nat)
      (rest : List Char) : Option (Regex × List String × List Char) := do
    let (greedy, left) := readGreed flags rest
    let items ← repeatLast least most greedy draft.items
    readPattern fuel flags { draft with items := items } left

end TreeQuery.Regex

namespace TreeQuery

/-- The regular expression a pattern writes, if it writes one. -/
def Regex.parse? (pattern : String) : Option Regex :=
  let ahead := pattern.toList
  match Regex.readPattern (ahead.length + 1) {} { names := [] } ahead with
  | some (regex, _, []) =>
    if Regex.weight regex ≤ Regex.weightLimit then some regex else none
  | _ => none

/-- A reader of patterns: which texts are patterns, and what they match. Besides the language it is
a matter of tables of characters and of limits of size which patterns a reader accepts. -/
class Regex.Reader where
  read? : String → Option Regex

/-- The reader of this library. Its tables are those of version 15.0 of the character database with
the ideographs that version 15.1 added. It bounds the size of what a pattern comes to, and not how
deep groups are nested. -/
instance Regex.standardReader : Regex.Reader := ⟨Regex.parse?⟩

@[simp] theorem Regex.read?_eq_parse? (pattern : String) :
    Regex.Reader.read? pattern = Regex.parse? pattern := rfl

end TreeQuery
