/-
Indentation of a text: the unit its lines are indented by, and how many units a line has.
-/
import TreeQuery.Text.Lines

namespace TreeQuery.Layout

/-- Four spaces, the unit of a text whose lines show none. -/
def defaultIndent : String := "    "

/-- How many spaces a line starts with. -/
def leadingSpaces (line : List Char) : Nat := (line.takeWhile (· == ' ')).length

/-- The least positive number in a list. -/
def leastPositive? (ns : List Nat) : Option Nat := (ns.filter (0 < ·)).min?

/-- The unit of indentation: a tab if a line with text starts with one, else as many spaces as
the least indented of the indented lines has, else four. Lines of white space do not count. -/
def detectIndent (text : String) : String :=
  let lines := (Text.lines text.toList).filter fun line => !Text.isBlank line
  if lines.any fun line => line.head? == some '\t' then "\t"
  else match leastPositive? (lines.map leadingSpaces) with
    | some n => String.ofList (List.replicate n ' ')
    | none => defaultIndent

/-- How many units a line is indented by. Only spaces count towards a unit of spaces and only
tabs towards a tab; the empty unit never counts. -/
def indentDepth (line : List Char) (unit : String) : Nat :=
  let leading := line.takeWhile fun c => c == ' ' || c == '\t'
  if unit = "\t" then leading.count '\t'
  else if unit.isEmpty then 0
  else leading.count ' ' / unit.utf8ByteSize

end TreeQuery.Layout
