/-
Positions in a file as an editor shows them: line, column and depth of indentation beside
the byte offset. Lines and columns are counted from 1, columns in characters. An offset
inside a character stands for the boundary before it, and one past the end for the end.

A position can also be found from inside a part of the text: `Position.advance` takes the
position where the part starts and goes on from there. As long as no line ends in between,
the column and the depth continue those of the start.
-/
import TreeQuery.Layout.Indent
import TreeQuery.Text.Bytes

namespace TreeQuery.Layout

open Text (Span)

/-- A point in a file. -/
structure Position where
  /-- Bytes before the point. -/
  offset : Nat
  line : Nat
  column : Nat
  /-- How many units the line of the point is indented by. -/
  depth : Nat
  /-- The unit of indentation. -/
  indent : String
deriving DecidableEq, Repr

/-- What comes after the last newline. -/
def lastLine (text : List Char) : List Char :=
  (text.reverse.takeWhile (· != '\n')).reverse

/-- What comes before the first newline. -/
def firstLine (text : List Char) : List Char := text.takeWhile (· != '\n')

namespace Position

/-- The point between `before` and `after`, the two parts of a text. -/
def between (before after : List Char) (indent : String) : Position where
  offset := Text.byteLength before
  line := before.count '\n' + 1
  column := (lastLine before).length + 1
  depth := indentDepth (lastLine before ++ firstLine after) indent
  indent := indent

/-- The point at an offset of a text. -/
def locate (text : String) (offset : Nat) (indent : String) : Position :=
  let (before, after) := Text.splitFloor text.toList offset
  between before after indent

/-- The point between `before` and `after`, the two parts of a text that starts at `base`. -/
def advance (base : Position) (before after : List Char) : Position where
  offset := base.offset + Text.byteLength before
  line := base.line + before.count '\n'
  column := if '\n' ∈ before then (lastLine before).length + 1 else base.column + before.length
  depth :=
    if '\n' ∈ before then indentDepth (lastLine before ++ firstLine after) base.indent
    else base.depth
  indent := base.indent

/-- The point at an offset of a text that starts at `base`. -/
def locateFrom (base : Position) (text : String) (offset : Nat) : Position :=
  let (before, after) := Text.splitFloor text.toList offset
  base.advance before after

end Position

/-- Where a part of a file starts and stops. -/
structure Extent where
  start : Position
  stop : Position
deriving DecidableEq, Repr

namespace Extent

/-- The extent of a span of a text, in the text's own unit of indentation. -/
def ofSpan (text : String) (span : Span) : Extent :=
  let indent := detectIndent text
  ⟨.locate text span.start indent, .locate text span.stop indent⟩

/-- The extent of a span of a text that starts at `base`. -/
def within (base : Position) (text : String) (span : Span) : Extent :=
  ⟨base.locateFrom text span.start, base.locateFrom text span.stop⟩

end Extent

end TreeQuery.Layout
