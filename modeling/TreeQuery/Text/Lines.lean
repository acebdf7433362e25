/-
Lines of a text. A line ends after its newline, and the rest after the last newline, if
there is any, is a line too; `lines` gives them without their endings.
-/
import TreeQuery.Unicode.Classes

namespace TreeQuery.Text

/-- The lines of the text, each with its newline. -/
def linesInclusive : List Char → List (List Char)
  | [] => []
  | c :: rest =>
    if c = '\n' then [c] :: linesInclusive rest
    else match linesInclusive rest with
      | [] => [[c]]
      | line :: more => (c :: line) :: more

/-- A line without the newline that ends it, and without a carriage return before that. -/
def withoutEnding (line : List Char) : List Char :=
  match line.reverse with
  | '\n' :: '\r' :: rest => rest.reverse
  | '\n' :: rest => rest.reverse
  | _ => line

/-- The lines of the text, without their endings. -/
def lines (text : List Char) : List (List Char) := (linesInclusive text).map withoutEnding

/-- The text without white space at its start. -/
def trimStart (text : List Char) : List Char := text.dropWhile Unicode.isWhitespace

/-- The text without white space at either end. -/
def trim (text : List Char) : List Char := (trimStart (trimStart text).reverse).reverse

/-- Whether the text is white space only. -/
def isBlank (text : List Char) : Bool := text.all Unicode.isWhitespace

end TreeQuery.Text
