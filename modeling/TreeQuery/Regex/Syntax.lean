/-
Regular expressions as data, after flags and classes have been resolved: each leaf says
which characters or which place it matches, so matching needs no flags.
-/
import TreeQuery.Regex.CharSet

namespace TreeQuery.Regex

/-- A condition on a place in the text. -/
inductive Assertion where
  | textStart
  | textEnd
  | lineStart
  | lineEnd
  /-- As `lineStart`, where a carriage return with a newline also ends a line. -/
  | lineStartCrlf
  | lineEndCrlf
  /-- Between a character of the set and one outside it. -/
  | boundary (words : CharSet)
  | notBoundary (words : CharSet)
  | wordStart (words : CharSet)
  | wordEnd (words : CharSet)
  /-- Not after a character of the set. -/
  | wordStartHalf (words : CharSet)
  /-- Not before a character of the set. -/
  | wordEndHalf (words : CharSet)
deriving DecidableEq, Repr

end TreeQuery.Regex

namespace TreeQuery

/-- A regular expression. -/
inductive Regex where
  /-- The empty text. -/
  | empty
  /-- One character of a set. -/
  | one (set : Regex.CharSet)
  /-- The empty text at a place. -/
  | assertion (kind : Regex.Assertion)
  /-- One after the other. -/
  | seq (first second : Regex)
  /-- The first, or else the second. -/
  | alt (first second : Regex)
  /-- At least `least` times, and at most `most` times if that is given; `greedy` says whether
  more times are tried before fewer. -/
  | many (body : Regex) (least : Nat) (most : Option Nat) (greedy : Bool)
  /-- The body, with what it matches recorded under a name. -/
  | capture (name : String) (body : Regex)
deriving DecidableEq, Repr

end TreeQuery
