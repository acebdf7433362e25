/-
Finding an occurrence again after the text around it has changed: where it was, if its text
still stands there, else at the nearest place where the grammar finds the same text.
-/
import TreeQuery.Microgrammar.Basic

namespace TreeQuery

open Text (Span)

namespace Occurrence

/-- What a binding has matched, if it took part. -/
def capture? (occurrence : Occurrence) (binding : String) : Option String :=
  (occurrence.captures.lookup binding).bind (Text.slice? occurrence.text)

end Occurrence

namespace Microgrammar

/-- How far two offsets are apart. -/
def distance (a b : Nat) : Nat := (a - b) + (b - a)

/-- The span whose start is nearest to an offset, the first of those equally near. -/
def nearest? (offset : Nat) (spans : List Span) : Option Span :=
  spans.foldl (fun best span => match best with
    | some found =>
      if distance span.start offset < distance found.start offset then some span else some found
    | none => some span) none

/-- Where an occurrence seen before stands in a text. -/
def locate? (grammar : Microgrammar) (seen : Occurrence) (text : String) : Option Span :=
  if Text.slice? text seen.span = some seen.text then some seen.span
  else nearest? seen.span.start
    (((grammar.scan text).filter fun found => found.text == seen.text).map Occurrence.span)

/-- The occurrence that a text is when it is written at an offset: the captures are those of
the text as a whole, and none if it is no occurrence. -/
def written (grammar : Microgrammar) (start : Nat) (text : String) : Occurrence where
  span := ⟨start, start + text.utf8ByteSize⟩
  text := text
  captures := (grammar.parseExact text).getD []

end Microgrammar

end TreeQuery
