/-
Edits: one span of a text replaced, on condition that the span still holds what the
author of the edit saw there. Every change the library makes to a text is such an edit or
the replacement of the whole, so an edit worked out on an older text is refused and never
spoils the newer one.

An edit has three ways to end. It is refused if its span is no range of the text or cuts a
character, or if the span holds neither the text expected nor the replacement. It is
already applied if the span holds the replacement. Otherwise it applies, and the result
differs from the text only in the span.
-/
import TreeQuery.Hash.Xxh3
import TreeQuery.Text.Bytes
import TreeQuery.Text.Quoted

namespace TreeQuery

open Text (Span)

-- ====================================================== verification

/-- What an edit expects to find in its span. -/
inductive Verification where
  /-- Exactly this text. -/
  | exact (text : String)
  /-- A text with this hash. -/
  | hash (value : UInt64)
deriving DecidableEq, Repr

namespace Verification

/-- Texts of more bytes than this are expected by their hash. -/
def exactLimit : Nat := 1024

/-- The verification that expects `text`. -/
def ofText (text : String) : Verification :=
  if text.utf8ByteSize > exactLimit then .hash (Hash.ofText text) else .exact text

/-- Whether `text` is what is expected. -/
def accepts : Verification → String → Bool
  | .exact expected, text => text == expected
  | .hash value, text => Hash.ofText text == value

/-- A verification accepts the text it was made from. -/
theorem accepts_ofText (text : String) : (ofText text).accepts text = true := by
  unfold ofText
  split <;> simp [accepts]

/-- The verification as diagnostics show it. -/
def describe : Verification → String
  | .exact text => "ExactMatch(" ++ Text.quoted text ++ ")"
  | .hash value => "Hash(" ++ toString value.toNat ++ ")"

end Verification

-- ============================================================= edits

/-- A span to replace, the replacement, and what the span should hold before. -/
structure Edit where
  span : Span
  replacement : String
  expected : Verification
deriving DecidableEq, Repr

/-- Why an edit is refused. -/
inductive EditError where
  /-- The span holds neither the text expected nor the replacement. -/
  | unexpectedText (span : Span) (expected : Verification) (found : String)
  /-- The span is not within a text of that many bytes. -/
  | outOfRange (span : Span) (length : Nat)
  /-- An end of the span lies inside a character. -/
  | splitsCharacter (span : Span)
deriving DecidableEq, Repr

namespace EditError

def message : EditError → String
  | .unexpectedText span _ found =>
    "before-text verification failed at " ++ toString span.start ++ ".." ++ toString span.stop ++
      ": found " ++ Text.quoted found
  | .outOfRange span length =>
    "invalid byte range: [" ++ toString span.start ++ ", " ++ toString span.stop ++
      ") in text of length " ++ toString length
  | .splitsCharacter span =>
    "byte range [" ++ toString span.start ++ ", " ++ toString span.stop ++
      ") splits a UTF-8 character"

end EditError

/-- How an edit that is not refused ends. -/
inductive EditOutcome where
  /-- The text after the edit. -/
  | applied (text : String)
  /-- The span already held the replacement. -/
  | alreadyApplied
deriving DecidableEq, Repr

namespace Edit

/-- An edit that expects `expected` between two offsets. -/
def expecting (span : Span) (replacement expected : String) : Edit :=
  ⟨span, replacement, .ofText expected⟩

/-- An edit that expects what `text` holds at the span now. -/
def replacing (text : String) (span : Span) (replacement : String) : Edit :=
  expecting span replacement ((Text.slice? text span).getD "")

/-- The outcome of the edit on a text. -/
def apply (edit : Edit) (text : String) : Except EditError EditOutcome :=
  if edit.span.start > edit.span.stop || edit.span.stop > text.utf8ByteSize then
    .error (.outOfRange edit.span text.utf8ByteSize)
  else match Text.cut? text.toList edit.span with
    | none => .error (.splitsCharacter edit.span)
    | some (before, middle, after) =>
      let found := String.ofList middle
      if found = edit.replacement then .ok .alreadyApplied
      else if edit.expected.accepts found then
        .ok (.applied (String.ofList (before ++ edit.replacement.toList ++ after)))
      else .error (.unexpectedText edit.span edit.expected found)

/-- How many bytes an applied edit has written. -/
def bytesWritten (edit : Edit) : Nat := edit.replacement.utf8ByteSize

end Edit

end TreeQuery
