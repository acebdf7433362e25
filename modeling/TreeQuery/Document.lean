/-
Documents: the one place where a file's text changes. A document knows its text, the
generation of the text, and whether the text changed since it was last saved; notes that
other parts of a program hang on it under a key live as long as it does.
-/
import TreeQuery.Edit
import TreeQuery.Generation

namespace TreeQuery

/-- A note hung on a document. Notes of the two kinds do not answer for one another. -/
inductive Attachment where
  | text (value : String)
  | number (value : UInt64)
deriving DecidableEq, Repr

namespace Attachment

/-- Whether two notes are of one kind. -/
def sameKind : Attachment → Attachment → Bool
  | .text _, .text _ => true
  | .number _, .number _ => true
  | _, _ => false

end Attachment

/-- A text buffer of a project. -/
structure Document where
  /-- Where the document stands in its project. -/
  path : String
  content : String
  generation : Generation := 0
  dirty : Bool := false
  attachments : List (String × Attachment) := []
deriving DecidableEq, Repr

namespace Document

/-- The length of the text in bytes. -/
def length (document : Document) : Nat := document.content.utf8ByteSize

def isEmpty (document : Document) : Bool := document.length = 0

/-- The text at a span, if the span is a character-aligned range of the text. -/
def slice? (document : Document) (span : Text.Span) : Option String :=
  Text.slice? document.content span

/-- The document with another text: one generation on, and dirty. -/
def written (document : Document) (text : String) : Document :=
  { document with content := text, generation := document.generation.next, dirty := true }

/-- Applies an edit. Only an edit that applies changes the document. -/
def apply (document : Document) (edit : Edit) : Except EditError (EditOutcome × Document) :=
  match edit.apply document.content with
  | .ok (.applied text) => .ok (.applied text, document.written text)
  | .ok .alreadyApplied => .ok (.alreadyApplied, document)
  | .error e => .error e

/-- Replaces the whole text, and says whether that changed it. -/
def replaceAll (document : Document) (text : String) : Bool × Document :=
  if document.content = text then (false, document) else (true, document.written text)

/-- The document as it is right after saving. -/
def markClean (document : Document) : Document := { document with dirty := false }

/-- The note under a key: the one already there if it is of the kind of `note`, else `note`,
which then takes its place. -/
def attach (document : Document) (key : String) (note : Attachment) : Attachment × Document :=
  match document.attachments.lookup key with
  | some old =>
    if old.sameKind note then (old, document)
    else (note, { document with
      attachments := (key, note) :: document.attachments.filter (·.1 != key) })
  | none => (note, { document with attachments := (key, note) :: document.attachments })

/-- The document as diagnostics show it. -/
def describe (document : Document) : String :=
  "Document \x7b path: " ++ Text.quoted document.path ++
    ", len: " ++ toString document.length ++
    ", generation: " ++ toString document.generation.toNat ++
    ", dirty: " ++ toString document.dirty ++ " \x7d"

end Document

end TreeQuery
