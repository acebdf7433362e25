/-
Names and paths as the system keeps them: bytes, which are mostly those of a text but need not be.

What is to be shown has to be a text. Bytes that are part of no character are then replaced, those
that begin a character and break off together as one, so that several names may be shown alike and
a name that is shown need not lead back to where it came from.
-/

namespace TreeQuery

/-- Bytes that the system takes for a name or a path. -/
abbrev NativeText := List UInt8

namespace NativeText

/-- The bytes of a text. -/
def ofString (text : String) : NativeText := text.toUTF8.data.toList

/-- The text that the bytes are those of, if there is one. -/
def toString? (bytes : NativeText) : Option String := String.fromUTF8? ⟨bytes.toArray⟩

-- =============================================================== shown

/-- The character that the bytes begin with. -/
def firstChar? (bytes : NativeText) : Option Char := ByteArray.utf8DecodeChar? ⟨bytes.toArray⟩ 0

/-- Whether the byte comes after the first one of a character. -/
def continues (byte : UInt8) : Bool := 0x80 ≤ byte && byte ≤ 0xBF

/-- Whether a character of three or four bytes can begin with the two. -/
def opens (first second : UInt8) : Bool :=
  if first = 0xE0 then 0xA0 ≤ second && second ≤ 0xBF
  else if first = 0xED then 0x80 ≤ second && second ≤ 0x9F
  else if first = 0xF0 then 0x90 ≤ second && second ≤ 0xBF
  else if first = 0xF4 then 0x80 ≤ second && second ≤ 0x8F
  else 0xE1 ≤ first && first ≤ 0xF3 && continues second

/-- How many bytes are replaced together where no character begins: all with which one can
begin. -/
def brokenLength : NativeText → Nat
  | first :: second :: rest =>
    if opens first second then
      if 0xF0 ≤ first && rest.head?.any continues then 3 else 2
    else 1
  | _ => 1

/-- The characters that bytes are shown as, after some that have been dealt with. -/
def shownFrom : Nat → NativeText → List Char
  | _, [] => []
  | skipped + 1, _ :: rest => shownFrom skipped rest
  | 0, first :: rest =>
    match firstChar? (first :: rest) with
    | some c => c :: shownFrom (c.utf8Size - 1) rest
    | none => '\uFFFD' :: shownFrom (brokenLength (first :: rest) - 1) rest

/-- The text that bytes are shown as. -/
def shown (bytes : NativeText) : String := String.ofList (shownFrom 0 bytes)

end NativeText

end TreeQuery
