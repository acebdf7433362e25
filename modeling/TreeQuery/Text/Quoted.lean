/-
Text in double quotes, as diagnostics show it: a quote, a backslash and the usual controls
are written as two-character escapes, and each character that would not show by itself,
or would change the look of its neighbour, by its code point.
-/
import TreeQuery.Unicode.Printing

namespace TreeQuery.Text

/-- The lower-case hexadecimal digits of a number. -/
def hexDigits (n : Nat) : List Char := Nat.toDigits 16 n

/-- Whether a quoted text shows the character as it is. -/
def isShown (c : Char) : Bool :=
  !Unicode.graphemeExtend.contains c.toNat && !Unicode.unprintable.contains c.toNat

/-- How a quoted text writes one character. -/
def escapeQuoted (c : Char) : List Char :=
  if c = '\x00' then ['\\', '0']
  else if c = '\t' then ['\\', 't']
  else if c = '\r' then ['\\', 'r']
  else if c = '\n' then ['\\', 'n']
  else if c = '"' then ['\\', '"']
  else if c = '\\' then ['\\', '\\']
  else if isShown c then [c]
  else ['\\', 'u', '\x7b'] ++ hexDigits c.toNat ++ ['\x7d']

/-- The text in double quotes, with escapes. -/
def quoted (text : String) : String :=
  String.ofList ('"' :: text.toList.flatMap escapeQuoted ++ ['"'])

end TreeQuery.Text
