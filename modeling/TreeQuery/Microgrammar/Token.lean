/-
The tokens of a microgrammar: text that stands for itself, runs of white space, and
bindings, written as a dollar sign and a name. Tokens keep the characters they were read
from, so writing them one after the other gives back the grammar.
-/
import TreeQuery.Text.Bytes
import TreeQuery.Text.Lines

namespace TreeQuery.Microgrammar

/-- A token of a grammar. -/
inductive Token where
  | literal (text : List Char)
  /-- A run of white space. -/
  | space (run : List Char)
  | binding (name : List Char)
deriving DecidableEq, Repr

/-- The characters a token was read from. -/
def Token.write : Token → List Char
  | .literal text => text
  | .space run => run
  | .binding n => '$' :: n

/-- Whether a binding's name may start with the character. -/
def isBindingStart (c : Char) : Bool := c.isAlpha || c == '_'

/-- Whether a binding's name may go on with the character. -/
def isBindingPart (c : Char) : Bool := c.isAlphanum || c == '_'

/-- Puts a literal character in front of tokens, into the literal they start with if they do. -/
def consLiteral (c : Char) : List Token → List Token
  | .literal text :: rest => .literal (c :: text) :: rest
  | tokens => .literal [c] :: tokens

/-- The name ahead, and what follows it. -/
def splitBinding (ahead : List Char) : List Char × List Char :=
  match ahead with
  | c :: rest =>
    if isBindingStart c then (c :: rest.takeWhile isBindingPart, rest.dropWhile isBindingPart)
    else ([], ahead)
  | [] => ([], [])

theorem splitBinding_length (ahead : List Char) :
    (splitBinding ahead).2.length ≤ ahead.length := by
  unfold splitBinding
  split
  · split
    · have := (List.dropWhile_sublist (l := ‹List Char›) isBindingPart).length_le
      simp
      omega
    · simp
  · simp

/-- The tokens of a text, or the byte offset of the first dollar sign without a name; `offset`
is where the text starts. -/
def tokensFrom (offset : Nat) (ahead : List Char) : Except Nat (List Token) :=
  match ahead with
  | [] => .ok []
  | c :: rest =>
    if Unicode.isWhitespace c then
      let run := c :: rest.takeWhile Unicode.isWhitespace
      match tokensFrom (offset + Text.byteLength run) (rest.dropWhile Unicode.isWhitespace) with
      | .ok tokens => .ok (.space run :: tokens)
      | .error e => .error e
    else if c = '$' then
      match _h : splitBinding rest with
      | ([], _) => .error offset
      | (name, left) =>
        match tokensFrom (offset + 1 + Text.byteLength name) left with
        | .ok tokens => .ok (.binding name :: tokens)
        | .error e => .error e
    else
      match tokensFrom (offset + c.utf8Size) rest with
      | .ok tokens => .ok (consLiteral c tokens)
      | .error e => .error e
termination_by ahead.length
decreasing_by
  · have := (List.dropWhile_sublist (l := rest) Unicode.isWhitespace).length_le
    simp
    omega
  · have := splitBinding_length rest
    rw [_h] at this
    simp at this ⊢
    omega
  · simp

/-- The tokens of a grammar, whose surrounding white space does not count. -/
def tokenize (grammar : String) : Except Nat (List Token) :=
  tokensFrom 0 (Text.trim grammar.toList)

end TreeQuery.Microgrammar
