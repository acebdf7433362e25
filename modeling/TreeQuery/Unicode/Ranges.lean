/-
Sets of code points as ascending lists of closed ranges, the form in which character
properties are tabulated. Membership walks the list and stops at the first range that
starts above the code point, so the ASCII characters are decided in a few steps. Tables
that only patterns name are written as texts of hexadecimal ranges.
-/

namespace TreeQuery.Unicode

/-- Closed ranges of code points, ascending and disjoint. -/
abbrev Ranges := List (Nat × Nat)

namespace Ranges

/-- Whether `code` lies in one of the ranges. -/
def contains : Ranges → Nat → Bool
  | [], _ => false
  | (low, high) :: rest, code =>
    if code < low then false else if code ≤ high then true else contains rest code

/-- The code point that hexadecimal digits in capitals stand for. -/
def codeOf (digits : List Char) : Nat :=
  digits.foldl (fun code d => 16 * code + (d.toNat - if d.isDigit then 0x30 else 0x37)) 0

/-- The range written with a hyphen between its ends, or as its one member. -/
def ofWord (word : List Char) : Nat × Nat :=
  let low := codeOf (word.takeWhile (· != '-'))
  match word.dropWhile (· != '-') with
  | _ :: high => (low, codeOf high)
  | [] => (low, low)

/-- The ranges written one after the other with spaces or line ends between them. -/
def ofText (text : String) : Ranges :=
  let groups := text.toList.splitBy fun a b => !a.isWhitespace && !b.isWhitespace
  (groups.filter fun group => !group.all Char.isWhitespace).map ofWord

end Ranges

/-- Sets of code points by the names each goes by. -/
abbrev Table := List (List String × Ranges)

/-- The set that goes by a name. -/
def Table.named? (table : Table) (name : String) : Option Ranges :=
  (table.find? fun (names, _) => names.contains name).map (·.2)

end TreeQuery.Unicode
