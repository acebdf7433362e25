/-
Sets of characters for the classes of a pattern: ascending disjoint ranges, closed under
union, complement, intersection and the two differences, and under making letters equal
that differ only in case.
-/
import TreeQuery.Unicode.Folding
import TreeQuery.Unicode.Ranges

namespace TreeQuery.Regex

open Unicode (Ranges)

/-- A set of characters. -/
abbrev CharSet := Ranges

namespace CharSet

/-- The greatest code point. -/
def top : Nat := 0x10FFFF

/-- Joins a range to the ranges before it, newest first; ranges come in by their lower end. -/
def join (done : Ranges) (range : Nat × Nat) : Ranges :=
  match done with
  | (low, high) :: rest =>
    if range.1 ≤ high + 1 then (low, max high range.2) :: rest else range :: done
  | [] => [range]

/-- Any ranges, as ascending disjoint ones. -/
def ofRanges (ranges : List (Nat × Nat)) : CharSet :=
  ((ranges.mergeSort fun a b => a.1 ≤ b.1).foldl join []).reverse

/-- The characters from `low` to `high`. -/
def range (low high : Nat) : CharSet := if low ≤ high then [(low, high)] else []

def singleton (c : Char) : CharSet := [(c.toNat, c.toNat)]

def union (a b : CharSet) : CharSet := ofRanges (a ++ b)

/-- What lies between the ranges, from `low` up to the greatest code point. -/
def gaps (low : Nat) : CharSet → CharSet
  | [] => range low top
  | (a, b) :: rest => (if low < a then [(low, a - 1)] else []) ++ gaps (b + 1) rest

/-- The characters not in the set. -/
def complement (a : CharSet) : CharSet := gaps 0 a

def inter (a b : CharSet) : CharSet := complement (union (complement a) (complement b))

def diff (a b : CharSet) : CharSet := inter a (complement b)

def symmetricDiff (a b : CharSet) : CharSet := union (diff a b) (diff b a)

/-- Whether the character is in the set. -/
def has (set : CharSet) (c : Char) : Bool := set.contains c.toNat

/-- The set with every character that differs from a member only in case. -/
def foldCase (a : CharSet) : CharSet :=
  let extra := Unicode.foldingOrbits.filter fun orbit => orbit.any a.contains
  union a (extra.flatten.map fun code => (code, code))

/-- For each letter of the alphabet at `source` that is in the set, the one at `target`. -/
def moveLetters (a : CharSet) (source target : Nat) : CharSet :=
  ((List.range 26).filter fun k => a.contains (source + k)).map fun k => (target + k, target + k)

/-- The set with the other case of every ASCII letter in it. -/
def foldCaseAscii (a : CharSet) : CharSet :=
  union a (moveLetters a 0x41 0x61 ++ moveLetters a 0x61 0x41)

/-- Whether every member is ASCII. -/
def isAscii (a : CharSet) : Bool := a.all fun (_, high) => high < 0x80

end CharSet

end TreeQuery.Regex
