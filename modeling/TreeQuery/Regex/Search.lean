/-
Searching a text: the leftmost match, and among those from the same place the preferred
one. Successive matches do not overlap, and an empty match does not stand right where the
match before it ended.
-/
import TreeQuery.Regex.Matcher

namespace TreeQuery.Regex

/-- A match: from where, to where, and what its groups matched. -/
structure Match where
  start : Nat
  stop : Nat
  captures : Captures
deriving DecidableEq, Repr

/-- The preferred match from exactly this place. -/
def matchAt? (regex : Regex) (text : Array Char) (place : Nat) : Option Match :=
  (ends text regex place).head?.map fun e => ⟨place, e.place, e.captures⟩

/-- The first match that starts at one of `n` places from `place` on. -/
def findAmong? (regex : Regex) (text : Array Char) : Nat → Nat → Option Match
  | 0, _ => none
  | n + 1, place =>
    (matchAt? regex text place).or (findAmong? regex text n (place + 1))

/-- The first match that starts at or after `place`. -/
def find? (regex : Regex) (text : Array Char) (place : Nat) : Option Match :=
  findAmong? regex text (text.size + 1 - place) place

/-- The first match from `place` on that is not empty where the last match ended. -/
def findNext? (regex : Regex) (text : Array Char) (place : Nat) (last : Option Nat) :
    Option Match :=
  match find? regex text place with
  | some m =>
    if m.start = m.stop ∧ last = some m.stop then find? regex text (place + 1) else some m
  | none => none

/-- The matches from `place` on, given where the last one ended. Each match ends further on
than the last or is empty there, so twice the length of the text is fuel enough. -/
def findAllFrom (regex : Regex) (text : Array Char) : Nat → Nat → Option Nat → List Match
  | 0, _, _ => []
  | fuel + 1, place, last =>
    match findNext? regex text place last with
    | some m => m :: findAllFrom regex text fuel m.stop (some m.stop)
    | none => []

/-- All matches in a text, from left to right. -/
def findAll (regex : Regex) (text : Array Char) : List Match :=
  findAllFrom regex text (2 * text.size + 2) 0 none

/-- What a group has matched in the end. -/
def Match.group? (m : Match) (name : String) : Option (Nat × Nat) := m.captures.lookup name

end TreeQuery.Regex
