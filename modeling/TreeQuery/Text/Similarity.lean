/-
How alike two words are, between 0 and 1: the Jaro similarity counts the characters that
both words have in nearby places and takes off for those in another order, and the
Jaro-Winkler similarity adds to that for a common beginning.
-/

namespace TreeQuery.Text

/-- What matching one character against the other word has found so far: which places of the
other word are taken. -/
abbrev Taken := List Bool

/-- Takes the first free place from `low` up to `high` where the other word has `c`; places are
counted from `place`. -/
def takePlace (c : Char) (low high : Nat) : Nat → List Char → Taken → Option Taken
  | place, d :: other, t :: taken =>
    if high ≤ place then none
    else if low ≤ place ∧ c = d ∧ t = false then some (true :: taken)
    else (takePlace c low high (place + 1) other taken).map (t :: ·)
  | _, _, _ => none

/-- Matches the characters of a word, which stand from `place` on, against another word. The
result is those that have found a match, and the places of the other word they took. -/
def matchPlaces (range : Nat) (other : List Char) : Nat → List Char → Taken → List Char × Taken
  | _, [], taken => ([], taken)
  | place, c :: rest, taken =>
    match takePlace c (place - range) (place + range + 1) 0 other taken with
    | some taken =>
      let (found, taken) := matchPlaces range other (place + 1) rest taken
      (c :: found, taken)
    | none => matchPlaces range other (place + 1) rest taken

/-- The Jaro similarity. -/
def jaro (a b : List Char) : Float :=
  if a.isEmpty && b.isEmpty then 1.0
  else if a.isEmpty || b.isEmpty then 0.0
  else
    let range := max a.length b.length / 2 - 1
    let (found, taken) := matchPlaces range b 0 a (b.map fun _ => false)
    let foundOther := (b.zip taken).filterMap fun (c, t) => if t then some c else none
    let moved := ((found.zip foundOther).filter fun (c, d) => c != d).length / 2
    let count := found.length
    if count = 0 then 0.0
    else
      (count.toFloat / a.length.toFloat + count.toFloat / b.length.toFloat +
        (count - moved).toFloat / count.toFloat) / 3.0

/-- How many of the first four characters both words begin with. -/
def commonStart (a b : List Char) : Nat :=
  (((a.take 4).zip b).takeWhile fun (c, d) => c == d).length

/-- The Jaro-Winkler similarity. A common beginning counts for words that are alike anyway. -/
def jaroWinkler (a b : String) : Float :=
  let similarity := jaro a.toList b.toList
  if similarity > 0.7 then
    similarity + 0.1 * (commonStart a.toList b.toList).toFloat * (1.0 - similarity)
  else similarity

end TreeQuery.Text
