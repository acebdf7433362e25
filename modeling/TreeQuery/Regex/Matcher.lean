/-
Matching by preference. From a place in the text a pattern can end at several others;
`ends` lists them in the order in which a backtracking search would come upon them, each
place once, with what was recorded on the way to it first. The first entry is therefore
the preferred match, and what follows a pattern can pick up wherever it may end.

A loop goes on from each place it arrives at only once. A round that matches nothing is
taken for an end of the loop when it is the first round, and otherwise leads nowhere new.
-/
import TreeQuery.Regex.Syntax

namespace TreeQuery.Regex

/-- What named groups have matched, newest first, as places in the text. -/
abbrev Captures := List (String × Nat × Nat)

/-- A place where a match can end, and what was recorded on the way. -/
structure Ending where
  place : Nat
  captures : Captures
deriving DecidableEq, Repr

-- ======================================================== assertions

/-- Whether a condition holds between the character before a place and the one after. -/
def Assertion.holds (before after : Option Char) : Assertion → Bool
  | .textStart => before.isNone
  | .textEnd => after.isNone
  | .lineStart => before.all (· == '\n')
  | .lineEnd => after.all (· == '\n')
  | .lineStartCrlf =>
    before.all fun c => c == '\n' || (c == '\r' && after != some '\n')
  | .lineEndCrlf =>
    after.all fun c => c == '\r' || (c == '\n' && before != some '\r')
  | .boundary words => before.any words.has != after.any words.has
  | .notBoundary words => before.any words.has == after.any words.has
  | .wordStart words => !before.any words.has && after.any words.has
  | .wordEnd words => before.any words.has && !after.any words.has
  | .wordStartHalf words => !before.any words.has
  | .wordEndHalf words => !after.any words.has

/-- The character before a place. -/
def charBefore? (text : Array Char) : Nat → Option Char
  | 0 => none
  | place + 1 => text[place]?

-- ============================================================= lists

/-- The endings without those at a place that an earlier one has. -/
def firstOfEach : List Ending → List Ending
  | [] => []
  | e :: rest => e :: (firstOfEach rest).filter (·.place != e.place)

/-- Goes on from each ending, keeping what was recorded before. -/
def follow (next : Nat → List Ending) (endings : List Ending) : List Ending :=
  firstOfEach <| endings.flatMap fun e =>
    (next e.place).map fun f => ⟨f.place, f.captures ++ e.captures⟩

-- ============================================================= loops

/-- The state of a loop: the places it has arrived at, and its endings, newest first. -/
structure Loop where
  arrived : List Nat := []
  endings : List Ending := []

/-- The loop with one more ending, unless it has one at that place. -/
def Loop.finish (loop : Loop) (e : Ending) : Loop :=
  if loop.endings.any (·.place == e.place) then loop
  else { loop with endings := e :: loop.endings }

/-- Arrives at a place after a round, and goes on from there if that is new. Each round moves
on in the text, so its length is fuel enough. -/
def arrive (round : Nat → List Ending) (greedy : Bool) : Nat → Ending → Loop → Loop
  | 0, _, loop => loop
  | fuel + 1, here, loop =>
    if loop.arrived.contains here.place then loop
    else
      let loop := { loop with arrived := here.place :: loop.arrived }
      let goOn (loop : Loop) := (round here.place).foldl (fun loop e =>
        arrive round greedy fuel ⟨e.place, e.captures ++ here.captures⟩ loop) loop
      if greedy then (goOn loop).finish here else goOn (loop.finish here)

/-- The endings after one or more rounds. -/
def oneOrMore (round : Nat → List Ending) (greedy : Bool) (fuel place : Nat) : List Ending :=
  let loop := (round place).foldl (fun loop e =>
    if e.place = place then loop.finish e else arrive round greedy fuel e loop) ({} : Loop)
  loop.endings.reverse

/-- The endings after up to `n` rounds, the most rounds first if `greedy`. -/
def upTo (round : Nat → List Ending) (greedy : Bool) : Nat → Nat → List Ending
  | 0, place => [⟨place, []⟩]
  | n + 1, place =>
    let more := follow (upTo round greedy n) (round place)
    firstOfEach (if greedy then more ++ [⟨place, []⟩] else ⟨place, []⟩ :: more)

/-- The endings after exactly `n` rounds. -/
def exactly (round : Nat → List Ending) : Nat → Nat → List Ending
  | 0, place => [⟨place, []⟩]
  | n + 1, place => follow round (exactly round n place)

/-- The endings after `least` rounds or more, up to `most` if that is given. -/
def loopEnds (round : Nat → List Ending) (least : Nat) (most : Option Nat) (greedy : Bool)
    (fuel place : Nat) : List Ending :=
  match most with
  | some most => follow (upTo round greedy (most - least)) (exactly round least place)
  | none =>
    match least with
    | 0 =>
      let more := oneOrMore round greedy fuel place
      firstOfEach (if greedy then more ++ [⟨place, []⟩] else ⟨place, []⟩ :: more)
    | n + 1 => follow (oneOrMore round greedy fuel) (exactly round n place)

-- ========================================================== matching

/-- Where a match of the pattern from a place can end, the preferred ending first. -/
def ends (text : Array Char) : Regex → Nat → List Ending
  | .empty, place => [⟨place, []⟩]
  | .one set, place =>
    match text[place]? with
    | some c => if set.has c then [⟨place + 1, []⟩] else []
    | none => []
  | .assertion kind, place =>
    if kind.holds (charBefore? text place) text[place]? then [⟨place, []⟩] else []
  | .seq first second, place => follow (ends text second) (ends text first place)
  | .alt first second, place => firstOfEach (ends text first place ++ ends text second place)
  | .many body least most greedy, place =>
    loopEnds (ends text body) least most greedy (text.size + 1) place
  | .capture name body, place =>
    (ends text body place).map fun e => ⟨e.place, (name, place, e.place) :: e.captures⟩

end TreeQuery.Regex
