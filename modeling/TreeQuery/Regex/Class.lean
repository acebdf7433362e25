/-
Classes in brackets: members, ranges, named and nested classes, negation, and the set
operators `&&`, `--` and `~~`, which bind from the left and weaker than juxtaposition.
-/
import TreeQuery.Regex.Escape

namespace TreeQuery.Regex

/-- A set operator of a class. -/
inductive SetOperator where
  | intersection
  | difference
  | symmetricDifference
deriving DecidableEq, Repr

def SetOperator.apply (flags : Flags) (operator : SetOperator) (a b : CharSet) : CharSet :=
  let a := foldAndNegate flags false a
  let b := foldAndNegate flags false b
  match operator with
  | .intersection => a.inter b
  | .difference => a.diff b
  | .symmetricDifference => a.symmetricDiff b

/-- What has been read of a class: the operand and operator before, if any, and the members
since. -/
structure ClassSoFar where
  pending : Option (CharSet × SetOperator) := none
  members : CharSet := []

/-- The set read so far. -/
def ClassSoFar.value (flags : Flags) (soFar : ClassSoFar) : CharSet :=
  let members := CharSet.ofRanges soFar.members
  match soFar.pending with
  | none => members
  | some (left, operator) => operator.apply flags left members

def ClassSoFar.add (soFar : ClassSoFar) (set : CharSet) : ClassSoFar :=
  { soFar with members := set ++ soFar.members }

/-- One member of a class: a character as it stands, or an escape. -/
def readMember (flags : Flags) (ahead : List Char) : Option (Escape × List Char) :=
  match ahead with
  | [] => none
  | '\\' :: rest => readEscape flags rest
  | c :: rest =>
    if flags.unicode || c.toNat < 0x80 then some (.literal c, rest) else none

/-- A member, or a range between two of them. -/
def readRange (flags : Flags) (ahead : List Char) : Option (CharSet × List Char) := do
  let (first, rest) ← readMember flags ahead
  match skipSpace flags rest with
  | [] => none
  | '-' :: afterDash =>
    match skipSpace flags afterDash with
    | ']' :: _ | '-' :: _ => return (← alone first, '-' :: afterDash)
    | rest =>
      let (last, left) ← readMember flags rest
      match first, last with
      | .literal a, .literal b =>
        if a ≤ b then return (CharSet.range a.toNat b.toNat, left) else none
      | _, _ => none
  | rest => return (← alone first, rest)
where
  /-- The set of a member that stands alone. -/
  alone : Escape → Option CharSet
    | .literal c => some (CharSet.singleton c)
    | .set members => some members
    | _ => none

/-- A class name between `[:` and `:]`; nothing if what is ahead is no such name. -/
def readNamedClass (flags : Flags) (ahead : List Char) : Option (CharSet × List Char) := do
  match ahead with
  | '[' :: ':' :: rest =>
    let (negated, rest) := match rest with
      | '^' :: more => (true, more)
      | _ => (false, rest)
    let name := rest.takeWhile (· != ':')
    match rest.dropWhile (· != ':') with
    | ':' :: ']' :: left =>
      let set ← asciiClass? name
      return (foldAndNegate flags negated set, left)
    | _ => none
  | _ => none

/-- The hyphens at the start of a class, which stand for themselves. -/
def readLeadingDashes (flags : Flags) : Nat → List Char → Nat × List Char
  | 0, ahead => (0, ahead)
  | fuel + 1, ahead =>
    match ahead with
    | '-' :: rest =>
      let (n, left) := readLeadingDashes flags fuel (skipSpace flags rest)
      (n + 1, left)
    | _ => (0, ahead)

/-- What opens a class after its bracket: negation, and the characters that would mean
something further on. -/
def readClassOpening (flags : Flags) (ahead : List Char) : Bool × ClassSoFar × List Char :=
  let ahead := skipSpace flags ahead
  let (negated, ahead) := match ahead with
    | '^' :: rest => (true, skipSpace flags rest)
    | _ => (false, ahead)
  let (dashes, ahead) := readLeadingDashes flags ahead.length ahead
  if 0 < dashes then (negated, { members := CharSet.singleton '-' }, ahead)
  else match ahead with
    | ']' :: rest => (negated, { members := CharSet.singleton ']' }, skipSpace flags rest)
    | _ => (negated, {}, ahead)

/-- Reads the rest of a class up to its closing bracket. -/
def readClassRest (flags : Flags) :
    Nat → Bool → ClassSoFar → List Char → Option (CharSet × List Char)
  | 0, _, _, _ => none
  | fuel + 1, negated, soFar, ahead =>
    match skipSpace flags ahead with
    | [] => none
    | '[' :: rest =>
      match readNamedClass flags ('[' :: rest) with
      | some (set, left) => readClassRest flags fuel negated (soFar.add set) left
      | none => do
        let (inner, opening, rest) := readClassOpening flags rest
        let (set, left) ← readClassRest flags fuel inner opening rest
        readClassRest flags fuel negated (soFar.add set) left
    | ']' :: left => some (foldAndNegate flags negated (soFar.value flags), left)
    | '&' :: '&' :: rest => operate fuel negated soFar .intersection rest
    | '-' :: '-' :: rest => operate fuel negated soFar .difference rest
    | '~' :: '~' :: rest => operate fuel negated soFar .symmetricDifference rest
    | ahead => do
      let (set, left) ← readRange flags ahead
      readClassRest flags fuel negated (soFar.add set) left
where
  /-- Goes on after an operator. -/
  operate (fuel : Nat) (negated : Bool) (soFar : ClassSoFar) (operator : SetOperator)
      (rest : List Char) : Option (CharSet × List Char) :=
    readClassRest flags fuel negated { pending := some (soFar.value flags, operator) } rest

/-- Reads a class after its opening bracket. -/
def readClass (flags : Flags) (ahead : List Char) : Option (CharSet × List Char) :=
  let (negated, opening, rest) := readClassOpening flags ahead
  readClassRest flags (rest.length + 1) negated opening rest

end TreeQuery.Regex
