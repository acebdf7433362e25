/-
Edit scripts between two lists of lines: runs of lines kept, deleted or inserted, found by
divide and conquer. What two ranges have in common at their ends is kept; between those, a
point on a shortest way from one corner to the other is found by searching from both
corners at once, and the two halves are treated in the same way.
-/

namespace TreeQuery.Diff

/-- What becomes of the lines of a run. -/
inductive Fate where
  | kept
  | deleted
  | inserted
deriving DecidableEq, Repr

/-- A run of lines with one fate. A deleted run stands before line `new` of the new text, an
inserted one before line `old` of the old text. -/
structure Run where
  fate : Fate
  old : Nat
  new : Nat
  length : Nat
deriving DecidableEq, Repr

namespace Run

/-- How many lines of the old text the run covers. -/
def oldLength (run : Run) : Nat := if run.fate = .inserted then 0 else run.length

/-- How many lines of the new text the run covers. -/
def newLength (run : Run) : Nat := if run.fate = .deleted then 0 else run.length

end Run

/-- Two parts of two texts: where they start and how many lines they have. -/
structure Region where
  old : Nat
  oldLength : Nat
  new : Nat
  newLength : Nat
deriving DecidableEq, Repr

variable (old new : Array String)

/-- How many lines two texts have in common from two places on, at most `limit`. -/
def commonAhead (i j : Nat) : Nat → Nat
  | 0 => 0
  | limit + 1 =>
    if i < old.size && old[i]? = new[j]? then commonAhead (i + 1) (j + 1) limit + 1 else 0

/-- How many lines two texts have in common up to two places, at most `limit`. -/
def commonBehind (i j : Nat) : Nat → Nat
  | 0 => 0
  | limit + 1 =>
    if 0 < i && 0 < j && i ≤ old.size && old[i - 1]? = new[j - 1]? then
      commonBehind (i - 1) (j - 1) limit + 1
    else 0

namespace Region

/-- How many lines a region has in common at its start. -/
def leading (region : Region) : Nat :=
  commonAhead old new region.old region.new (min region.oldLength region.newLength)

/-- How many lines a region has in common at its end. -/
def trailing (region : Region) : Nat :=
  commonBehind old new (region.old + region.oldLength) (region.new + region.newLength)
    (min region.oldLength region.newLength)

end Region

-- ======================================================== middle point

/-- For each diagonal, how far along the old text the search has come on it. -/
structure Frontier where
  offset : Nat
  reached : Array Int

namespace Frontier

/-- A frontier for up to `steps` steps, at the start. -/
def start (steps : Nat) : Frontier := ⟨steps + 1, Array.replicate (2 * steps + 3) 0⟩

def get (frontier : Frontier) (diagonal : Int) : Int :=
  frontier.reached.getD (diagonal + frontier.offset).toNat 0

def set (frontier : Frontier) (diagonal x : Int) : Frontier :=
  { frontier with reached := frontier.reached.setIfInBounds (diagonal + frontier.offset).toNat x }

/-- Where the search enters a diagonal at its `d`-th step: from the neighbour above by a line of
the new text, or from the one below by a line of the old text. -/
def enter (frontier : Frontier) (d diagonal : Int) : Int :=
  if diagonal = -d ||
      (diagonal != d && frontier.get (diagonal - 1) < frontier.get (diagonal + 1)) then
    frontier.get (diagonal + 1)
  else frontier.get (diagonal - 1) + 1

end Frontier

/-- The diagonals that the `d`-th step looks at, from the top down. -/
def diagonals (d : Nat) : List Int :=
  (List.range (d + 1)).map fun k : Nat => (d : Int) - 2 * (k : Int)

/-- How many steps from both corners are enough. -/
def stepLimit (region : Region) : Nat := (region.oldLength + region.newLength + 1) / 2 + 1

/-- The `d`-th step from the start of a region: the new frontier, or the point where it meets that
of the search from the end. -/
def stepAhead (region : Region) (d : Nat) (ahead behind : Frontier) :
    Except (Nat × Nat) Frontier :=
  let delta : Int := (region.oldLength : Int) - region.newLength
  (diagonals d).foldlM (fun frontier k =>
    let x := frontier.enter d k
    let y := x - k
    let run :=
      if x < region.oldLength && 0 ≤ y && y < region.newLength then
        commonAhead old new (region.old + x.toNat) (region.new + y.toNat)
          (min (region.oldLength - x.toNat) (region.newLength - y.toNat))
      else 0
    let frontier := frontier.set k (x + run)
    if delta % 2 = 1 && (k - delta).natAbs + 1 ≤ d &&
        x + run + behind.get (-(k - delta)) ≥ region.oldLength then
      .error (region.old + x.toNat, region.new + y.toNat)
    else .ok frontier) ahead

/-- The `d`-th step from the end of a region. -/
def stepBehind (region : Region) (d : Nat) (ahead behind : Frontier) :
    Except (Nat × Nat) Frontier :=
  let delta : Int := (region.oldLength : Int) - region.newLength
  (diagonals d).foldlM (fun frontier k =>
    let x := frontier.enter d k
    let y := x - k
    let run :=
      if x < region.oldLength && 0 ≤ y && y < region.newLength then
        commonBehind old new (region.old + region.oldLength - x.toNat)
          (region.new + region.newLength - y.toNat)
          (min (region.oldLength - x.toNat) (region.newLength - y.toNat))
      else 0
    let frontier := frontier.set k (x + run)
    if delta % 2 = 0 && (k - delta).natAbs ≤ d &&
        x + run + ahead.get (-(k - delta)) ≥ region.oldLength then
      .error (region.old + (region.oldLength - (x + run)).toNat,
        region.new + (region.newLength - (y + run)).toNat)
    else .ok frontier) behind

/-- A point on a shortest way through a region, unless it takes more steps than there are left. -/
def middle? (region : Region) : (left d : Nat) → (ahead behind : Frontier) → Option (Nat × Nat)
  | 0, _, _, _ => none
  | left + 1, d, ahead, behind =>
    match stepAhead old new region d ahead behind with
    | .error point => some point
    | .ok ahead =>
      match stepBehind old new region d ahead behind with
      | .error point => some point
      | .ok behind => middle? region left (d + 1) ahead behind

-- =============================================================== script

/-- A run, unless it is empty. -/
def runOf (fate : Fate) (old new length : Nat) : List Run :=
  if length = 0 then [] else [⟨fate, old, new, length⟩]

/-- The script of a region that is divided no more than `fuel` times on the way to any line. -/
def scriptWithin : Nat → Region → List Run
  | fuel, region =>
    let leading := region.leading old new
    let inner : Region := ⟨region.old + leading, region.oldLength - leading,
      region.new + leading, region.newLength - leading⟩
    let trailing := inner.trailing old new
    let core : Region := { inner with
      oldLength := inner.oldLength - trailing
      newLength := inner.newLength - trailing }
    let replaced := runOf .deleted core.old core.new core.oldLength ++
      runOf .inserted core.old core.new core.newLength
    let between :=
      if core.oldLength = 0 || core.newLength = 0 then replaced
      else
        let limit := stepLimit core
        let start := Frontier.start limit
        match fuel, middle? old new core limit 0 start start with
        | fuel + 1, some (x, y) =>
          scriptWithin fuel ⟨core.old, x - core.old, core.new, y - core.new⟩ ++
            scriptWithin fuel ⟨x, core.old + core.oldLength - x, y,
              core.new + core.newLength - y⟩
        | _, _ => replaced
    runOf .kept region.old region.new leading ++ between ++
      runOf .kept (core.old + core.oldLength) (core.new + core.newLength) trailing

/-- A shortest edit script between two texts. -/
def script : List Run :=
  scriptWithin old new (old.size + new.size) ⟨0, old.size, 0, new.size⟩

end TreeQuery.Diff
