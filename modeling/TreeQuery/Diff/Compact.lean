/-
Compacting edit scripts: every deleted run, and then every inserted run, is moved up past
the runs before it and down past those after it as far as it goes, so that runs of one fate
that meet become one. An inserted run moves past kept lines that equal its own last or first
ones; a deleted run moves past inserted ones only.
-/
import TreeQuery.Diff.Script

namespace TreeQuery.Diff

namespace Run

/-- The run with its start moved up by some lines. -/
def growUp (run : Run) (n : Nat) : Run :=
  { run with old := run.old - n, new := run.new - n, length := run.length + n }

/-- The run with its end moved down by some lines. -/
def growDown (run : Run) (n : Nat) : Run := { run with length := run.length + n }

/-- The run with its end moved up by some lines. -/
def shrinkUp (run : Run) (n : Nat) : Run := { run with length := run.length - n }

/-- The run with its start moved down by some lines. -/
def shrinkDown (run : Run) (n : Nat) : Run :=
  { run with old := run.old + n, new := run.new + n, length := run.length - n }

/-- The run moved up by some lines. -/
def moveUp (run : Run) (n : Nat) : Run := { run with old := run.old - n, new := run.new - n }

/-- The run moved down by some lines. -/
def moveDown (run : Run) (n : Nat) : Run := { run with old := run.old + n, new := run.new + n }

end Run

/-- A script seen from one of its runs: the runs before it, the nearest first, the run, and the
runs after it. -/
structure Focus where
  before : List Run
  run : Run
  after : List Run

/-- The weight of some runs: their lines and their number. Moving a run takes weight off the side
it moves to. -/
def weight (runs : List Run) : Nat := runs.foldr (fun run total => run.length + 1 + total) 0

variable (old new : Array String)

/-- Moves a run up as far as it goes, in no more than `fuel` moves. -/
def moveUp : Nat → Focus → Focus
  | 0, focus => focus
  | fuel + 1, focus =>
    match focus.before with
    | [] => focus
    | previous :: earlier =>
      if previous.fate = .kept then
        let same := commonBehind old new (previous.old + previous.oldLength)
          (focus.run.new + focus.run.newLength) (min previous.oldLength focus.run.newLength)
        if same = 0 then
          if previous.length = 0 then moveUp fuel { focus with before := earlier } else focus
        else
          let after := match focus.after with
            | next :: later =>
              if next.fate = .kept then next.growUp same :: later
              else ⟨.kept, previous.old + previous.oldLength - same,
                focus.run.new + focus.run.newLength - same, same⟩ :: next :: later
            | [] => [⟨.kept, previous.old + previous.oldLength - same,
                focus.run.new + focus.run.newLength - same, same⟩]
          let rest := previous.shrinkUp same
          let before := if rest.length = 0 then earlier else rest :: earlier
          moveUp fuel ⟨before, focus.run.moveUp same, after⟩
      else if previous.fate = focus.run.fate then
        moveUp fuel ⟨earlier, previous.growDown focus.run.length, focus.after⟩
      else moveUp fuel ⟨earlier, focus.run, previous :: focus.after⟩

/-- Moves a run down as far as it goes, in no more than `fuel` moves. -/
def moveDown : Nat → Focus → Focus
  | 0, focus => focus
  | fuel + 1, focus =>
    match focus.after with
    | [] => focus
    | next :: later =>
      if next.fate = .kept then
        let same := commonAhead old new next.old focus.run.new
          (min next.oldLength focus.run.newLength)
        if same = 0 then
          if next.length = 0 then moveDown fuel { focus with after := later } else focus
        else
          let before := match focus.before with
            | previous :: earlier =>
              if previous.fate = .kept then previous.growDown same :: earlier
              else ⟨.kept, next.old, focus.run.new, same⟩ :: previous :: earlier
            | [] => [⟨.kept, next.old, focus.run.new, same⟩]
          let rest := next.shrinkDown same
          let after := if rest.length = 0 then later else rest :: later
          moveDown fuel ⟨before, focus.run.moveDown same, after⟩
      else if next.fate = focus.run.fate then
        moveDown fuel ⟨focus.before, focus.run.growDown next.length, later⟩
      else moveDown fuel ⟨next :: focus.before, focus.run, later⟩

/-- Moves all runs of a fate that stand after those done, in no more than `fuel` steps. -/
def moveAll (fate : Fate) : Nat → (done ahead : List Run) → List Run
  | _, done, [] => done.reverse
  | 0, done, ahead => done.reverse ++ ahead
  | fuel + 1, done, run :: later =>
    if run.fate = fate then
      let high := moveUp old new (weight done) ⟨done, run, later⟩
      let low := moveDown old new (weight high.after) high
      moveAll fate fuel (low.run :: low.before) low.after
    else moveAll fate fuel (run :: done) later

/-- The script with its deleted and then its inserted runs moved. -/
def compact (runs : List Run) : List Run :=
  let steps (runs : List Run) : Nat := (weight runs + 1) * (weight runs + 1)
  let runs := moveAll old new .deleted (steps runs) [] runs
  moveAll old new .inserted (steps runs) [] runs

end TreeQuery.Diff
