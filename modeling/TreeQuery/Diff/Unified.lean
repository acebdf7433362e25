/-
Unified diffs: the changes between two texts in hunks, each with a few kept lines around its
changes, and a header that says which lines it is about.
-/
import TreeQuery.Diff.Compact
import TreeQuery.Text.Lines

namespace TreeQuery.Diff

-- =============================================================== lines

/-- The lines of a text with their endings. A line ends after a line feed, or after a carriage
return that none follows. -/
def splitLines : List Char → List (List Char)
  | [] => []
  | '\r' :: '\n' :: rest => ['\r', '\n'] :: splitLines rest
  | c :: rest =>
    if c = '\n' || c = '\r' then [c] :: splitLines rest
    else match splitLines rest with
      | [] => [[c]]
      | line :: more => (c :: line) :: more

/-- Whether a line has an ending. -/
def endsLine (line : String) : Bool :=
  line.toList.getLast?.any fun c => c == '\n' || c == '\r'

-- ============================================================= changes

/-- A stretch of a script: kept lines, or the lines deleted and inserted at one place. -/
inductive Stretch where
  | kept (old new length : Nat)
  | changed (old oldLength new newLength : Nat)
deriving DecidableEq, Repr

namespace Stretch

def oldStart : Stretch → Nat
  | .kept old _ _ => old
  | .changed old _ _ _ => old

def oldStop : Stretch → Nat
  | .kept old _ length => old + length
  | .changed old length _ _ => old + length

def newStart : Stretch → Nat
  | .kept _ new _ => new
  | .changed _ _ new _ => new

def newStop : Stretch → Nat
  | .kept _ new length => new + length
  | .changed _ _ new length => new + length

end Stretch

/-- The stretch of the deleted and inserted runs at one place, if there are any: its old part is
that of the deleted runs and its new part that of the inserted ones. -/
def changeOf (deleted inserted : Option Run) : List Stretch :=
  match deleted, inserted with
  | some d, some i => [.changed d.old d.length i.new i.length]
  | some d, none => [.changed d.old d.length d.new 0]
  | none, some i => [.changed i.old 0 i.new i.length]
  | none, none => []

/-- The run before with another one of its fate added to its end. -/
def extend (before : Option Run) (run : Run) : Option Run :=
  match before with
  | some earlier => some (earlier.growDown run.length)
  | none => some run

/-- The stretches of runs, given the kept, deleted and inserted runs that no run of another sort
has followed yet. -/
def stretchesFrom : (kept deleted inserted : Option Run) → List Run → List Stretch
  | kept, deleted, inserted, [] => ofKept kept ++ changeOf deleted inserted
  | kept, deleted, inserted, run :: rest =>
    match run.fate with
    | .kept => changeOf deleted inserted ++ stretchesFrom (extend kept run) none none rest
    | .deleted => ofKept kept ++ stretchesFrom none (extend deleted run) inserted rest
    | .inserted => ofKept kept ++ stretchesFrom none deleted (extend inserted run) rest
where
  /-- The stretch of a kept run. -/
  ofKept : Option Run → List Stretch
    | some run => [.kept run.old run.new run.length]
    | none => []

/-- The stretches of a script. -/
def stretches (runs : List Run) : List Stretch := stretchesFrom none none none runs

-- =============================================================== hunks

/-- The last `radius` lines of a kept stretch. -/
def keepEnd (radius : Nat) : Stretch → Stretch
  | .kept old new length =>
    let skipped := length - radius
    .kept (old + skipped) (new + skipped) (length - skipped)
  | change => change

/-- The first `radius` lines of a kept stretch. -/
def keepStart (radius : Nat) : Stretch → Stretch
  | .kept old new length => .kept old new (min length radius)
  | change => change

/-- Divides stretches into hunks where many lines are kept, given those of the hunk under way. -/
def hunksFrom (radius : Nat) : (pending : List Stretch) → List Stretch → List (List Stretch)
  | pending, [] =>
    match pending with
    | [] => []
    | [.kept ..] => []
    | _ => [pending]
  | pending, stretch :: rest =>
    match stretch with
    | .kept _ _ length =>
      if length > 2 * radius then
        (pending ++ [keepStart radius stretch]) :: hunksFrom radius [keepEnd radius stretch] rest
      else hunksFrom radius (pending ++ [stretch]) rest
    | .changed .. => hunksFrom radius (pending ++ [stretch]) rest

/-- Changes the last element of a list. -/
def mapLast {α : Type} (f : α → α) : List α → List α
  | [] => []
  | [x] => [f x]
  | x :: rest => x :: mapLast f rest

/-- The hunks of a script, with up to `radius` kept lines around changes. -/
def hunks (radius : Nat) (script : List Stretch) : List (List Stretch) :=
  let trimmed := match script with
    | first :: rest => keepEnd radius first :: rest
    | [] => []
  hunksFrom radius [] (mapLast (keepStart radius) trimmed)

-- ============================================================== output

/-- A range of lines in a hunk's header. An empty range is named by the line before it. -/
def writeRange (start stop : Nat) : String :=
  let length := stop - start
  if length = 1 then toString (start + 1)
  else if length = 0 then toString start ++ ",0"
  else toString (start + 1) ++ "," ++ toString length

/-- The header of a hunk. -/
def writeHeader (hunk : List Stretch) : String :=
  match hunk.head?, hunk.getLast? with
  | some first, some last =>
    "@@ -" ++ writeRange first.oldStart last.oldStop ++ " +" ++
      writeRange first.newStart last.newStop ++ " @@\n"
  | _, _ => ""

/-- A line of a hunk. -/
def writeLine (mark line : String) : String :=
  mark ++ line ++ if endsLine line then "" else "\n\\ No newline at end of file\n"

/-- Some lines of a text, each with a mark. -/
def writeLines (mark : String) (text : Array String) (start length : Nat) : String :=
  String.join ((text.extract start (start + length)).toList.map (writeLine mark))

/-- A stretch of a hunk. -/
def writeStretch (old new : Array String) : Stretch → String
  | .kept start _ length => writeLines " " old start length
  | .changed oldStart oldLength newStart newLength =>
    writeLines "-" old oldStart oldLength ++ writeLines "+" new newStart newLength

/-- The unified diff of two texts under two names; nothing if they do not differ. -/
def unified (radius : Nat) (oldName newName oldText newText : String) : String :=
  let old := ((splitLines oldText.toList).map String.ofList).toArray
  let new := ((splitLines newText.toList).map String.ofList).toArray
  match hunks radius (stretches (compact old new (script old new))) with
  | [] => ""
  | found => "--- " ++ oldName ++ "\n+++ " ++ newName ++ "\n" ++
      String.join (found.map fun hunk =>
        writeHeader hunk ++ String.join (hunk.map (writeStretch old new)))

end TreeQuery.Diff
