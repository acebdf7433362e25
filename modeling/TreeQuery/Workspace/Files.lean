/-
The files of a workspace as wholes: adding them, editing their documents, and saving.
-/
import TreeQuery.Text.Substring
import TreeQuery.Workspace.Text

namespace TreeQuery.Act

variable {grammars : Grammars}

/-- Adds a file, and says at which path. -/
def addFile (path content : String) : Act grammars (Except ProjectError ProjectPath) := do
  let w ← get
  match w.project.add path content with
  | .error e => return .error e
  | .ok (file, project) =>
    set { w with project }
    return .ok file

/-- Replaces every occurrence of a text in a file, and says how many there were. The empty text
occurs nowhere. -/
def replaceInFile (file : ProjectPath) (old new : String) : Act grammars Nat := do
  let content := (← get).content file
  let (text, count) := Text.replaceCount old.toList new.toList content.toList
  if count = 0 then return 0
  setContent file (String.ofList text)
  return count

/-- Applies an edit to the document of a file. -/
def applyEdit (file : ProjectPath) (edit : Edit) :
    Act grammars (Except EditError EditOutcome) := do
  let w ← get
  match (w.document file).apply edit with
  | .error e => return .error e
  | .ok (outcome, document) =>
    set (w.setDocument file document)
    return .ok outcome

/-- Takes a file as saved. -/
def markClean (file : ProjectPath) : Act grammars Unit :=
  modify fun w => w.setDocument file (w.document file).markClean

end TreeQuery.Act
