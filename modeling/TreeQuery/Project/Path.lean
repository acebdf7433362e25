/-
Paths in a project: the names from its root down to a file or a directory. A path is written
with slashes between the names, and the empty path is the root.
-/

namespace TreeQuery

/-- The names from a project's root down. -/
abbrev ProjectPath := List String

namespace ProjectPath

/-- Whether a file or directory may have the name. -/
def isName (name : String) : Bool := name != "" && name != "." && name != ".."

/-- The path a text stands for, if all its names are allowed. Slashes at its start do not
count. -/
def parse? (text : String) : Option ProjectPath :=
  let names := ((text.toList.dropWhile (· == '/')).splitOn '/').map String.ofList
  if names.all isName then some names else none

/-- The path as it is written. -/
def write (path : ProjectPath) : String := String.intercalate "/" path

/-- Where the file or directory at the path stands in the tree. -/
def address (path : ProjectPath) : String := "/" ++ write path

/-- The name below `directory` on the way to `path`. -/
def nextName? (directory path : ProjectPath) : Option String :=
  if directory.isPrefixOf path then path[directory.length]? else none

end ProjectPath

end TreeQuery
