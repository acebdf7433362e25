/-
The languages whose files can be viewed as trees: how a file's path tells its language,
the names a language goes by, and the type and tags of its view.
-/
import TreeQuery.Text.Lines

namespace TreeQuery

/-- A language with a view of its files. -/
inductive Language where
  | rust
  | java
  | scala
  | python
  | yaml
deriving DecidableEq, Repr

namespace Language

/-- Every language, in the order in which they are offered. -/
def all : List Language := [.rust, .java, .scala, .python, .yaml]

def name : Language → String
  | .rust => "rust"
  | .java => "java"
  | .scala => "scala"
  | .python => "python"
  | .yaml => "yaml"

/-- The extensions of the language's files. -/
def extensions : Language → List String
  | .rust => ["rs"]
  | .java => ["java"]
  | .scala => ["scala", "sc"]
  | .python => ["py"]
  | .yaml => ["yml", "yaml"]

/-- The word the names of the language's types start with. -/
def stem : Language → String
  | .rust => "Rust"
  | .java => "Java"
  | .scala => "Scala"
  | .python => "Python"
  | .yaml => "Yaml"

/-- The type of a file's view. -/
def viewType (language : Language) : String := language.stem ++ "File"

/-- The tag every node of a view carries. -/
def nodeTag (language : Language) : String := language.stem ++ "Node"

/-- The tags nodes of a view can carry. -/
def tags (language : Language) : List String :=
  language.nodeTag :: match language with
    | .yaml => ["YamlKeyValue", "YamlString", "YamlMap", "YamlSequence"]
    | _ => []

/-- The letters A to Z in lower case, and all else as it is. -/
def lowerAscii (text : List Char) : List Char := text.map Char.toLower

/-- The language whose files have an extension, in any case of letters. -/
def ofExtension? (extension : String) : Option Language :=
  let extension := String.ofList (lowerAscii extension.toList)
  all.find? fun language => language.extensions.contains extension

/-- The part of a path after its last slash. -/
def fileName (path : List Char) : List Char := (path.reverse.takeWhile (· != '/')).reverse

/-- The extension of a path: what follows the last dot of its file name, unless the dot is the
first character of the name or there is none. -/
def extension? (path : String) : Option String :=
  let reversed := (fileName path.toList).reverse
  match reversed.dropWhile (· != '.') with
  | _ :: _ :: _ => some (String.ofList (reversed.takeWhile (· != '.')).reverse)
  | _ => none

/-- The language of a path, by its extension. -/
def ofPath? (path : String) : Option Language := (extension? path).bind ofExtension?

/-- The language a name or short name stands for, in any case of letters. -/
def ofName? (text : String) : Option Language :=
  match String.ofList (lowerAscii (Text.trim text.toList)) with
  | "rust" | "rs" => some .rust
  | "java" => some .java
  | "scala" => some .scala
  | "python" | "py" => some .python
  | "yaml" | "yml" => some .yaml
  | _ => none

end Language

/-- A name that is no language's. -/
structure UnknownLanguage where
  name : String
deriving DecidableEq, Repr

def UnknownLanguage.message (e : UnknownLanguage) : String :=
  "unsupported language '" ++ e.name ++ "' (expected one of " ++
    String.intercalate ", " (Language.all.map Language.name) ++ ")"

/-- The language of a name. -/
def Language.parse (text : String) : Except UnknownLanguage Language :=
  match Language.ofName? text with
  | some language => .ok language
  | none => .error ⟨text⟩

end TreeQuery
