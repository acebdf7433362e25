/-
Configurations: how an engine is set up, which files a project takes in, and the types
defined by microgrammars and structural patterns. `Config.issues` lists all that is wrong
with the definitions, not only the first fault.
-/
import TreeQuery.Language
import TreeQuery.Project.Load

namespace TreeQuery

/-- A type defined by a microgrammar. -/
structure MicrogrammarDefinition where
  name : String
  grammar : String
  /-- The patterns of bindings, in ascending order of the bindings. -/
  submatchers : List (String × String) := []
deriving DecidableEq, Repr

/-- A type defined by a structural pattern. -/
structure PatternDefinition where
  name : String
  language : String
  pattern : String
deriving DecidableEq, Repr

/-- A configuration. -/
structure Config where
  dedupe : Bool := false
  /-- Whether the views of every language are known. -/
  defaultTypes : Bool := true
  load : LoadOptions := {}
  microgrammars : List MicrogrammarDefinition := []
  patterns : List PatternDefinition := []
deriving DecidableEq, Repr

/-- What is wrong with a definition. -/
inductive ConfigIssue where
  /-- A name of white space only. -/
  | blankName
  | duplicateName (name : String)
  | blankGrammar (name : String)
  | blankPattern (name : String)
  | unknownLanguage (name language : String)
deriving DecidableEq, Repr

namespace ConfigIssue

def message : ConfigIssue → String
  | .blankName => "type missing required field 'name'"
  | .duplicateName name => "type '" ++ name ++ "' is defined more than once"
  | .blankGrammar name => "type '" ++ name ++ "' missing required field 'grammar'"
  | .blankPattern name => "type '" ++ name ++ "' missing required field 'pattern'"
  | .unknownLanguage name language =>
    "pattern '" ++ name ++ "' uses unknown language '" ++ language ++ "'"

end ConfigIssue

namespace Config

/-- Whether a text is white space only. -/
def isBlank (text : String) : Bool := Text.isBlank text.toList

/-- The names of the defined types, microgrammars first. -/
def names (config : Config) : List String :=
  config.microgrammars.map (·.name) ++ config.patterns.map (·.name)

/-- What is wrong with names, given those before them. -/
def nameIssues : (seen : List String) → List String → List ConfigIssue
  | _, [] => []
  | seen, name :: rest =>
    if isBlank name then .blankName :: nameIssues seen rest
    else if seen.contains name then .duplicateName name :: nameIssues seen rest
    else nameIssues (name :: seen) rest

/-- What is wrong with a microgrammar, apart from its name. -/
def grammarIssues (definition : MicrogrammarDefinition) : List ConfigIssue :=
  if isBlank definition.grammar then [.blankGrammar definition.name] else []

/-- What is wrong with a pattern, apart from its name. -/
def patternIssues (definition : PatternDefinition) : List ConfigIssue :=
  (if isBlank definition.pattern then [.blankPattern definition.name] else []) ++
    if (Language.ofName? definition.language).isNone then
      [.unknownLanguage definition.name definition.language]
    else []

/-- All that is wrong with the definitions. -/
def issues (config : Config) : List ConfigIssue :=
  nameIssues [] config.names ++ config.microgrammars.flatMap grammarIssues ++
    config.patterns.flatMap patternIssues

end Config

end TreeQuery
