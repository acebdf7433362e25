/-
The engine that a configuration describes: the standard types if they are wanted, then the
microgrammars, then the structural patterns. A later definition replaces an earlier one.
-/
import TreeQuery.Config.Basic
import TreeQuery.Engine

namespace TreeQuery.Engine

variable {grammars : Grammars} [Regex.Reader]

/-- The engine with the types of microgrammars. -/
def addMicrogrammars (engine : Engine grammars) :
    List MicrogrammarDefinition → Except EngineError (Engine grammars)
  | [] => .ok engine
  | definition :: rest =>
    match Microgrammar.compile definition.name definition.grammar definition.submatchers with
    | .error e => .error (.microgrammar e)
    | .ok grammar => addMicrogrammars (engine.addType (.ofMicrogrammar grammar)) rest

/-- The engine with the types of structural patterns. -/
def addPatterns (engine : Engine grammars) :
    List PatternDefinition → Except EngineError (Engine grammars)
  | [] => .ok engine
  | definition :: rest =>
    match Language.parse definition.language with
    | .error e => .error (.node (.language e))
    | .ok language =>
      let pattern := ⟨language, definition.pattern⟩
      addPatterns (engine.addType (.ofPattern definition.name pattern)) rest

/-- The engine of a configuration. -/
def ofConfig (config : Config) : Except EngineError (Engine grammars) := do
  let start : Engine grammars := if config.defaultTypes then withLanguages else bare
  let engine ← addMicrogrammars { start with dedupe := config.dedupe } config.microgrammars
  addPatterns engine config.patterns

end TreeQuery.Engine
