/-
Engines made of the library's own types: views of languages, structural patterns and
microgrammars.

An engine takes any type that finds nodes. What is proved of evaluations is about the types
the library has, so those are named here as data (`BuiltIn`), and an engine made of them is
given by the registry of their names (`Engine.ofTypes`). Registering types and tags leads
from one such engine to another, and both engines to start from are such engines. A configuration
adds the types that it defines to one of them (`ofConfig_eq`), so the engine that it describes is
one too (`exists_ofTypes_of_ofConfig`).

Which names stand for something is known of the two engines to start from (`mem_names_bare`,
`mem_names_withLanguages`).
-/
import TreeQuery.Config.Engine
import TreeQuery.Proofs.Query.Names

namespace TreeQuery

-- ================================================= what can go wrong

section

variable {ε α β : Type} {result : Except ε α} {f : α → Except ε β}

theorem bind_eq_ok {y : β} (h : (result >>= f) = .ok y) : ∃ x, result = .ok x ∧ f x = .ok y := by
  cases result with
  | error e => cases h
  | ok x => exact ⟨x, rfl, h⟩

theorem bind_eq_error {e : ε} (h : (result >>= f) = .error e) :
    result = .error e ∨ ∃ x, result = .ok x ∧ f x = .error e := by
  cases result with
  | error other => exact .inl (congrArg Except.error (Except.error.inj h))
  | ok x => exact .inr ⟨x, rfl, h⟩

end

-- =============================================================== types

/-- A type of the library. -/
inductive BuiltIn where
  | language (language : Language)
  | pattern (name : String) (pattern : StructuralPattern)
  | microgrammar (grammar : Microgrammar)
deriving DecidableEq, Repr

namespace BuiltIn

/-- The name the type is registered under. -/
def name : BuiltIn → String
  | .language l => l.viewType
  | .pattern name _ => name
  | .microgrammar g => g.name

/-- How the type finds its members in a workspace. -/
def provider {grammars : Grammars} : BuiltIn → NodeType grammars
  | .language l => .ofLanguage l
  | .pattern name p => .ofPattern name p
  | .microgrammar g => .ofMicrogrammar g

theorem name_provider {grammars : Grammars} (type : BuiltIn) :
    (type.provider : NodeType grammars).name = type.name := by
  cases type with
  | language l => rfl
  | pattern name p => rfl
  | microgrammar g => rfl

/-- The type that a microgrammar of a configuration is, with what its patterns are read by. -/
def ofMicrogrammar [Regex.Reader] (definition : MicrogrammarDefinition) :
    Except EngineError BuiltIn :=
  match Microgrammar.compile definition.name definition.grammar definition.submatchers with
  | .error e => .error (.microgrammar e)
  | .ok grammar => .ok (.microgrammar grammar)

/-- The type that a pattern of a configuration is. -/
def ofPattern (definition : PatternDefinition) : Except EngineError BuiltIn :=
  match Language.parse definition.language with
  | .error e => .error (.node (.language e))
  | .ok known => .ok (.pattern definition.name ⟨known, definition.pattern⟩)

end BuiltIn

/-- The types that a configuration defines, or why the first that cannot be made is none. -/
def Config.types [Regex.Reader] (config : Config) : Except EngineError (List BuiltIn) := do
  let microgrammars ← config.microgrammars.mapM BuiltIn.ofMicrogrammar
  let patterns ← config.patterns.mapM BuiltIn.ofPattern
  return microgrammars ++ patterns

namespace Query.Registry

variable {π ρ : Type}

/-- The registry with something else under each name. -/
def map (f : π → ρ) (registry : Registry π) : Registry ρ where
  tags := registry.tags
  types := registry.types.map fun entry => (entry.1, f entry.2)

theorem type?_map (f : π → ρ) (registry : Registry π) (name : String) :
    (registry.map f).type? name = (registry.type? name).map f := by
  show List.lookup name (registry.types.map fun entry => (entry.1, f entry.2)) =
    (registry.types.lookup name).map f
  induction registry.types with
  | nil => rfl
  | cons entry types ih =>
      rw [List.map_cons, List.lookup_cons, List.lookup_cons]
      cases name == entry.1 with
      | true => rfl
      | false => exact ih

theorem isSome_resolve?_map (f : π → ρ) (registry : Registry π) (name : String) :
    ((registry.map f).resolve? name).isSome = (registry.resolve? name).isSome := by
  unfold resolve?
  rw [type?_map, show (registry.map f).isTag name = registry.isTag name from rfl]
  cases registry.type? name with
  | some type => rfl
  | none =>
      dsimp only [Option.map_none]
      split
      · rfl
      · rfl

theorem map_register (f : π → ρ) (registry : Registry π) (name : String) (type : π) :
    (registry.register name type).map f = (registry.map f).register name (f type) := by
  have hfilter : ∀ types : List (String × π),
      (types.filter (·.1 != name)).map (fun entry => (entry.1, f entry.2)) =
        (types.map fun entry => (entry.1, f entry.2)).filter (·.1 != name) := by
    intro types
    rw [List.filter_map]
    rfl
  unfold register map
  simp only [List.map_cons, hfilter]

end Query.Registry

namespace Engine

variable {grammars : Grammars}

/-- The engine that knows the given types and tags. -/
def ofTypes (grammars : Grammars) (types : Query.Registry BuiltIn) (dedupe : Bool) :
    Engine grammars := ⟨types.map BuiltIn.provider, dedupe⟩

theorem bare_eq_ofTypes : (bare : Engine grammars) = ofTypes grammars .core false := rfl

theorem addType_ofTypes (types : Query.Registry BuiltIn) (dedupe : Bool) (type : BuiltIn) :
    (ofTypes grammars types dedupe).addType type.provider =
      ofTypes grammars (types.register type.name type) dedupe := by
  unfold ofTypes addType
  rw [Query.Registry.map_register, BuiltIn.name_provider]

theorem addTags_ofTypes (types : Query.Registry BuiltIn) (dedupe : Bool) (tags : List String) :
    (ofTypes grammars types dedupe).addTags tags =
      ofTypes grammars (types.addTags tags) dedupe := rfl

theorem withLanguages_eq_ofTypes :
    (withLanguages : Engine grammars) = ofTypes grammars (Language.all.foldl
      (fun types language => (types.register language.viewType (.language language)).addTags
        language.tags) .core) false := by
  unfold withLanguages
  rw [bare_eq_ofTypes]
  generalize (Query.Registry.core : Query.Registry BuiltIn) = types
  induction Language.all generalizing types with
  | nil => rfl
  | cons language rest ih =>
      rw [List.foldl_cons, List.foldl_cons, ← ih, ← addTags_ofTypes]
      have hadd := @addType_ofTypes grammars types false (.language language)
      exact congrArg (fun engine : Engine grammars => rest.foldl
        (fun engine language => (engine.addType (.ofLanguage language)).addTags language.tags)
        (engine.addTags language.tags)) hadd

-- =============================================================== names

/-- The names known to an engine that knows the views of every language. -/
def knownNames : List String :=
  Query.Registry.coreTags ++ Language.all.flatMap fun language => language.viewType :: language.tags

theorem mem_names_bare {name : String} :
    name ∈ (bare : Engine grammars).registry.names ↔ name ∈ Query.Registry.coreTags :=
  Query.mem_sortedNames

theorem mem_names_withLanguages {name : String} :
    name ∈ (withLanguages : Engine grammars).registry.names ↔ name ∈ knownNames := by
  have hfold : ∀ (languages : List Language) (engine : Engine grammars),
      name ∈ (languages.foldl (fun engine language =>
        (engine.addType (.ofLanguage language)).addTags language.tags) engine).registry.names ↔
      name ∈ engine.registry.names ∨
        name ∈ languages.flatMap fun language => language.viewType :: language.tags := by
    intro languages
    induction languages with
    | nil => simp
    | cons language rest ih =>
        intro engine
        rw [List.foldl_cons, ih, List.flatMap_cons, List.mem_append, List.mem_cons]
        show (name ∈ ((engine.registry.register language.viewType _).addTags
          language.tags).names ∨ _) ↔ _
        rw [Query.Registry.mem_names_addTags, Query.Registry.mem_names_register]
        tauto
  rw [withLanguages, hfold, mem_names_bare, knownNames, List.mem_append]

-- ====================================================== configurations

/-- The engine with more types, one after the other. -/
def addTypes (engine : Engine grammars) (types : List BuiltIn) : Engine grammars :=
  types.foldl (fun engine type => engine.addType type.provider) engine

theorem addTypes_append (engine : Engine grammars) (earlier later : List BuiltIn) :
    engine.addTypes (earlier ++ later) = (engine.addTypes earlier).addTypes later :=
  List.foldl_append

/-- Whatever reads definitions one by one, and adds the type of each before it goes on, adds them
all if each can be read. -/
theorem eq_addTypes_of_each {δ : Type} {read : δ → Except EngineError BuiltIn}
    {add : Engine grammars → List δ → Except EngineError (Engine grammars)}
    (done : ∀ engine, add engine [] = .ok engine)
    (more : ∀ engine definition rest, add engine (definition :: rest) =
      read definition >>= fun type => add (engine.addType type.provider) rest)
    (engine : Engine grammars) (definitions : List δ) :
    add engine definitions = (definitions.mapM read).map engine.addTypes := by
  induction definitions generalizing engine with
  | nil => exact done engine
  | cons definition rest ih =>
      rw [more, List.mapM_cons]
      cases read definition with
      | error e => rfl
      | ok type =>
          show add (engine.addType type.provider) rest = _
          rw [ih]
          cases rest.mapM read with
          | error e => rfl
          | ok types => rfl

theorem addMicrogrammars_eq [Regex.Reader] (engine : Engine grammars)
    (definitions : List MicrogrammarDefinition) :
    engine.addMicrogrammars definitions =
      (definitions.mapM BuiltIn.ofMicrogrammar).map engine.addTypes := by
  refine eq_addTypes_of_each (fun _ => rfl) (fun engine definition rest => ?_) engine definitions
  rw [addMicrogrammars]
  unfold BuiltIn.ofMicrogrammar
  cases Microgrammar.compile definition.name definition.grammar definition.submatchers with
  | error e => rfl
  | ok grammar => rfl

theorem addPatterns_eq (engine : Engine grammars) (definitions : List PatternDefinition) :
    engine.addPatterns definitions =
      (definitions.mapM BuiltIn.ofPattern).map engine.addTypes := by
  refine eq_addTypes_of_each (fun _ => rfl) (fun engine definition rest => ?_) engine definitions
  rw [addPatterns]
  unfold BuiltIn.ofPattern
  cases Language.parse definition.language with
  | error e => rfl
  | ok known => rfl

/-- The engine that a configuration starts from. -/
def start (grammars : Grammars) (config : Config) : Engine grammars :=
  { (if config.defaultTypes then withLanguages else bare) with dedupe := config.dedupe }

/-- A configuration adds the types that it defines, if they can all be made. -/
theorem ofConfig_eq [Regex.Reader] (config : Config) :
    ofConfig config = config.types.map (start grammars config).addTypes := by
  show ((start grammars config).addMicrogrammars config.microgrammars >>= _) = _
  rw [addMicrogrammars_eq]
  unfold Config.types
  cases config.microgrammars.mapM BuiltIn.ofMicrogrammar with
  | error e => rfl
  | ok microgrammars =>
      show addPatterns _ config.patterns = _
      rw [addPatterns_eq]
      cases config.patterns.mapM BuiltIn.ofPattern with
      | error e => rfl
      | ok patterns => exact congrArg Except.ok (addTypes_append _ _ _).symm

end Engine

end TreeQuery
