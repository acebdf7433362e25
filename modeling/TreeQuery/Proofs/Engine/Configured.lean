/-
Engines of configurations.

# What is built

A configuration of which nothing is reported can only fail to be built by a microgrammar with a
fault of its own, for its languages have been read before and its grammars hold something. One of
the faults is a pattern that cannot be read; which patterns these are is up to what reads them, and
what is said here holds for any reader. If no microgrammar has a fault, there is an engine. Types
are registered one after the other, so a name stands for the last of its types
(`type?_addTypes_of_mem`); since the names are all different, each stands for its own definition,
whatever else is known by that name (`Config.Describes`).

# What can be named

A type can be asked for if an expression can name it. An engine takes types of any name, but an
expression names types by names of its own. So a type of a configuration can be asked for exactly
if its name is one of these (`nameable_of_parse`), and a configuration may well define others.
-/
import TreeQuery.Config.Read
import TreeQuery.Proofs.Config.Issues
import TreeQuery.Proofs.Engine.Types
import TreeQuery.Proofs.Expression.Naming
import TreeQuery.Proofs.Microgrammar.Faults
import TreeQuery.Proofs.Microgrammar.Language
import TreeQuery.Proofs.Session.Basic

namespace TreeQuery

variable {grammars : Grammars}

-- ========================================================== all or none

section

variable {α β ε : Type} {f : α → Except ε β} {xs : List α} {ys : List β}

theorem forall₂_of_mapM (h : xs.mapM f = .ok ys) :
    List.Forall₂ (fun x y => f x = .ok y) xs ys := by
  induction xs generalizing ys with
  | nil =>
      obtain rfl := Except.ok.inj h
      exact .nil
  | cons x xs ih =>
      rw [List.mapM_cons] at h
      obtain ⟨y, hy, h⟩ := bind_eq_ok h
      obtain ⟨rest, hrest, h⟩ := bind_eq_ok h
      obtain rfl := Except.ok.inj h
      exact .cons hy (ih hrest)

theorem exists_of_mapM_error {e : ε} (h : xs.mapM f = .error e) : ∃ x ∈ xs, f x = .error e := by
  induction xs with
  | nil => cases h
  | cons x xs ih =>
      rw [List.mapM_cons] at h
      rcases bind_eq_error h with hx | ⟨y, -, h⟩
      · exact ⟨x, List.mem_cons_self, hx⟩
      · rcases bind_eq_error h with hxs | ⟨rest, -, h⟩
        · obtain ⟨other, ho, he⟩ := ih hxs
          exact ⟨other, List.mem_cons_of_mem _ ho, he⟩
        · cases h

end

-- ========================================================== definitions

theorem BuiltIn.ofPattern_eq_ok_iff {definition : PatternDefinition} {type : BuiltIn} :
    ofPattern definition = .ok type ↔ ∃ known, Language.parse definition.language = .ok known ∧
      type = .pattern definition.name ⟨known, definition.pattern⟩ := by
  unfold ofPattern
  cases Language.parse definition.language with
  | error e => simp
  | ok known => simp [eq_comm]

section

variable [Regex.Reader]

namespace BuiltIn

theorem ofMicrogrammar_eq_ok_iff {definition : MicrogrammarDefinition} {type : BuiltIn} :
    ofMicrogrammar definition = .ok type ↔ ∃ grammar,
      Microgrammar.compile definition.name definition.grammar definition.submatchers =
        .ok grammar ∧ type = .microgrammar grammar := by
  unfold ofMicrogrammar
  cases Microgrammar.compile definition.name definition.grammar definition.submatchers with
  | error e => simp
  | ok grammar => simp [eq_comm]

theorem ofMicrogrammar_eq_error_iff {definition : MicrogrammarDefinition} {e : EngineError} :
    ofMicrogrammar definition = .error e ↔ ∃ fault,
      Microgrammar.compile definition.name definition.grammar definition.submatchers =
        .error fault ∧ e = .microgrammar fault := by
  unfold ofMicrogrammar
  cases Microgrammar.compile definition.name definition.grammar definition.submatchers with
  | error fault => simp [eq_comm]
  | ok grammar => simp

end BuiltIn

namespace Config

variable {config : Config} {types : List BuiltIn}

/-- The types that a configuration defines, in its order. -/
theorem types_eq_ok (h : config.types = .ok types) : ∃ microgrammars patterns,
    types = microgrammars ++ patterns ∧
    List.Forall₂ (fun definition type => BuiltIn.ofMicrogrammar definition = .ok type)
      config.microgrammars microgrammars ∧
    List.Forall₂ (fun definition type => BuiltIn.ofPattern definition = .ok type)
      config.patterns patterns := by
  obtain ⟨microgrammars, hm, h⟩ := bind_eq_ok h
  obtain ⟨patterns, hp, h⟩ := bind_eq_ok h
  exact ⟨microgrammars, patterns, (Except.ok.inj h).symm, forall₂_of_mapM hm, forall₂_of_mapM hp⟩

/-- What stops a configuration is one of its definitions. -/
theorem types_eq_error {e : EngineError} (h : config.types = .error e) :
    (∃ definition ∈ config.microgrammars, BuiltIn.ofMicrogrammar definition = .error e) ∨
      ∃ definition ∈ config.patterns, BuiltIn.ofPattern definition = .error e := by
  rcases bind_eq_error h with hm | ⟨microgrammars, -, h⟩
  · exact .inl (exists_of_mapM_error hm)
  · rcases bind_eq_error h with hp | ⟨patterns, -, h⟩
    · exact .inr (exists_of_mapM_error hp)
    · cases h

/-- A type goes by the name in its definition. -/
theorem names_types (h : config.types = .ok types) : types.map BuiltIn.name = config.names := by
  obtain ⟨microgrammars, patterns, rfl, hm, hp⟩ := types_eq_ok h
  rw [List.map_append, names]
  congr 1
  · refine (map_eq_of_forall₂ hm fun definition type htype => ?_).symm
    obtain ⟨grammar, hgrammar, rfl⟩ := BuiltIn.ofMicrogrammar_eq_ok_iff.1 htype
    exact (Microgrammar.name_of_compile hgrammar).symm
  · refine (map_eq_of_forall₂ hp fun definition type htype => ?_).symm
    obtain ⟨known, -, rfl⟩ := BuiltIn.ofPattern_eq_ok_iff.1 htype
    rfl

end Config

end

-- ============================================================ registries

namespace Engine

variable {engine : Engine grammars} {types : List BuiltIn} {name : String}

theorem registry_addType (engine : Engine grammars) (type : BuiltIn) :
    (engine.addType type.provider).registry =
      engine.registry.register type.name type.provider := by
  rw [addType, BuiltIn.name_provider]

theorem addTypes_cons (engine : Engine grammars) (type : BuiltIn) (rest : List BuiltIn) :
    engine.addTypes (type :: rest) = (engine.addType type.provider).addTypes rest := rfl

theorem dedupe_addTypes (engine : Engine grammars) (types : List BuiltIn) :
    (engine.addTypes types).dedupe = engine.dedupe := by
  induction types generalizing engine with
  | nil => rfl
  | cons type rest ih => rw [addTypes_cons, ih, addType]

theorem mem_names_addTypes : name ∈ (engine.addTypes types).registry.names ↔
    name ∈ types.map BuiltIn.name ∨ name ∈ engine.registry.names := by
  induction types generalizing engine with
  | nil => simp [addTypes]
  | cons type rest ih =>
      rw [addTypes_cons, ih, registry_addType, Query.Registry.mem_names_register, List.map_cons,
        List.mem_cons, or_left_comm, or_assoc]

theorem type?_addTypes_of_not_mem (h : name ∉ types.map BuiltIn.name) :
    (engine.addTypes types).registry.type? name = engine.registry.type? name := by
  induction types generalizing engine with
  | nil => rfl
  | cons type rest ih =>
      obtain ⟨hne, hrest⟩ := not_or.1 (mt List.mem_cons.2 h)
      rw [addTypes_cons, ih hrest, registry_addType, Query.Registry.type?_register, if_neg hne]

/-- Of types with different names, each is registered under its own. -/
theorem type?_addTypes_of_mem (distinct : (types.map BuiltIn.name).Nodup) {type : BuiltIn}
    (h : type ∈ types) :
    (engine.addTypes types).registry.type? type.name = some type.provider := by
  induction types generalizing engine with
  | nil => cases h
  | cons first rest ih =>
      obtain ⟨hfirst, hrest⟩ := List.nodup_cons.1 distinct
      rw [addTypes_cons]
      rcases List.mem_cons.1 h with rfl | h
      · rw [type?_addTypes_of_not_mem hfirst, registry_addType, Query.Registry.type?_register,
          if_pos rfl]
      · exact ih hrest h

end Engine

-- ======================================================== configurations

namespace Config

variable {config : Config} {engine : Engine grammars} {name : String}

/-- The names that are known whatever a configuration defines. -/
def builtInNames (config : Config) : List String :=
  if config.defaultTypes then Engine.knownNames else Query.Registry.coreTags

theorem mem_names_start :
    name ∈ (Engine.start grammars config).registry.names ↔ name ∈ config.builtInNames := by
  unfold Engine.start builtInNames
  split
  · exact Engine.mem_names_withLanguages
  · exact Engine.mem_names_bare

section

variable [Regex.Reader]

/-- The engine knows the names that the configuration defines besides those that are built in, and
each stands for its own definition. -/
structure Describes (config : Config) (engine : Engine grammars) : Prop where
  dedupe : engine.dedupe = config.dedupe
  microgrammars : ∀ definition ∈ config.microgrammars, ∃ grammar,
    Microgrammar.compile definition.name definition.grammar definition.submatchers = .ok grammar ∧
      engine.registry.resolve? definition.name =
        some (.registered definition.name (.ofMicrogrammar grammar))
  patterns : ∀ definition ∈ config.patterns, ∃ language,
    Language.parse definition.language = .ok language ∧
      engine.registry.resolve? definition.name =
        some (.registered definition.name (.ofPattern definition.name
          ⟨language, definition.pattern⟩))
  ascending : engine.registry.typeNames.Pairwise (· < ·)
  listed : ∀ name, name ∈ engine.registry.typeNames ↔
    name ∈ config.names ∨ name ∈ config.builtInNames

/-- An engine that has been built for a configuration without repeated names is the one that it
describes. -/
theorem describes_of_ofConfig (distinct : config.names.Nodup)
    (h : Engine.ofConfig config = .ok engine) : config.Describes engine := by
  rw [Engine.ofConfig_eq] at h
  cases htypes : config.types with
  | error e =>
      rw [htypes] at h
      cases h
  | ok types =>
      rw [htypes] at h
      obtain rfl := Except.ok.inj h
      have hnames := names_types htypes
      have hregistered : ∀ type ∈ types,
          ((Engine.start grammars config).addTypes types).registry.resolve? type.name =
            some (.registered type.name type.provider) := fun type ht =>
        Query.Registry.resolve?_of_type? (Engine.type?_addTypes_of_mem (hnames ▸ distinct) ht)
      obtain ⟨microgrammars, patterns, rfl, hm, hp⟩ := types_eq_ok htypes
      refine ⟨Engine.dedupe_addTypes _ _, fun definition hd => ?_, fun definition hd => ?_,
        Query.Registry.pairwise_typeNames _, fun name => ?_⟩
      · obtain ⟨type, ht, htype⟩ := exists_of_forall₂ hm definition hd
        obtain ⟨grammar, hgrammar, rfl⟩ := BuiltIn.ofMicrogrammar_eq_ok_iff.1 htype
        have hresolved := hregistered _ (List.mem_append_left _ ht)
        rw [show (BuiltIn.microgrammar grammar).name = definition.name from
          Microgrammar.name_of_compile hgrammar] at hresolved
        exact ⟨grammar, hgrammar, hresolved⟩
      · obtain ⟨type, ht, htype⟩ := exists_of_forall₂ hp definition hd
        obtain ⟨language, hlanguage, rfl⟩ := BuiltIn.ofPattern_eq_ok_iff.1 htype
        exact ⟨language, hlanguage, hregistered _ (List.mem_append_right _ ht)⟩
      · rw [Query.Registry.mem_typeNames, Engine.mem_names_addTypes, hnames, mem_names_start]

/-- What stops a valid configuration is a microgrammar, and not that it holds nothing. -/
theorem fault_of_ofConfig (valid : config.Valid) {e : EngineError}
    (h : (Engine.ofConfig config : Except EngineError (Engine grammars)) = .error e) :
    ∃ definition ∈ config.microgrammars, ∃ fault, e = .microgrammar fault ∧
      Microgrammar.compile definition.name definition.grammar definition.submatchers =
        .error fault ∧ ∀ name, fault ≠ .emptyGrammar name := by
  rw [Engine.ofConfig_eq] at h
  cases htypes : config.types with
  | ok types =>
      rw [htypes] at h
      cases h
  | error other =>
      rw [htypes] at h
      obtain rfl := Except.error.inj h
      rcases types_eq_error htypes with ⟨definition, hd, he⟩ | ⟨definition, hd, he⟩
      · obtain ⟨fault, hfault, rfl⟩ := BuiltIn.ofMicrogrammar_eq_error_iff.1 he
        refine ⟨definition, hd, fault, rfl, hfault, ?_⟩
        rintro name rfl
        have hblank : isBlank definition.grammar = true :=
          Microgrammar.isBlank_of_emptyGrammar hfault
        rw [valid.grammars definition hd] at hblank
        cases hblank
      · obtain ⟨language, hlanguage⟩ := valid.languages definition hd
        rw [BuiltIn.ofPattern_eq_ok_iff.2 ⟨language, hlanguage, rfl⟩] at he
        cases he

/-- A valid configuration is stopped by a microgrammar with a fault, and by nothing else. -/
theorem ofConfig_eq_error_iff (grammars : Grammars) (valid : config.Valid) :
    (∃ e, (Engine.ofConfig config : Except EngineError (Engine grammars)) = .error e) ↔
      ∃ definition ∈ config.microgrammars,
        Microgrammar.Faulty definition.grammar definition.submatchers := by
  constructor
  · rintro ⟨e, he⟩
    obtain ⟨definition, hd, fault, -, hfault, -⟩ := fault_of_ofConfig valid he
    exact ⟨definition, hd,
      (Microgrammar.compile_eq_error_iff (valid.grammars definition hd)).1 ⟨fault, hfault⟩⟩
  · rintro ⟨definition, hd, hfaulty⟩
    cases hbuilt : (Engine.ofConfig config : Except EngineError (Engine grammars)) with
    | error e => exact ⟨e, rfl⟩
    | ok engine =>
        obtain ⟨grammar, hgrammar, -⟩ :=
          (describes_of_ofConfig valid.distinct hbuilt).microgrammars definition hd
        exact absurd hfaulty (Microgrammar.not_faulty_of_compile hgrammar)

/-- Nothing is reported of a configuration exactly if it is valid, and of any other one issue for
each of its faults. Such a configuration describes an engine, unless one of its microgrammars has a
sign without a name, a repeated binding or a pattern that cannot be read; and that is the only
reason why there is none. This is so whichever patterns the reader accepts. -/
theorem engine_of_issues (grammars : Grammars) (config : Config) :
    (config.issues = [] ↔ config.Valid) ∧
    (∀ issue, config.issues.count issue = config.violations issue) ∧
    (config.issues = [] →
      (∀ e, (Engine.ofConfig config : Except EngineError (Engine grammars)) = .error e →
        ∃ definition ∈ config.microgrammars, ∃ fault, e = .microgrammar fault ∧
          Microgrammar.compile definition.name definition.grammar definition.submatchers =
            .error fault ∧ ∀ name, fault ≠ .emptyGrammar name) ∧
      ((∃ e, (Engine.ofConfig config : Except EngineError (Engine grammars)) = .error e) ↔
        ∃ definition ∈ config.microgrammars,
          Microgrammar.Faulty definition.grammar definition.submatchers) ∧
      ∀ engine : Engine grammars, Engine.ofConfig config = .ok engine →
        config.Describes engine) := by
  refine ⟨issues_eq_nil_iff, count_issues config, fun hnone => ?_⟩
  have valid := issues_eq_nil_iff.1 hnone
  exact ⟨fun e he => fault_of_ofConfig valid he, ofConfig_eq_error_iff grammars valid,
    fun engine he => describes_of_ofConfig valid.distinct he⟩

end

/-- A microgrammar for definitions and a pattern of a language. -/
def sample : Config where
  microgrammars := [⟨"definition", "def $name", []⟩]
  patterns := [⟨"UnwrapCall", "rust", "$EXPR.unwrap()"⟩]

/-- The case of these two. -/
theorem engine_of_issues_sample : sample.issues = [] ∧
    ∃ engine : Engine Session.blind, Engine.ofConfig sample = .ok engine ∧
      sample.Describes engine ∧ "definition" ∈ engine.registry.typeNames := by
  have hnone : sample.issues = [] := by decide +kernel
  obtain ⟨-, -, hbuilds⟩ := engine_of_issues Session.blind sample
  obtain ⟨-, hfails, hdescribes⟩ := hbuilds hnone
  have hcompile := Microgrammar.compile_of_tokenized "definition" (by decide)
    Microgrammar.tokenized_definition (by decide) (by decide)
  cases hbuilt : (Engine.ofConfig sample : Except EngineError (Engine Session.blind)) with
  | error e =>
      obtain ⟨definition, hd, hfaulty⟩ := hfails.1 ⟨e, hbuilt⟩
      obtain rfl := List.mem_singleton.1 hd
      exact absurd hfaulty (Microgrammar.not_faulty_of_compile hcompile)
  | ok engine =>
      have hengine := hdescribes engine hbuilt
      exact ⟨hnone, engine, rfl, hengine, (hengine.listed _).2 (.inl (by decide))⟩

-- ================================================= names in expressions

theorem issues_of_parse {text : String} {path : Option String}
    (h : parse text path = .ok config) : config.issues = [] := by
  unfold parse at h
  split at h
  · cases h
  · split at h
    · rename_i hnone
      exact Except.ok.inj h ▸ hnone
    · cases h

/-- A type that a configuration defines is known to the engine, and can be asked for exactly if its
name is a name of expressions. Then the expression that consists of its name alone does so; if not,
no expression names it at all. -/
theorem nameable_of_parse {text : String} {path : Option String}
    (read : parse text path = .ok config) (built : Engine.ofConfig config = .ok engine)
    (defined : name ∈ config.names) :
    (∃ type, engine.registry.resolve? name = some (.registered name type)) ∧
    (Expression.compile ("/" ++ name ++ "()") =
      .ok ⟨"/" ++ name ++ "()", [⟨.child, .type name, []⟩]⟩ ↔ Expression.IsName name) ∧
    ((∃ expression program, Expression.compile expression = .ok program ∧
      name ∈ program.typeNames) ↔ Expression.IsName name) := by
  have valid := issues_eq_nil_iff.1 (issues_of_parse read)
  have hengine := describes_of_ofConfig valid.distinct built
  have hone : name ∈ (⟨"/" ++ name ++ "()", [⟨.child, .type name, []⟩]⟩ :
      Expression.Program).typeNames := List.mem_singleton_self name
  refine ⟨?_, ⟨fun h => ?_, Expression.compile_type⟩, ⟨?_, fun h => ?_⟩⟩
  · rcases List.mem_append.1 defined with hm | hp
    · obtain ⟨definition, hd, rfl⟩ := List.mem_map.1 hm
      obtain ⟨grammar, -, hresolved⟩ := hengine.microgrammars definition hd
      exact ⟨_, hresolved⟩
    · obtain ⟨definition, hd, rfl⟩ := List.mem_map.1 hp
      obtain ⟨language, -, hresolved⟩ := hengine.patterns definition hd
      exact ⟨_, hresolved⟩
  · exact Expression.isName_of_mem_typeNames h hone
  · rintro ⟨expression, program, h, hn⟩
    exact Expression.isName_of_mem_typeNames h hn
  · exact ⟨_, _, Expression.compile_type h, hone⟩

/-- A configuration of one microgrammar, with a name of one's choice. -/
def lone (name : String) : Config where
  microgrammars := [⟨name, "a", []⟩]

/-- Its text. -/
def loneText (name : String) : String :=
  "[[microgrammars]]\nname = \"" ++ name ++ "\"\ngrammar = \"a\"\n"

theorem exists_ofConfig_lone (grammars : Grammars) (hnone : (lone name).issues = []) :
    ∃ engine : Engine grammars, Engine.ofConfig (lone name) = .ok engine := by
  have valid := issues_eq_nil_iff.1 hnone
  cases hbuilt : (Engine.ofConfig (lone name) : Except EngineError (Engine grammars)) with
  | ok engine => exact ⟨engine, rfl⟩
  | error e =>
      obtain ⟨definition, hd, hfaulty⟩ := (ofConfig_eq_error_iff grammars valid).1 ⟨e, hbuilt⟩
      obtain rfl := List.mem_singleton.1 hd
      exact absurd hfaulty (Microgrammar.not_faulty_of_compile (Microgrammar.compile_a name))

/-- The case of a name of two words with an underscore between them. -/
theorem nameable_of_parse_joined :
    parse (loneText "two_words") none = .ok (lone "two_words") ∧
    (∃ engine : Engine Session.blind, Engine.ofConfig (lone "two_words") = .ok engine ∧
      ∃ type, engine.registry.resolve? "two_words" = some (.registered "two_words" type)) ∧
    "two_words" ∈ (lone "two_words").names ∧
    Expression.compile ("/" ++ "two_words" ++ "()") =
      .ok ⟨"/" ++ "two_words" ++ "()", [⟨.child, .type "two_words", []⟩]⟩ := by
  have hread : parse (loneText "two_words") none = .ok (lone "two_words") := by decide +kernel
  obtain ⟨engine, hbuilt⟩ := exists_ofConfig_lone Session.blind (issues_of_parse hread)
  obtain ⟨hresolved, hcompiled, -⟩ := nameable_of_parse hread hbuilt (List.mem_singleton_self _)
  exact ⟨hread, ⟨engine, hbuilt, hresolved⟩, List.mem_singleton_self _, hcompiled.2 (by decide)⟩

/-- With a space between them the configuration is accepted just as well and an engine is built, but
no expression names the type. -/
theorem spaced_unnameable :
    parse (loneText "two words") none = .ok (lone "two words") ∧
    (∃ engine : Engine Session.blind, Engine.ofConfig (lone "two words") = .ok engine) ∧
    "two words" ∈ (lone "two words").names ∧
    Expression.compile ("/" ++ "two words" ++ "()") =
      .error ⟨"/two words()", 5, .unexpectedCharacter 'w'⟩ ∧
    ¬∃ expression program, Expression.compile expression = .ok program ∧
      "two words" ∈ program.typeNames := by
  have hread : parse (loneText "two words") none = .ok (lone "two words") := by decide +kernel
  refine ⟨hread, exists_ofConfig_lone Session.blind (issues_of_parse hread),
    List.mem_singleton_self _, by decide +kernel, ?_⟩
  rintro ⟨expression, program, h, hn⟩
  exact absurd (Expression.isName_of_mem_typeNames h hn) (by decide)

end Config

end TreeQuery
