/-
Snapshots: what there is to see of a project at one moment, and what queries find there.

# Places

A snapshot is the name of a project and the texts of its files. Nodes are places, so without
anything remembered a node is its place alone (`Place`): a path, a location in the view of a
file, an occurrence by its number in the text of another place.

# The meaning of a query

Every question about a place has an answer that depends on the texts only: its name, tags and
properties, what is below it, its value, where it starts and stops. They are functions here;
nothing is held, nothing is remembered. With them the library's types find places
(`Snapshot.find`), and expressions are evaluated by the very traversal that workspaces use,
in a forest whose answers have no effects (`Snapshot.evaluate`). This is what an evaluation in
a workspace is measured against.
-/
import TreeQuery.Proofs.Engine.Types
import TreeQuery.Proofs.Project.Files

namespace TreeQuery

open Text (Span)

/-- The name of a project and the texts of its files, ascending by path. -/
structure Snapshot (grammars : Grammars) where
  name : String
  texts : List (ProjectPath × String)
deriving DecidableEq, Repr

/-- A place with a text. -/
inductive TextPlace where
  | file (path : ProjectPath)
  | member (file : ProjectPath) (language : Language) (location : Location)
  /-- An occurrence of a microgrammar in the text of `context`, and what stands there. -/
  | occurrence (grammar : Microgrammar) (context : TextPlace) (index : Nat) (seen : Occurrence)
  | binding (grammar : Microgrammar) (context : TextPlace) (index : Nat) (seen : Occurrence)
      (name : String)
deriving DecidableEq, Repr

/-- A place. -/
inductive Place where
  | directory (path : ProjectPath)
  | text (place : TextPlace)
deriving DecidableEq, Repr

namespace TextPlace

/-- The address of a place. -/
def address : TextPlace → String
  | .file path => ProjectPath.address path
  | .member path language location => Location.address (viewAddress path language) location
  | .occurrence grammar context index _ =>
    TextNode.occurrenceAddress context.address grammar index
  | .binding grammar context index _ name =>
    TextNode.occurrenceAddress context.address grammar index ++ "/" ++ name

end TextPlace

namespace Place

/-- A file as a place. -/
def file (path : ProjectPath) : Place := .text (.file path)

/-- The address of a place. -/
def address : Place → String
  | .directory path => ProjectPath.address path
  | .text place => place.address

end Place

namespace Snapshot

variable {grammars : Grammars} (S : Snapshot grammars)

-- ============================================================== texts

/-- The text of a file; an empty one if there is no such file. -/
def content (file : ProjectPath) : String := (S.texts.lookup file).getD ""

/-- The view of a file. -/
def view (file : ProjectPath) (language : Language) : View :=
  grammars.view language (S.content file)

/-- The part of a view at a location. -/
def tree? (file : ProjectPath) (language : Language) (location : Location) : Option View :=
  (S.view file language).at? location

/-- The member at a location. -/
def member (file : ProjectPath) (language : Language) (location : Location) : Member :=
  ((S.tree? file language location).map Rose.label).getD default

-- ===================================================== names and tags

/-- The name of a directory; the project's own for the root. -/
def directoryName (path : ProjectPath) : String := path.getLast?.getD S.name

/-- The name of a place. -/
def nameOf : Place → String
  | .directory path => S.directoryName path
  | .text (.file path) => path.getLast?.getD ""
  | .text (.member file language location) => (S.member file language location).name
  | .text (.occurrence grammar _ _ _) => grammar.name
  | .text (.binding _ _ _ _ name) => name

/-- The tags of a place. -/
def tags : Place → List String
  | .directory path => if path.isEmpty then ["Project"] else ["Directory"]
  | .text (.file _) => ["File"]
  | .text (.member file language location) => (S.member file language location).tags
  | .text (.occurrence grammar _ _ _) => ["Microgrammar", grammar.name]
  | .text (.binding ..) => []

/-- A property of a place. -/
def property (place : Place) (key : String) : Option String :=
  match place with
  | .directory path =>
    match key with
    | "name" => some (S.directoryName path)
    | "path" => some (ProjectPath.write path)
    | _ => none
  | .text (.file path) =>
    match key with
    | "name" => some (path.getLast?.getD "")
    | "path" => some (ProjectPath.write path)
    | "extension" => Language.extension? (ProjectPath.write path)
    | _ => none
  | .text (.member file language location) =>
    Workspace.memberProperty (S.member file language location) key
  | .text (.occurrence grammar _ _ seen) =>
    match key with
    | "name" => some grammar.name
    | "value" => some seen.text
    | _ => seen.capture? key
  | .text (.binding _ _ _ seen name) =>
    match key with
    | "name" => some name
    | "value" => some ((seen.capture? name).getD "")
    | _ => none

-- =========================================================== children

/-- The names right below a directory. -/
def namesBelow (directory : ProjectPath) : List String :=
  ((S.texts.map (·.1)).filterMap (ProjectPath.nextName? directory)).eraseDups

/-- What a directory has under a name. -/
def entry (directory : ProjectPath) (name : String) : Place :=
  let path := directory ++ [name]
  if (S.texts.lookup path).isSome then .file path else .directory path

/-- The places right below a place, in document order. -/
def children : Place → List Place
  | .directory path => (S.namesBelow path).map (S.entry path)
  | .text (.file _) => []
  | .text (.member file language location) =>
    match S.tree? file language location with
    | none => []
    | some tree => tree.numberedChildren.map fun (segment, _) =>
        .text (.member file language (location ++ [segment]))
  | .text (.occurrence grammar context index seen) => seen.captures.map fun (name, _) =>
      .text (.binding grammar context index seen name)
  | .text (.binding ..) => []

/-- A number no less than that of the places at and below a place. -/
def bound : Place → Nat
  | .directory _ => (S.texts.map (·.1)).foldr (fun path total => path.length + total) 1
  | .text (.file _) => 1
  | .text (.member file language location) =>
    ((S.tree? file language location).map Rose.size).getD 1
  | .text (.occurrence _ _ _ seen) => seen.captures.length + 1
  | .text (.binding ..) => 1

/-- A snapshot as queries see it. -/
def forest : Query.Forest Id Place where
  address := Place.address
  name place := S.nameOf place
  tags place := S.tags place
  property place key := S.property place key
  children place := S.children place
  extent place := S.bound place

-- ====================================================== values, layout

/-- The text of a place. -/
def value : TextPlace → String
  | .file path => S.content path
  | .member file language location =>
    (Text.slice? (S.content file) (S.member file language location).span).getD ""
  | .occurrence _ _ _ seen => seen.text
  | .binding _ _ _ seen name => (seen.capture? name).getD ""

/-- Where a place starts and stops in its file. -/
def extent : TextPlace → Option Layout.Extent
  | .file path => some (.ofSpan (S.content path) (.whole (S.content path)))
  | .member file language location =>
    some (.ofSpan (S.content file) (S.member file language location).span)
  | .occurrence grammar context _ seen =>
    (extent context).bind fun base =>
      (grammar.locate? seen (S.value context)).map (.within base.start (S.value context))
  | .binding grammar context _ seen name =>
    ((extent context).bind fun base =>
      (grammar.locate? seen (S.value context)).map
        (Layout.Extent.within base.start (S.value context))).bind fun base =>
      (seen.captures.lookup name).map (.within base.start seen.text)

-- ============================================================== types

/-- The location whose span a pattern's matches must lie in. -/
def patternScope (language : Language) : Place → Option (ProjectPath × Language × Location)
  | .text (.member file other location) =>
    if other = language then some (file, other, location) else none
  | .text (.file path) =>
    if Language.ofPath? (ProjectPath.write path) = some language then some (path, language, [])
    else none
  | _ => none

/-- The members of a view that a structural pattern matches, within a scope. -/
def findPattern (pattern : StructuralPattern) (file : ProjectPath) (language : Language)
    (location : Location) : Except NodeError (List Place) :=
  match S.tree? file language location with
  | none => .ok []
  | some tree =>
    match grammars.find pattern.language pattern.text (S.content file) with
    | none => .error (.brokenPattern pattern.text)
    | some matched => .ok <|
        ((matched.filter fun m => m.span.within tree.label.span).filterMap fun m =>
          ((S.view file language).findBySpan? m.span m.kind).map (·.2)).map fun entry =>
            .text (.member file language entry.location)

/-- What a type finds from a place. -/
def find (type : BuiltIn) (place : Place) : Except NodeError (List Place) :=
  match type with
  | .language language =>
    match place with
    | .text (.file path) =>
      if Language.ofPath? (ProjectPath.write path) = some language then
        .ok [.text (.member path language [])]
      else .ok []
    | _ => .ok []
  | .pattern _ pattern =>
    match patternScope pattern.language place with
    | none => .ok []
    | some (file, language, location) => S.findPattern pattern file language location
  | .microgrammar grammar =>
    match place with
    | .directory _ => .ok []
    | .text context => .ok <| (grammar.scan (S.value context)).zipIdx.map fun (seen, index) =>
        .text (.occurrence grammar context index seen)

/-- A type as evaluations use it. -/
def provider (type : BuiltIn) : Query.Provider Id Place NodeError where
  name := type.name
  find place := S.find type place

-- ========================================================== evaluation

/-- The places an expression finds from a place. -/
def evaluate (types : Query.Registry BuiltIn) (dedupe : Bool) (expression : String)
    (root : Place) : Except EngineError (List Place) :=
  match Expression.compile expression with
  | .error e => .error (.parse e)
  | .ok program =>
    match (Query.evaluate S.forest (types.map S.provider) dedupe program root).run with
    | .error failure => .error (.ofFailure failure)
    | .ok found => .ok found

end Snapshot

-- ============================================================= sights

/-- All there is to see of a node. -/
structure Sight where
  address : String
  name : String
  tags : List String
  /-- The properties, by key. -/
  property : String → Option String
  /-- The text, if the node has one. -/
  value : Option String
  /-- Where it starts and stops, if it stands in a file. -/
  extent : Option Layout.Extent

/-- What a place looks like. -/
def Snapshot.sight {grammars : Grammars} (S : Snapshot grammars) (place : Place) : Sight where
  address := place.address
  name := S.nameOf place
  tags := S.tags place
  property := S.property place
  value := match place with
    | .directory _ => none
    | .text place => some (S.value place)
  extent := match place with
    | .directory _ => none
    | .text place => S.extent place

/-- What the places look like that an expression finds from the root. -/
def Snapshot.survey {grammars : Grammars} (S : Snapshot grammars)
    (types : Query.Registry BuiltIn) (dedupe : Bool) (expression : String) :
    Except EngineError (List Sight) :=
  (S.evaluate types dedupe expression (.directory [])).map (List.map S.sight)

/-- Looks at a node in a workspace from all sides. -/
def Act.sight {grammars : Grammars} (node : Node) : Act grammars Sight := do
  let name ← (Workspace.forest grammars).name node
  let tags ← (Workspace.forest grammars).tags node
  let w ← get
  let property := fun key => ((Workspace.forest grammars).property node key w).1
  match node.asText? with
  | none => return ⟨node.address, name, tags, property, none, none⟩
  | some text =>
    let value ← Act.value text
    let extent ← Act.extent text
    return ⟨node.address, name, tags, property, some value, extent⟩

/-- Looks at each node that an expression finds from the root. -/
def Engine.survey {grammars : Grammars} (engine : Engine grammars) (expression : String) :
    ExceptT EngineError (Act grammars) (List Sight) := do
  let found ← engine.evaluate expression (.directory [])
  (found.mapM Act.sight : Act grammars (List Sight))

/-- The name and the texts of a workspace's project. -/
def Workspace.snapshot {grammars : Grammars} (w : Workspace grammars) : Snapshot grammars :=
  ⟨w.project.name, w.project.texts⟩

end TreeQuery
