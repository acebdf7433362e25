/-
The tree of a workspace: directories over files, members of views over members, occurrences
over their bindings. Files have no children; types reach into them. Nodes found by walking
are new ones, with handles of their own and memories of what is there now, except that a
binding shares the handle of its occurrence and an occurrence's parent is the very node it
was found in.
-/
import TreeQuery.Query.Forest
import TreeQuery.Workspace.Text

namespace TreeQuery

-- ========================================================== properties

namespace Workspace

variable {grammars : Grammars}

/-- A property of a member of a view. -/
def memberProperty (member : Member) (key : String) : Option String :=
  match key with
  | "name" => some member.name
  | "kind" => some member.kind
  | _ => member.properties.lookup key

/-- A property of a node. -/
def property (w : Workspace grammars) (node : Node) (key : String) : Option String :=
  match node with
  | .directory path =>
    match key with
    | "name" => some (w.directoryName path)
    | "path" => some (ProjectPath.write path)
    | _ => none
  | .text (.file path) =>
    match key with
    | "name" => some (w.name node)
    | "path" => some (ProjectPath.write path)
    | "extension" => Language.extension? (ProjectPath.write path)
    | _ => none
  | .text (.member node) => memberProperty (w.member node) key
  | .text (.occurrence handle grammar _ _ born) =>
    match key with
    | "name" => some grammar.name
    | "value" => some (w.found handle born).text
    | _ => (w.found handle born).capture? key
  | .text (.binding handle _ _ _ born name) =>
    match key with
    | "name" => some name
    | "value" => some (((w.found handle born).capture? name).getD "")
    | _ => none
  | .detached tree =>
    match key with
    | "name" => some tree.label.name
    | _ => none

-- ============================================================ entries

/-- The entry of a directory under a name. -/
def entry (w : Workspace grammars) (directory : ProjectPath) (name : String) : Node :=
  let path := directory ++ [name]
  if (w.project.document? path).isSome then .file path else .directory path

end Workspace

namespace Act

variable {grammars : Grammars}

-- ============================================================= looking

/-- Makes sure that the view a node stands in is held, as all do who look at the node. -/
def look : Node → Act grammars Unit
  | .text (.member node) => consult node.file node.language
  | _ => pure ()

-- =========================================================== new nodes

/-- A handle no node has yet. -/
def newHandle : Act grammars Handle :=
  modifyGet fun w => (w.nextHandle, { w with nextHandle := w.nextHandle + 1 })

/-- A new node at a location where the current view has `member`. -/
def newMember (file : ProjectPath) (language : Language) (location : Location)
    (member : Member) : Act grammars MemberNode := do
  let handle ← newHandle
  return { handle, file, language, location, born := (← get).observe file member }

/-- A new node for the root of a file's view. -/
def viewRoot (file : ProjectPath) (language : Language) : Act grammars MemberNode := do
  consult file language
  newMember file language [] ((← get).view file language).label

-- ============================================================ children

/-- The nodes right below a node in a view; none if its location is gone. -/
def memberChildren (node : MemberNode) : Act grammars (List Node) := do
  consult node.file node.language
  match (← get).resolve? node with
  | none => return []
  | some tree => tree.numberedChildren.mapM fun (segment, child) => do
      let location := node.location ++ [segment]
      return .text (.member (← newMember node.file node.language location child.label))

/-- The nodes right below a node, in document order. -/
def children : Node → Act grammars (List Node)
  | .directory path => do
    let w ← get
    return (w.project.namesBelow path).map (w.entry path)
  | .text (.file _) => return []
  | .text (.member node) => memberChildren node
  | .text (.occurrence handle grammar context index born) => do
    let seen := (← get).found handle born
    return seen.captures.map fun (name, _) =>
      .text (.binding handle grammar context index born name)
  | .text (.binding ..) => return []
  | .detached tree => return tree.children.map .detached

-- ============================================================= parents

/-- The node right above a text node. Above a node in a view whose parent's location is gone
comes the file. -/
def textParent : TextNode → Act grammars Node
  | .file path => return .directory path.dropLast
  | .member node => do
    if node.location.isEmpty then return .file node.file
    consult node.file node.language
    let above := node.location.dropLast
    match ((← get).view node.file node.language).at? above with
    | some tree => return .text (.member (← newMember node.file node.language above tree.label))
    | none => return .file node.file
  | .occurrence _ _ context _ _ => return .text context
  | .binding handle grammar context index born _ =>
    return .text (.occurrence handle grammar context index born)

/-- The node right above a node, if it knows one. Only the project's root and made-up nodes do
not. -/
def parent? : Node → Act grammars (Option Node)
  | .directory path => return if path.isEmpty then none else some (.directory path.dropLast)
  | .text node => return some (← textParent node)
  | .detached _ => return none

/-- The nodes above a node, the nearest first, as far as `fuel` goes. -/
def ancestorsWithin : Nat → Node → Act grammars (List Node)
  | 0, _ => return []
  | fuel + 1, node => do
    match ← parent? node with
    | none => return []
    | some above => return above :: (← ancestorsWithin fuel above)

/-- The nodes above a node, the nearest first. -/
def ancestors (node : Node) : Act grammars (List Node) := ancestorsWithin node.depth node

end Act

-- ============================================================== forest

/-- Workspaces as queries see them. -/
def Workspace.forest (grammars : Grammars) : Query.Forest (Act grammars) Node where
  address := Node.address
  name node := do
    Act.look node
    return (← get).name node
  tags node := do
    Act.look node
    return (← get).tags node
  property node key := do
    Act.look node
    return (← get).property node key
  children := Act.children
  extent node := return (← get).bound node

end TreeQuery
