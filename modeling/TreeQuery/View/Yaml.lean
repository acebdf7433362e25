/-
The view of a YAML file: mappings and sequences instead of syntax. A pair becomes a member
named by its key that stands for the value, an item of a sequence a member named `item`.
Nodes that only wrap others are looked through, and comments, anchors and tags skipped.
-/
import TreeQuery.Text.Lines
import TreeQuery.View.Member

namespace TreeQuery.View.Yaml

open Text (Span)

-- ============================================================= shapes

/-- What a value is made of. -/
inductive Shape where
  | map
  | sequence
  | scalar
deriving DecidableEq, Repr

/-- The shape a kind of syntax node has. -/
def shapeOf (kind : String) : Shape :=
  if kind = "block_mapping" ∨ kind = "flow_mapping" then .map
  else if kind = "block_sequence" ∨ kind = "flow_sequence" then .sequence
  else .scalar

/-- The tag of a shape. -/
def Shape.tag : Shape → String
  | .map => "YamlMap"
  | .sequence => "YamlSequence"
  | .scalar => "YamlString"

/-- The tags of a member: its shape if it has a value, whether it is a pair, and the tag of
all members. -/
def tagsOf (shape : Option Shape) (isPair : Bool) : List String :=
  (shape.map Shape.tag).toList ++ (if isPair then ["YamlKeyValue"] else []) ++ ["YamlNode"]

/-- Whether nodes of a kind only adorn others. -/
def isDecoration (kind : String) : Bool := kind == "comment" || kind == "anchor" || kind == "tag"

/-- Whether nodes of a kind only wrap others. -/
def isWrapper (kind : String) : Bool := kind == "block_node" || kind == "flow_node"

/-- The named children that do not adorn. -/
def contentChildren (tree : SyntaxTree) : List SyntaxTree :=
  (SyntaxTree.namedChildren tree).filter fun child => !isDecoration (SyntaxTree.kind child)

mutual

/-- The node with the content, inside all its wrappers; a wrapper can turn out empty. -/
def content? : SyntaxTree → Option SyntaxTree
  | .node label children =>
    if isWrapper label.kind then contentAmong? children else some (.node label children)

/-- The content of the first node that is named and does not adorn. -/
def contentAmong? : List SyntaxTree → Option SyntaxTree
  | [] => none
  | tree :: rest =>
    if tree.label.named && !isDecoration tree.label.kind then content? tree
    else contentAmong? rest

end

-- ============================================================ scalars

/-- The text between a pair of quotes; a text not so enclosed is left alone. -/
def withoutQuotes (quote : Char) (text : List Char) : List Char :=
  match text with
  | c :: rest =>
    if c = quote ∧ rest.getLast? = some quote then rest.dropLast else text
  | [] => []

/-- The text with backslash escapes resolved: `n` and `t` name controls, any other character
stands for itself, and a backslash at the end too. -/
def unescape : List Char → List Char
  | [] => []
  | '\\' :: [] => ['\\']
  | '\\' :: c :: rest =>
    (if c = 'n' then '\n' else if c = 't' then '\t' else c) :: unescape rest
  | c :: rest => c :: unescape rest

/-- The text with each doubled single quote taken once. -/
def undouble : List Char → List Char
  | '\'' :: '\'' :: rest => '\'' :: undouble rest
  | c :: rest => c :: undouble rest
  | [] => []

/-- The value of a scalar as written in the source. -/
def unquote (kind text : String) : String :=
  let text := text.toList
  String.ofList <|
    if kind = "double_quote_scalar" then unescape (withoutQuotes '"' text)
    else if kind = "single_quote_scalar" then undouble (withoutQuotes '\'' text)
    else Text.trim text

-- ============================================================ members

/-- Whether nodes of a kind are pairs of a mapping. -/
def isPair (kind : String) : Bool := kind == "block_mapping_pair" || kind == "flow_pair"

/-- The key and the value of a pair: by their fields, or by their order if neither field is
there. -/
def pairParts (pair : SyntaxTree) : Option SyntaxTree × Option SyntaxTree :=
  match SyntaxTree.childFor? pair .key, SyntaxTree.childFor? pair .value with
  | none, none =>
    match contentChildren pair with
    | [] => (none, none)
    | [key] => (some key, none)
    | key :: value :: _ => (some key, some value)
  | key, value => (key, value)

/-- The name of a pair: its key without quotes, or nothing. -/
def keyText (source : String) (key : Option SyntaxTree) : String :=
  match key.bind content? with
  | some k => unquote (SyntaxTree.kind k) (SyntaxTree.text k source)
  | none => ""

/-- The value an item of a sequence stands for. -/
def itemValue? (item : SyntaxTree) : Option SyntaxTree :=
  if SyntaxTree.kind item = "block_sequence_item" then (contentChildren item).head?
  else if isWrapper (SyntaxTree.kind item) then some item
  else none

/-- The member for a value: it spans the content alone, or the fallback if there is none. -/
def valueMember (source name : String) (key : Option String) (fallback : Span)
    (node : SyntaxTree) : Member :=
  let inner := content? node
  let shape := (inner.map fun n => shapeOf (SyntaxTree.kind n)).getD .scalar
  let kind := (inner.map SyntaxTree.kind).getD (SyntaxTree.kind node)
  let value := match shape, inner with
    | .scalar, some scalar => [("value", unquote kind (SyntaxTree.text scalar source))]
    | _, _ => []
  { name, kind
    tags := tagsOf (some shape) key.isSome
    span := (inner.map SyntaxTree.span).getD fallback
    properties := (key.map fun k => ("key", k)).toList ++ value }

/-- The member for a pair without a value. -/
def bareMember (name : String) (pair : SyntaxTree) : Member where
  name := name
  kind := SyntaxTree.kind pair
  tags := tagsOf none true
  span := SyntaxTree.span pair
  properties := [("key", name)]

-- ------------------------------------------- sizes, for the recursion

theorem namedChildren_size {tree child : SyntaxTree}
    (h : child ∈ SyntaxTree.namedChildren tree) : child.size < tree.size :=
  Rose.size_lt_of_mem_children (List.mem_filter.1 h).1

theorem contentChildren_size {tree child : SyntaxTree} (h : child ∈ contentChildren tree) :
    child.size < tree.size :=
  namedChildren_size (List.mem_filter.1 h).1

theorem childFor?_size {tree child : SyntaxTree} {role : FieldRole}
    (h : SyntaxTree.childFor? tree role = some child) : child.size < tree.size :=
  Rose.size_lt_of_mem_children (List.mem_of_find?_eq_some h)

mutual

theorem content?_size {tree inner : SyntaxTree} (h : content? tree = some inner) :
    inner.size ≤ tree.size := by
  cases tree with
  | node label children =>
    simp only [content?] at h
    split at h
    · have := contentAmong?_size h
      simp only [Rose.size]
      omega
    · cases h
      exact Nat.le_refl _

theorem contentAmong?_size {trees : List SyntaxTree} {inner : SyntaxTree}
    (h : contentAmong? trees = some inner) : inner.size ≤ Rose.sizeAll trees := by
  cases trees with
  | nil => simp [contentAmong?] at h
  | cons tree rest =>
    simp only [contentAmong?] at h
    simp only [Rose.sizeAll]
    split at h
    · have := content?_size h
      omega
    · have := contentAmong?_size h
      omega

end

theorem pairParts_size {pair value : SyntaxTree} (h : (pairParts pair).2 = some value) :
    value.size < pair.size := by
  unfold pairParts at h
  split at h
  · split at h
    · cases h
    · cases h
    · rename_i key v rest hc
      cases h
      exact contentChildren_size (by rw [hc]; simp)
  · exact childFor?_size h

theorem itemValue?_size {item value : SyntaxTree} (h : itemValue? item = some value) :
    value.size ≤ item.size := by
  unfold itemValue? at h
  split at h
  · exact Nat.le_of_lt (contentChildren_size (List.mem_of_head? h))
  · split at h
    · cases h
      exact Nat.le_refl _
    · cases h

/-- The views of the pairs of a mapping or the items of a sequence; a scalar has none. -/
def membersOf (source : String) (node : SyntaxTree) : List View :=
  match _hi : content? node with
  | none => []
  | some inner =>
    match shapeOf (SyntaxTree.kind inner) with
    | .scalar => []
    | .map =>
      (SyntaxTree.namedChildren inner).attach.filterMap fun ⟨pair, _hp⟩ =>
        if isPair (SyntaxTree.kind pair) then
          let name := keyText source (pairParts pair).1
          match _hv : (pairParts pair).2 with
          | some value =>
            some (.node (valueMember source name (some name) (SyntaxTree.span pair) value)
              (membersOf source value))
          | none => some (.node (bareMember name pair) [])
        else none
    | .sequence =>
      (SyntaxTree.namedChildren inner).attach.filterMap fun ⟨item, _hp⟩ =>
        match _hv : itemValue? item with
        | some value =>
          some (.node (valueMember source "item" none (SyntaxTree.span item) value)
            (membersOf source value))
        | none => none
termination_by node.size
decreasing_by
  · have := content?_size _hi
    have := namedChildren_size _hp
    have := pairParts_size _hv
    omega
  · have := content?_size _hi
    have := namedChildren_size _hp
    have := itemValue?_size _hv
    omega

/-- The views of the members of every document in a stream. -/
def stream (source : String) (tree : SyntaxTree) : List View :=
  let documents := (SyntaxTree.namedChildren tree).filter fun n => SyntaxTree.kind n == "document"
  documents.flatMap fun document => (contentChildren document).flatMap (membersOf source)

end TreeQuery.View.Yaml
