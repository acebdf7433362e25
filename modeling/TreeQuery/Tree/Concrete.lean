/-
Concrete syntax trees, as a parser hands them over: every node with its kind, its span in
the source and the field of its parent that it fills. Parsers are not part of the library;
a `Grammars` says what they answer, and all else treats them as functions of the text.
-/
import TreeQuery.Language
import TreeQuery.Text.Bytes
import TreeQuery.Tree.Rose

namespace TreeQuery

open Text (Span)

/-- A field of a node that a child can fill. -/
inductive FieldRole where
  | name
  | key
  | value
deriving DecidableEq, Repr

/-- A node of a concrete syntax tree. -/
structure SyntaxNode where
  /-- What the grammar calls the node. -/
  kind : String
  span : Span
  /-- Whether the node stands for a rule with a name, not for a token. -/
  named : Bool
  /-- Whether the parser could not make sense of the text of the node. -/
  isError : Bool
  /-- Whether the parser made the node up to go on. -/
  isMissing : Bool
  /-- The field of the parent that the node fills. -/
  role : Option FieldRole
deriving DecidableEq, Repr, Inhabited

/-- A concrete syntax tree. -/
abbrev SyntaxTree := Rose SyntaxNode

namespace SyntaxTree

def kind (tree : SyntaxTree) : String := tree.label.kind

def span (tree : SyntaxTree) : Span := tree.label.span

/-- The children that stand for named rules. -/
def namedChildren (tree : SyntaxTree) : List SyntaxTree :=
  tree.children.filter fun child => child.label.named

/-- The child that fills a field. -/
def childFor? (tree : SyntaxTree) (role : FieldRole) : Option SyntaxTree :=
  tree.children.find? fun child => child.label.role == some role

/-- The text of a tree in its source. -/
def text (tree : SyntaxTree) (source : String) : String :=
  (Text.slice? source tree.span).getD ""

/-- How many nodes the parser could not make sense of or made up. -/
def errorCount (tree : SyntaxTree) : Nat :=
  (tree.preorder.filter fun node => node.isError || node.isMissing).length

end SyntaxTree

/-- A place where a structural pattern matches. -/
structure PatternMatch where
  span : Span
  kind : String
deriving DecidableEq, Repr

/-- What the parsers outside the library answer. -/
structure Grammars where
  /-- The tree of a source. -/
  parse : Language → String → SyntaxTree
  /-- Where a pattern matches in a source, in order; nothing if the pattern is not understood. -/
  find : Language → (pattern source : String) → Option (List PatternMatch)

end TreeQuery
