/-
The view of a program: its named syntax nodes, each under the name of its kind. A node that
has a name in the source carries it as the property `identifier`.
-/
import TreeQuery.View.Member

namespace TreeQuery.View

/-- The properties of a syntax node. -/
def identifierOf (source : String) (tree : SyntaxTree) : List (String × String) :=
  match SyntaxTree.childFor? tree .name with
  | some child => [("identifier", SyntaxTree.text child source)]
  | none => []

/-- The member a syntax node becomes. -/
def genericMember (language : Language) (source : String) (tree : SyntaxTree) : Member where
  name := SyntaxTree.kind tree
  kind := SyntaxTree.kind tree
  tags := [language.nodeTag, SyntaxTree.kind tree]
  span := SyntaxTree.span tree
  properties := identifierOf source tree

mutual

/-- The view of one syntax node. -/
def generic (language : Language) (source : String) : SyntaxTree → View
  | .node label children =>
    .node (genericMember language source (.node label children))
      (genericAll language source children)

/-- The views of the named nodes among some. -/
def genericAll (language : Language) (source : String) : List SyntaxTree → List View
  | [] => []
  | tree :: rest =>
    if tree.label.named then generic language source tree :: genericAll language source rest
    else genericAll language source rest

end

end TreeQuery.View
