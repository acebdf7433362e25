/-
From a source to its view: the syntax tree is projected into members in the way of its
language, under a root that stands for the whole source.
-/
import TreeQuery.View.Generic
import TreeQuery.View.Yaml

namespace TreeQuery.View

/-- The root of a view. -/
def rootMember (language : Language) (source : String) (tree : SyntaxTree) : Member where
  name := language.viewType
  kind := SyntaxTree.kind tree
  tags := [language.viewType, language.nodeTag]
  span := Text.Span.whole source
  properties := []

/-- The view of a source with the given syntax tree. -/
def project (language : Language) (source : String) (tree : SyntaxTree) : View :=
  .node (rootMember language source tree) <|
    match language with
    | .yaml => Yaml.stream source tree
    | _ => genericAll language source tree.children

end TreeQuery.View

namespace TreeQuery

/-- The view of a source, as the parsers see it. -/
def Grammars.view (grammars : Grammars) (language : Language) (source : String) : View :=
  View.project language source (grammars.parse language source)

end TreeQuery
