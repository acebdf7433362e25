/-
What becomes of the children of YAML mappings and sequences.

Every row of the view of a YAML file below the root stands for a value of the syntax tree or for a
pair that has none (`Yaml.Origin`). The rows below that of a value stand for the children of its
content that are elements: the pairs of a mapping, and the items of a sequence that have something
in them (`Yaml.isElement`). They are all there, in order, so the item numbered `k` is element `k`;
but children that are no elements are left out, and the numbers of those behind them shift. A
mapping or sequence is shown in full exactly if all its children but the comments are elements
(`rows_of_yaml`).

Not all are: an item can be empty, a sequence can hold pairs, and a mapping can hold keys by
themselves.
-/
import TreeQuery.Proofs.View.Members

namespace TreeQuery.View

namespace Yaml

variable {source : String} {tree inner value : SyntaxTree}

-- ============================================================ elements

/-- Whether a child of content of a shape becomes a member. -/
def isElement (shape : Shape) (child : SyntaxTree) : Bool :=
  match shape with
  | .scalar => false
  | .map => isPair (SyntaxTree.kind child)
  | .sequence => (itemValue? child).isSome

/-- The children of some content that become members. -/
def elements (inner : SyntaxTree) : List SyntaxTree :=
  (SyntaxTree.namedChildren inner).filter (isElement (shapeOf (SyntaxTree.kind inner)))

/-- The named children that are no comments. -/
def uncommented (inner : SyntaxTree) : List SyntaxTree :=
  (SyntaxTree.namedChildren inner).filter fun child => SyntaxTree.kind child != "comment"

theorem isSome_memberView? (shape : Shape) (child : SyntaxTree) :
    (memberView? source shape child).isSome = isElement shape child := by
  cases shape with
  | scalar => rfl
  | map =>
      unfold memberView? isElement
      cases isPair (SyntaxTree.kind child) with
      | true => rfl
      | false => rfl
  | sequence => exact Option.isSome_map

/-- What is made of the elements is made of the children. -/
theorem map_some_filterMap {α β : Type} (f : α → Option β) (entries : List α) :
    (entries.filterMap f).map some = (entries.filter fun a => (f a).isSome).map f := by
  induction entries with
  | nil => rfl
  | cons a rest ih =>
      cases h : f a with
      | none => rw [List.filterMap_cons_none h, ih, List.filter_cons_of_neg (by simp [h])]
      | some b =>
          rw [List.filterMap_cons_some h, List.filter_cons_of_pos (by simp [h]), List.map_cons, ih,
            List.map_cons, h]

/-- The members of a value are those of the elements of its content. -/
theorem map_some_membersOf (source : String) (h : content? value = some inner) :
    (membersOf source value).map some =
      (elements inner).map (memberView? source (shapeOf (SyntaxTree.kind inner))) := by
  rw [membersOf_of_content? h, map_some_filterMap, elements]
  simp only [isSome_memberView?]

/-- A comment is no element. -/
theorem kind_ne_comment {shape : Shape} {child : SyntaxTree} (h : isElement shape child = true) :
    (SyntaxTree.kind child != "comment") = true := by
  refine bne_iff_ne.2 fun hkind => ?_
  cases shape with
  | scalar => cases h
  | map =>
      rw [isElement, hkind] at h
      exact absurd h (by decide)
  | sequence =>
      rw [isElement, itemValue?, hkind, if_neg (by decide), if_neg (by decide)] at h
      cases h

/-- The elements are as many as the children without the comments if these are all elements. -/
theorem length_elements_iff (inner : SyntaxTree) :
    (elements inner).length = (uncommented inner).length ↔
      ∀ child ∈ uncommented inner, isElement (shapeOf (SyntaxTree.kind inner)) child := by
  have hsame : elements inner =
      (uncommented inner).filter (isElement (shapeOf (SyntaxTree.kind inner))) := by
    rw [elements, uncommented, List.filter_filter]
    refine List.filter_congr fun child _ => ?_
    cases h : isElement (shapeOf (SyntaxTree.kind inner)) child with
    | false => rfl
    | true => rw [kind_ne_comment h]; rfl
  rw [hsame]
  exact List.length_filter_eq_length_iff

-- ============================================================= origins

/-- A part of a view stands for a value of the tree, or for a pair without one. -/
inductive Origin (source : String) (tree : SyntaxTree) : View → Prop
  | value (name : String) (key : Option String) (fallback : Text.Span) {value : SyntaxTree} :
      value ∈ tree.subtrees →
      Origin source tree
        (.node (valueMember source name key fallback value) (membersOf source value))
  | bare {pair : SyntaxTree} : pair ∈ tree.subtrees → isPair (SyntaxTree.kind pair) = true →
      (pairParts pair).2 = none →
      Origin source tree (.node (bareMember (keyText source (pairParts pair).1) pair) [])

/-- All that is below a value stands for values and pairs. -/
theorem origin_of_mem_membersOf (hv : value ∈ tree.subtrees) {part : View}
    (hp : part ∈ Rose.subtreesAll (membersOf source value)) : Origin source tree part := by
  induction hsize : value.size using Nat.strongRecOn generalizing value with
  | ind size ih =>
      subst hsize
      obtain ⟨view, hview, hp⟩ := Rose.mem_subtreesAll.1 hp
      rw [membersOf_eq] at hview
      split at hview
      · cases hview
      · rename_i inner hinner
        obtain ⟨child, hc, hmade⟩ := List.mem_filterMap.1 hview
        have hbelow : child.subtrees ⊆ tree.subtrees := fun _ hm =>
          Rose.subtrees_subset hv (Rose.subtrees_subset (content?_mem_subtrees hinner)
            (Rose.subtrees_subset (namedChildren_mem_subtrees hc) hm))
        rcases memberView?_cases hmade with ⟨hpair, hnone, rfl⟩ | ⟨name, key, value', hv', rfl⟩
        · obtain rfl := List.mem_singleton.1 hp
          exact .bare (hbelow (Rose.self_mem_subtrees child)) hpair hnone
        · rcases List.mem_cons.1 hp with rfl | hp
          · exact .value _ _ _ (hbelow hv')
          · have hle := content?_size hinner
            have hlt := namedChildren_size hc
            have hle' := Rose.size_le_of_mem_subtrees hv'
            exact ih value'.size (by omega) (hbelow hv') hp rfl

/-- The contents of the documents in a stream. -/
def documentContents (tree : SyntaxTree) : List SyntaxTree :=
  ((SyntaxTree.namedChildren tree).filter fun node => SyntaxTree.kind node == "document").flatMap
    fun document => (contentChildren document).filterMap content?

/-- And so is all that is below the root of the view. -/
theorem origin_of_mem_stream {part : View} (hp : part ∈ Rose.subtreesAll (stream source tree)) :
    Origin source tree part := by
  obtain ⟨view, hview, hp⟩ := Rose.mem_subtreesAll.1 hp
  obtain ⟨document, hd, hview⟩ := List.mem_flatMap.1 hview
  obtain ⟨child, hc, hview⟩ := List.mem_flatMap.1 hview
  have hchild := Rose.subtrees_subset (namedChildren_mem_subtrees (List.mem_filter.1 hd).1)
    (contentChildren_mem_subtrees hc)
  exact origin_of_mem_membersOf hchild (Rose.mem_subtreesAll.2 ⟨view, hview, hp⟩)

/-- The views right below the root are those of the elements of the documents. -/
theorem map_some_stream : (stream source tree).map some = (documentContents tree).flatMap
    fun inner => (elements inner).map (memberView? source (shapeOf (SyntaxTree.kind inner))) := by
  have hmembers : ∀ contents : List SyntaxTree,
      (contents.flatMap (membersOf source)).map some = (contents.filterMap content?).flatMap
        fun inner => (elements inner).map
          (memberView? source (shapeOf (SyntaxTree.kind inner))) := by
    intro contents
    induction contents with
    | nil => rfl
    | cons node rest ih =>
        rw [List.flatMap_cons, List.map_append, ih]
        cases h : content? node with
        | none =>
            rw [List.filterMap_cons_none h, membersOf_eq, h]
            rfl
        | some inner =>
            rw [List.filterMap_cons_some h, List.flatMap_cons, map_some_membersOf source h]
  rw [stream, documentContents, List.map_flatMap, List.flatMap_assoc]
  exact List.flatMap_congr fun document _ => hmembers (contentChildren document)

/-- The items of a sequence have no name but that. -/
theorem name_of_mem_membersOf (source : String) (h : content? value = some inner)
    (hs : shapeOf (SyntaxTree.kind inner) = .sequence) :
    ∀ view ∈ membersOf source value, view.label.name = "item" := by
  intro view hview
  rw [membersOf_of_content? h, hs] at hview
  obtain ⟨child, -, hmade⟩ := List.mem_filterMap.1 hview
  obtain ⟨value, -, rfl⟩ := Option.map_eq_some_iff.1 hmade
  rfl

end Yaml

-- ================================================================ rows

open Yaml

/-- Siblings of one name are numbered one after the other. -/
theorem map_fst_numberedAfter {name : String} (earlier : List String) {trees : List View}
    (h : ∀ tree ∈ trees, tree.label.name = name) :
    (numberedAfter earlier trees).map Prod.fst =
      (List.range' (earlier.count name) trees.length).map fun k => ⟨name, k⟩ := by
  induction trees generalizing earlier with
  | nil => rfl
  | cons tree rest ih =>
      obtain ⟨rfl, hrest⟩ := List.forall_mem_cons.1 h
      rw [numberedAfter, List.map_cons, ih _ hrest, List.count_cons_self, List.length_cons,
        List.range'_succ, List.map_cons]

/-- A part below the root of the view of a YAML file stands for a value or a pair. -/
theorem origin_of_row {source : String} {tree : SyntaxTree} {i : Nat} {part : View}
    (h : (project .yaml source tree).subtrees[i]? = some part) (hi : i ≠ 0) :
    Origin source tree part := by
  obtain ⟨i, rfl⟩ := Nat.exists_eq_succ_of_ne_zero hi
  exact origin_of_mem_stream (List.mem_of_getElem? h)

/-- The rows below a row stand for the elements of some content. -/
structure Shows (source : String) (table : List Entry) (entry : Entry) (inner : SyntaxTree) :
    Prop where
  /-- There is one for each element, in order. -/
  members : ((childRows table entry).map fun row => some row.member) =
    (elements inner).map fun child =>
      (memberView? source (shapeOf (SyntaxTree.kind inner)) child).map Rose.label
  /-- Those of a sequence are the items with the numbers from 0 on. -/
  numbered : shapeOf (SyntaxTree.kind inner) = .sequence →
    (childRows table entry).map Entry.location =
      (List.range (elements inner).length).map fun k => entry.location ++ [⟨"item", k⟩]
  /-- They are as many as the named children that are no comments if each of these is an
  element. -/
  complete : entry.children.length = (uncommented inner).length ↔
    ∀ child ∈ uncommented inner, isElement (shapeOf (SyntaxTree.kind inner)) child

theorem map_some_member {rows : List Entry} {views : List View}
    (h : rows.map Entry.member = views.map Rose.label) :
    (rows.map fun row => some row.member) = (views.map some).map (Option.map Rose.label) := by
  have hsome := congrArg (List.map some) h
  rw [List.map_map, List.map_map] at hsome
  rw [List.map_map]
  exact hsome

variable {source : String} {inner value : SyntaxTree} {view part : View} {i : Nat} {entry : Entry}

theorem shows_of_value (h : view.entries[i]? = some entry) (hp : view.subtrees[i]? = some part)
    (hchildren : part.children = membersOf source value) (hc : content? value = some inner) :
    Shows source view.entries entry inner := by
  obtain ⟨hrows, -, hmember, hlocation⟩ := rows_of_children h hp
  rw [hchildren] at hmember
  have hviews := map_some_membersOf source hc
  have hcount : (membersOf source value).length = (elements inner).length := by
    have hlength := congrArg List.length hviews
    rwa [List.length_map, List.length_map] at hlength
  refine ⟨?_, fun hs => ?_, ?_⟩
  · rw [map_some_member hmember, hviews, List.map_map]
    rfl
  · have hnumbers := map_fst_numberedAfter [] (name_of_mem_membersOf source hc hs)
    calc (childRows view.entries entry).map Entry.location
        = ((numberedAfter [] (membersOf source value)).map Prod.fst).map fun segment =>
            entry.location ++ [segment] := by
          rw [hlocation, numberedChildren, hchildren, List.map_map]
          rfl
      _ = _ := by
          rw [hnumbers, hcount, List.map_map, List.range_eq_range']
          rfl
  · have hlength := congrArg List.length hrows
    have hrowsLength := congrArg List.length hmember
    rw [List.length_map, List.length_map] at hlength hrowsLength
    rw [hlength, hrowsLength, hcount]
    exact length_elements_iff inner

/-- The rows of the view of a YAML file. Those below the root of the view stand for the elements of
the documents. Any other row is that of a pair without a value, with none below it, or that of a
value, and then the rows below it stand for the elements of its content. -/
theorem rows_of_yaml (source : String) (tree : SyntaxTree) :
    let table := (project .yaml source tree).entries
    (∀ root, table[0]? = some root →
      ((childRows table root).map fun row => some row.member) =
        (documentContents tree).flatMap fun inner => (elements inner).map fun child =>
          (memberView? source (shapeOf (SyntaxTree.kind inner)) child).map Rose.label) ∧
    ∀ {i : Nat} {entry : Entry}, table[i]? = some entry → i ≠ 0 →
      (∃ pair ∈ tree.subtrees, isPair (SyntaxTree.kind pair) = true ∧
        (pairParts pair).2 = none ∧
        entry.member = bareMember (keyText source (pairParts pair).1) pair ∧
        entry.children = []) ∨
      ∃ name key fallback, ∃ value ∈ tree.subtrees,
        entry.member = valueMember source name key fallback value ∧
        (content? value = none → entry.children = []) ∧
        ∀ inner, content? value = some inner → Shows source table entry inner := by
  intro table
  refine ⟨fun root hroot => ?_, fun {i entry} h hi => ?_⟩
  · obtain ⟨-, -, hmember, -⟩ := rows_of_children hroot rfl
    have hstream : (childRows table root).map Entry.member =
        (stream source tree).map Rose.label := hmember
    rw [map_some_member hstream, map_some_stream, List.map_flatMap]
    simp only [List.map_map]
    rfl
  · obtain ⟨part, hpart, hmember, hchildren, -⟩ := row h
    have horigin := origin_of_row hpart hi
    cases horigin with
    | bare hpair hv hnone => exact .inl ⟨_, hpair, hv, hnone, hmember, hchildren⟩
    | value name key fallback hv =>
        refine .inr ⟨name, key, fallback, _, hv, hmember, fun hnone => ?_, fun inner hinner =>
          shows_of_value h hpart rfl hinner⟩
        rw [hchildren]
        show indicesFrom (i + 1) (membersOf source _) = []
        rw [membersOf_eq, hnone]
        rfl

-- ============================================================ a sample

/-- A mapping in which a list has an item without content, then a comment. -/
def gapSource : String := "x: k=v q=r\nlist:\n  - # c\n  - 'q'\n"

/-- The list in its tree. -/
def gapList : SyntaxTree :=
  plainNode "block_sequence" 19 33
    [plainNode "block_sequence_item" 19 20 [tokenNode "-" 19],
      plainNode "comment" 21 24 [],
      plainNode "block_sequence_item" 27 32 [tokenNode "-" 27,
        plainNode "flow_node" 29 32 [plainNode "single_quote_scalar" 29 32
          [tokenNode "'" 29, tokenNode "'" 31]]]]

/-- The value that the list is the content of. -/
def gapValue : SyntaxTree := fieldNode .value "block_node" 19 33 [gapList]

/-- A scalar without quotes. -/
def wordNode (role : FieldRole) (start stop : Nat) : SyntaxTree :=
  fieldNode role "flow_node" start stop
    [plainNode "plain_scalar" start stop [plainNode "string_scalar" start stop []]]

/-- The tree of the mapping. -/
def gapTree : SyntaxTree :=
  plainNode "stream" 0 33 [plainNode "document" 0 33 [plainNode "block_node" 0 33
    [plainNode "block_mapping" 0 33
      [plainNode "block_mapping_pair" 0 10
        [wordNode .key 0 1, tokenNode ":" 1, wordNode .value 3 10],
      plainNode "block_mapping_pair" 11 33
        [wordNode .key 11 15, tokenNode ":" 15, gapValue]]]]]

/-- The row of the list. -/
def gapRow : Entry :=
  ⟨⟨"list", "block_sequence", ["YamlSequence", "YamlKeyValue", "YamlNode"], ⟨19, 33⟩,
    [("key", "list")]⟩, some 0, [3], [⟨"list", 0⟩]⟩

theorem row_gapTree : (project .yaml gapSource gapTree).entries[2]? = some gapRow := by
  decide +kernel

/-- That row is no pair without a value, so the rows below it stand for the elements of some
content. -/
theorem rows_of_yaml_gapTree : (project .yaml gapSource gapTree).entries[2]? = some gapRow ∧
    ∃ name key fallback, ∃ value ∈ gapTree.subtrees,
      gapRow.member = valueMember gapSource name key fallback value ∧
      (content? value = none → gapRow.children = []) ∧
      ∀ inner, content? value = some inner →
        Shows gapSource (project .yaml gapSource gapTree).entries gapRow inner := by
  refine ⟨row_gapTree, ?_⟩
  refine ((rows_of_yaml gapSource gapTree).2 row_gapTree (by decide)).resolve_left ?_
  rintro ⟨pair, -, -, -, -, hchildren⟩
  cases hchildren

/-- The list has two items and its row one: the item without content is left out, and the one behind
it has the number 0. -/
theorem item_dropped :
    gapValue ∈ gapTree.subtrees ∧ content? gapValue = some gapList ∧
    shapeOf (SyntaxTree.kind gapList) = .sequence ∧
    (project .yaml gapSource gapTree).entries[2]? = some gapRow ∧
    gapRow.member = valueMember gapSource "list" (some "list") ⟨11, 33⟩ gapValue ∧
    ((uncommented gapList).map SyntaxTree.span = [⟨19, 20⟩, ⟨27, 32⟩]) ∧
    ((childRows (project .yaml gapSource gapTree).entries gapRow).map
        fun row => (row.location, row.member.span)) =
      [([⟨"list", 0⟩, ⟨"item", 0⟩], ⟨29, 32⟩)] := by
  refine ⟨List.mem_of_getElem? (i := 17) rfl, rfl, rfl, row_gapTree, ?_, rfl, ?_⟩
  · decide +kernel
  · decide +kernel

end TreeQuery.View
