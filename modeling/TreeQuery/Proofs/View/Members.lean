/-
Which syntax nodes become members.

# Programs

The members of a program below the root are the named nodes that have no unnamed node between
them and the root (`SyntaxTree.namedThroughout`): a node without a name is left out with all below
it. `Rose.lineages` lists the nodes with those above them, and a filter on it says the same as
the recursion over the tree (`map_preorder_genericAll`).

# YAML

The members of a value are made of the named children of its content, each by itself: a child
that makes none is left out (`membersOf_eq`). Which of them do depends on the shape of the
content (`memberView?`).
-/
import TreeQuery.Proofs.View.Table
import TreeQuery.View.Projection

namespace TreeQuery

-- ============================================================ lineages

namespace Rose

variable {α : Type}

mutual

/-- The labels in pre-order, each with the labels above it, the nearest first. -/
def lineages (above : List α) : Rose α → List (α × List α)
  | .node label children => (label, above) :: lineagesAll (label :: above) children

/-- The labels of some trees in pre-order, with those above them. -/
def lineagesAll (above : List α) : List (Rose α) → List (α × List α)
  | [] => []
  | tree :: rest => lineages above tree ++ lineagesAll above rest

end

mutual

theorem map_fst_lineages (above : List α) (tree : Rose α) :
    (lineages above tree).map Prod.fst = tree.preorder := by
  match tree with
  | .node label children => rw [lineages, List.map_cons, map_fst_lineagesAll, preorder]

theorem map_fst_lineagesAll (above : List α) (trees : List (Rose α)) :
    (lineagesAll above trees).map Prod.fst = preorderAll trees := by
  match trees with
  | [] => rfl
  | tree :: rest =>
      rw [lineagesAll, List.map_append, map_fst_lineages, map_fst_lineagesAll, preorderAll]

end

/-- Whether a label and all labels above it pass a test. -/
def passes (p : α → Bool) (lineage : α × List α) : Bool := (lineage.1 :: lineage.2).all p

mutual

/-- Below a label that fails the test nothing passes. -/
theorem filter_lineages_eq_nil {p : α → Bool} {above : List α} (h : above.all p = false)
    (tree : Rose α) : (lineages above tree).filter (passes p) = [] := by
  match tree with
  | .node label children =>
      have hbelow : (label :: above).all p = false := by rw [List.all_cons, h, Bool.and_false]
      rw [lineages, List.filter_cons_of_neg, filter_lineagesAll_eq_nil hbelow]
      rw [passes, hbelow]
      exact Bool.false_ne_true

theorem filter_lineagesAll_eq_nil {p : α → Bool} {above : List α} (h : above.all p = false)
    (trees : List (Rose α)) : (lineagesAll above trees).filter (passes p) = [] := by
  match trees with
  | [] => rfl
  | tree :: rest =>
      rw [lineagesAll, List.filter_append, filter_lineages_eq_nil h, filter_lineagesAll_eq_nil h,
        List.append_nil]

end

/-- Nor does anything in a tree whose own label fails it. -/
theorem filter_lineages_of_fails {p : α → Bool} {above : List α} {tree : Rose α}
    (h : p tree.label = false) : (lineages above tree).filter (passes p) = [] := by
  cases tree with
  | node label children =>
      have hbelow : (label :: above).all p = false := by
        rw [List.all_cons, show p label = false from h, Bool.false_and]
      rw [lineages, List.filter_cons_of_neg, filter_lineagesAll_eq_nil hbelow]
      rw [passes, hbelow]
      exact Bool.false_ne_true

end Rose

/-- The named nodes below the root that have only named nodes above them there, in pre-order. -/
def SyntaxTree.namedThroughout (tree : SyntaxTree) : List SyntaxNode :=
  ((Rose.lineagesAll [] tree.children).filter (Rose.passes (·.named))).map Prod.fst

-- ============================================================ programs

namespace View

variable {language : Language} {source : String}

mutual

/-- The members of a named node stand for the named nodes with named ones above them. -/
theorem map_preorder_generic {β : Type} {f : Member → β} {g : SyntaxNode → β}
    (hf : ∀ tree, f (genericMember language source tree) = g tree.label) {above : List SyntaxNode}
    (ha : above.all (·.named)) {tree : SyntaxTree} (ht : tree.label.named) :
    (generic language source tree).preorder.map f =
      ((tree.lineages above).filter (Rose.passes (·.named))).map (g ·.1) := by
  match tree, ht with
  | .node label children, ht =>
      have hbelow : (label :: above).all (·.named) := by
        rw [List.all_cons, show label.named = true from ht, ha, Bool.and_true]
      have hkept : Rose.passes (·.named) (label, above) = true := hbelow
      rw [generic, Rose.preorder, Rose.lineages, List.filter_cons_of_pos hkept, List.map_cons,
        List.map_cons, hf, map_preorder_genericAll hf hbelow]
      rfl

theorem map_preorder_genericAll {β : Type} {f : Member → β} {g : SyntaxNode → β}
    (hf : ∀ tree, f (genericMember language source tree) = g tree.label) {above : List SyntaxNode}
    (ha : above.all (·.named)) {trees : List SyntaxTree} :
    (Rose.preorderAll (genericAll language source trees)).map f =
      ((Rose.lineagesAll above trees).filter (Rose.passes (·.named))).map (g ·.1) := by
  match trees with
  | [] => rfl
  | tree :: rest =>
      rw [genericAll, Rose.lineagesAll, List.filter_append, List.map_append,
        ← map_preorder_genericAll hf ha]
      split
      · rename_i ht
        rw [Rose.preorderAll, List.map_append, map_preorder_generic hf ha ht]
      · rename_i ht
        rw [Rose.filter_lineages_of_fails (Bool.eq_false_iff.2 ht)]
        rfl

end

/-- The rows of a table have the members of the view in pre-order. -/
theorem map_member_entries (view : View) : view.entries.map Entry.member = view.preorder := by
  rw [← view.map_label_subtrees]
  refine List.ext_getElem? fun i => ?_
  rw [List.getElem?_map, List.getElem?_map]
  cases hi : view.entries[i]? with
  | none =>
      have hlength : view.entries.length = view.subtrees.length :=
        (length_entriesFrom none 0 [] view).trans view.length_subtrees.symm
      rw [List.getElem?_eq_none (hlength ▸ List.getElem?_eq_none_iff.1 hi)]
      rfl
  | some entry =>
      obtain ⟨part, hpart, hmember, -⟩ := row hi
      rw [hpart, Option.map_some, Option.map_some, hmember]

/-- Below the root, a table has what the views right below it have. -/
theorem map_member_tail_entries (member : Member) (children : List View) :
    (entries (.node member children)).tail.map Entry.member = Rose.preorderAll children := by
  rw [List.map_tail, map_member_entries]
  rfl

/-- Below its root, the view of a program stands for the named nodes with named ones above them. -/
theorem map_tail_entries_project {β : Type} (f : Member → β) (g : SyntaxNode → β)
    (hf : ∀ tree, f (genericMember language source tree) = g tree.label) (hl : language ≠ .yaml)
    (tree : SyntaxTree) :
    ((project language source tree).entries.tail.map fun entry => f entry.member) =
      tree.namedThroughout.map g := by
  have hbelow : project language source tree =
      .node (rootMember language source tree) (genericAll language source tree.children) := by
    cases language with
    | yaml => exact absurd rfl hl
    | _ => rfl
  have hmap := congrArg (List.map f) (map_member_tail_entries (rootMember language source tree)
    (genericAll language source tree.children))
  rw [List.map_map] at hmap
  rw [hbelow, SyntaxTree.namedThroughout, List.map_map]
  exact hmap.trans (map_preorder_genericAll hf rfl)

-- ================================================================ YAML

namespace Yaml

variable {node inner value : SyntaxTree}

mutual

/-- The content of a node is found in it. -/
theorem content?_mem_subtrees {tree : SyntaxTree} (h : content? tree = some inner) :
    inner ∈ tree.subtrees := by
  match tree, h with
  | .node label children, h =>
      rw [content?] at h
      split at h
      · exact List.mem_cons_of_mem _ (contentAmong?_mem_subtreesAll h)
      · obtain rfl := Option.some.inj h
        exact Rose.self_mem_subtrees _

theorem contentAmong?_mem_subtreesAll {trees : List SyntaxTree}
    (h : contentAmong? trees = some inner) : inner ∈ Rose.subtreesAll trees := by
  match trees, h with
  | tree :: rest, h =>
      rw [contentAmong?] at h
      rw [Rose.subtreesAll]
      split at h
      · exact List.mem_append_left _ (content?_mem_subtrees h)
      · exact List.mem_append_right _ (contentAmong?_mem_subtreesAll h)

end

theorem namedChildren_mem_subtrees {child : SyntaxTree}
    (h : child ∈ SyntaxTree.namedChildren node) : child ∈ node.subtrees :=
  Rose.mem_subtrees_of_child (List.mem_filter.1 h).1 (Rose.self_mem_subtrees child)

theorem contentChildren_mem_subtrees {child : SyntaxTree} (h : child ∈ contentChildren node) :
    child ∈ node.subtrees := namedChildren_mem_subtrees (List.mem_filter.1 h).1

/-- The value of a pair is found in it. -/
theorem pairParts_mem_subtrees {pair : SyntaxTree} (h : (pairParts pair).2 = some value) :
    value ∈ pair.subtrees := by
  unfold pairParts at h
  split at h
  · split at h
    · cases h
    · cases h
    · rename_i key v rest hc
      cases h
      exact contentChildren_mem_subtrees (by rw [hc]; simp)
  · exact Rose.mem_subtrees_of_child (List.mem_of_find?_eq_some h) (Rose.self_mem_subtrees value)

/-- And so is the value of an item. -/
theorem itemValue?_mem_subtrees {item : SyntaxTree} (h : itemValue? item = some value) :
    value ∈ item.subtrees := by
  unfold itemValue? at h
  split at h
  · exact contentChildren_mem_subtrees (List.mem_of_head? h)
  · split at h
    · cases h
      exact Rose.self_mem_subtrees _
    · cases h

/-- The view of a pair of a mapping. -/
def pairView (source : String) (pair : SyntaxTree) : View :=
  let name := keyText source (pairParts pair).1
  match (pairParts pair).2 with
  | some value =>
    .node (valueMember source name (some name) (SyntaxTree.span pair) value)
      (membersOf source value)
  | none => .node (bareMember name pair) []

/-- The view of an item of a sequence, given what it stands for. -/
def itemView (source : String) (item value : SyntaxTree) : View :=
  .node (valueMember source "item" none (SyntaxTree.span item) value) (membersOf source value)

/-- The view of a named child of content of a shape, if it becomes a member. -/
def memberView? (source : String) (shape : Shape) (child : SyntaxTree) : Option View :=
  match shape with
  | .scalar => none
  | .map => if isPair (SyntaxTree.kind child) then some (pairView source child) else none
  | .sequence => (itemValue? child).map (itemView source child)

/-- The proofs that the recursion needs do not matter for what it makes. -/
theorem filterMap_attach_of_eq {children : List SyntaxTree}
    {f : {child // child ∈ children} → Option View} {g : SyntaxTree → Option View}
    (h : ∀ child, f child = g child.1) : children.attach.filterMap f = children.filterMap g :=
  calc children.attach.filterMap f
      = children.attach.filterMap (g ∘ Subtype.val) := List.filterMap_congr fun child _ => h child
    _ = (children.attach.map Subtype.val).filterMap g := List.filterMap_map.symm
    _ = children.filterMap g := by rw [List.attach_map_subtype_val]

/-- The members of a value are those of the named children of its content. -/
theorem membersOf_eq (source : String) (node : SyntaxTree) :
    membersOf source node = match content? node with
      | none => []
      | some inner => (SyntaxTree.namedChildren inner).filterMap
          (memberView? source (shapeOf (SyntaxTree.kind inner))) := by
  rw [membersOf]
  split
  · rename_i hinner
    rw [hinner]
  · rename_i inner hinner
    rw [hinner]
    simp only
    split
    · rename_i hshape
      rw [hshape]
      exact (List.filterMap_eq_nil_iff.2 fun _ _ => rfl).symm
    · rename_i hshape
      rw [hshape]
      refine filterMap_attach_of_eq ?_
      rintro ⟨pair, hp⟩
      unfold memberView? pairView
      simp only
      split
      · split
        · rename_i hv
          rw [hv]
        · rename_i hv
          rw [hv]
      · rfl
    · rename_i hshape
      rw [hshape]
      refine filterMap_attach_of_eq ?_
      rintro ⟨item, hp⟩
      unfold memberView? itemView
      simp only
      split
      · rename_i hv
        rw [hv]
        rfl
      · rename_i hv
        rw [hv]
        rfl

/-- A child of some content is viewed as a value found in it, or as a pair without one. -/
theorem memberView?_cases {shape : Shape} {child : SyntaxTree} {view : View}
    (h : memberView? source shape child = some view) :
    (isPair (SyntaxTree.kind child) = true ∧ (pairParts child).2 = none ∧
      view = .node (bareMember (keyText source (pairParts child).1) child) []) ∨
    ∃ name key value, value ∈ child.subtrees ∧
      view = .node (valueMember source name key (SyntaxTree.span child) value)
        (membersOf source value) := by
  cases shape with
  | scalar => cases h
  | map =>
      rw [memberView?] at h
      split at h
      · rename_i hpair
        obtain rfl := Option.some.inj h
        unfold pairView
        cases hv : (pairParts child).2 with
        | none => exact .inl ⟨hpair, rfl, rfl⟩
        | some value => exact .inr ⟨_, _, value, pairParts_mem_subtrees hv, rfl⟩
      · cases h
  | sequence =>
      obtain ⟨value, hv, rfl⟩ := Option.map_eq_some_iff.1 h
      exact .inr ⟨_, _, value, itemValue?_mem_subtrees hv, rfl⟩

theorem membersOf_of_content? (h : content? node = some inner) :
    membersOf source node = (SyntaxTree.namedChildren inner).filterMap
      (memberView? source (shapeOf (SyntaxTree.kind inner))) := by
  rw [membersOf_eq, h]

end Yaml

-- ------------------------------------------------- nodes, for samples

/-- A named node that fills no field. -/
def plainNode (kind : String) (start stop : Nat) (children : List SyntaxTree) : SyntaxTree :=
  .node ⟨kind, ⟨start, stop⟩, true, false, false, none⟩ children

/-- A token of one character. -/
def tokenNode (kind : String) (start : Nat) : SyntaxTree :=
  .node ⟨kind, ⟨start, start + 1⟩, false, false, false, none⟩ []

/-- A named node that fills a field. -/
def fieldNode (role : FieldRole) (kind : String) (start stop : Nat) (children : List SyntaxTree) :
    SyntaxTree :=
  .node ⟨kind, ⟨start, stop⟩, true, false, false, some role⟩ children

end View

end TreeQuery
