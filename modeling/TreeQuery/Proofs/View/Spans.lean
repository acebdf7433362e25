/-
Members and where they stand: every location of a view has its entry in the table, and every
member's span is that of a syntax node, or the whole source.

An address is looked up in the table of a view, a location is followed from the root down. Both
lead to the same member (`indexOf?_eq_some`, `indexOf?_eq_none_iff`).

A view makes up no spans. Whatever is true of the spans of all nodes of a syntax tree, and of the
whole source, is true of the spans of all members (`spans_project`). So if the parsers' spans are
ranges of the source, cut between characters (`Grammars.Aligned`), a text stands at every member
(`Grammars.Aligned.slice?`).
-/
import TreeQuery.Proofs.Text.Cut
import TreeQuery.Proofs.View.Addresses
import TreeQuery.View.Projection

namespace TreeQuery

open Text (Span)

-- ============================================================ entries

namespace View

/-- What follows a child in the table follows its siblings too. -/
theorem subset_entriesOfAll {earlier : List String} {trees : List View} {segment : Segment}
    {child : View} (h : (segment, child) ∈ numberedAfter earlier trees) (parent index : Nat)
    (location : Location) :
    ∃ first, entriesFrom (some parent) first (location ++ [segment]) child ⊆
      entriesOfAll parent index location earlier trees := by
  induction trees generalizing earlier index with
  | nil => cases h
  | cons tree rest ih =>
      rw [entriesOfAll]
      rcases List.mem_cons.1 h with he | h
      · obtain ⟨rfl, rfl⟩ := Prod.mk.inj he
        exact ⟨index, List.subset_append_left _ _⟩
      · obtain ⟨first, hsub⟩ := ih h (index + tree.size)
        exact ⟨first, List.subset_append_of_subset_right _ hsub⟩

/-- What stands at a location below a tree is listed with the tree. -/
theorem exists_mem_entriesFrom {tree part : View} {below : Location}
    (h : tree.at? below = some part) (parent : Option Nat) (index : Nat) (location : Location) :
    ∃ entry ∈ entriesFrom parent index location tree,
      entry.location = location ++ below ∧ part.label = entry.member := by
  induction below generalizing tree parent index location with
  | nil =>
      obtain rfl := Option.some.inj h
      cases tree with
      | node member children =>
          exact ⟨_, List.mem_cons_self, (List.append_nil _).symm, rfl⟩
  | cons segment below ih =>
      rw [at?_cons_eq] at h
      obtain ⟨child, hlookup, hchild⟩ := Option.bind_eq_some_iff.1 h
      have hmem : (segment, child) ∈ tree.numberedChildren := mem_of_lookup_eq_some hlookup
      cases tree with
      | node member children =>
          obtain ⟨first, hsub⟩ := subset_entriesOfAll hmem index (index + 1) location
          obtain ⟨entry, he, hl, hm⟩ := ih hchild (some index) first (location ++ [segment])
          refine ⟨entry, List.mem_cons_of_mem _ (hsub he), ?_, hm⟩
          rw [hl, List.append_assoc]
          rfl

variable {view part : View} {root : String} {location : Location}

/-- The member found by its address stands at its location. -/
theorem indexOf?_eq_some {index : Nat}
    (h : view.indexOf? root (location.address root) = some index) :
    ∃ entry part, view.entries[index]? = some entry ∧ view.at? location = some part ∧
      part.label = entry.member := by
  obtain ⟨hlt, hp, -⟩ := List.findIdx?_eq_some_iff_getElem.1 h
  have hlocation := Location.address_inj.1 (of_decide_eq_true hp)
  obtain ⟨part, hpart, hlabel⟩ := at?_of_mem_entries (List.getElem_mem hlt)
  rw [hlocation] at hpart
  exact ⟨_, part, List.getElem?_eq_getElem hlt, hpart, hlabel⟩

/-- An address is not found if its location is gone. -/
theorem indexOf?_eq_none_iff :
    view.indexOf? root (location.address root) = none ↔ view.at? location = none := by
  unfold indexOf?
  rw [List.findIdx?_eq_none_iff]
  constructor
  · intro h
    by_contra hsome
    obtain ⟨part, hpart⟩ := Option.ne_none_iff_exists'.1 hsome
    obtain ⟨entry, he, hl, -⟩ := exists_mem_entriesFrom hpart none 0 []
    rw [List.nil_append] at hl
    have hfalse := h entry he
    rw [hl, decide_eq_true rfl] at hfalse
    cases hfalse
  · intro hnone entry he
    obtain ⟨part, hpart, -⟩ := at?_of_mem_entries he
    refine decide_eq_false fun hsame => ?_
    rw [Location.address_inj.1 hsame, hnone] at hpart
    cases hpart

end View

-- ============================================================== trees

namespace Rose

variable {α : Type} {tree child : Rose α}

theorem subset_preorderAll {trees : List (Rose α)} (h : tree ∈ trees) :
    tree.preorder ⊆ preorderAll trees := by
  induction trees with
  | nil => cases h
  | cons first rest ih =>
      rw [preorderAll]
      rcases List.mem_cons.1 h with rfl | h
      · exact List.subset_append_left _ _
      · exact List.subset_append_of_subset_right _ (ih h)

/-- What is in a child is in the tree. -/
theorem preorder_subset (h : child ∈ tree.children) : child.preorder ⊆ tree.preorder := by
  cases tree with
  | node label children => exact List.subset_cons_of_subset _ (subset_preorderAll h)

theorem label_mem_preorder (tree : Rose α) : tree.label ∈ tree.preorder := by
  cases tree with
  | node label children => exact List.mem_cons_self

theorem mem_preorderAll {trees : List (Rose α)} {label : α} :
    label ∈ preorderAll trees ↔ ∃ tree ∈ trees, label ∈ tree.preorder := by
  induction trees with
  | nil => simp [preorderAll]
  | cons first rest ih => simp [preorderAll, ih]

end Rose

/-- What stands at a location of a view is one of its members. -/
theorem View.member_mem_preorder {view part : View} {location : Location}
    (h : view.at? location = some part) : part.label ∈ view.preorder := by
  induction location generalizing view with
  | nil =>
      obtain rfl := Option.some.inj h
      exact Rose.label_mem_preorder view
  | cons segment below ih =>
      rw [at?_cons_eq] at h
      obtain ⟨child, hlookup, hchild⟩ := Option.bind_eq_some_iff.1 h
      have hmem := mem_of_mem_numberedAfter (mem_of_lookup_eq_some hlookup)
      exact Rose.preorder_subset hmem.1 (ih hchild)

-- ============================================================== spans

/-- All spans of a syntax tree have the property. -/
def SyntaxTree.Spans (P : Span → Prop) (tree : SyntaxTree) : Prop :=
  ∀ node ∈ tree.preorder, P node.span

namespace SyntaxTree

variable {P : Span → Prop} {tree child : SyntaxTree}

theorem Spans.root (h : Spans P tree) : P (span tree) := h _ (Rose.label_mem_preorder tree)

theorem Spans.of_mem_children (h : Spans P tree) (hc : child ∈ tree.children) : Spans P child :=
  fun node hn => h node (Rose.preorder_subset hc hn)

end SyntaxTree

namespace View

variable {P : Span → Prop} {source : String}

-- ----------------------------------------------------------- programs

mutual

theorem spans_generic {language : Language} {tree : SyntaxTree} (h : tree.Spans P) :
    ∀ member ∈ (generic language source tree).preorder, P member.span := by
  match tree, h with
  | .node label children, h =>
      intro member hm
      rcases List.mem_cons.1 hm with rfl | hm
      · exact h.root
      · exact spans_genericAll (fun child hc => h.of_mem_children hc) member hm

theorem spans_genericAll {language : Language} {trees : List SyntaxTree}
    (h : ∀ tree ∈ trees, tree.Spans P) :
    ∀ member ∈ Rose.preorderAll (genericAll language source trees), P member.span := by
  match trees, h with
  | [], _ =>
      intro member hm
      cases hm
  | tree :: rest, h =>
      intro member hm
      have hrest : ∀ member ∈ Rose.preorderAll (genericAll language source rest),
          P member.span :=
        spans_genericAll fun tree ht => h tree (List.mem_cons_of_mem _ ht)
      rw [genericAll] at hm
      split at hm
      · rcases List.mem_append.1 hm with hm | hm
        · exact spans_generic (h tree List.mem_cons_self) member hm
        · exact hrest member hm
      · exact hrest member hm

end

-- --------------------------------------------------------------- YAML

namespace Yaml

variable {tree inner : SyntaxTree}

mutual

theorem spans_content? {tree : SyntaxTree} (h : tree.Spans P) (hc : content? tree = some inner) :
    inner.Spans P := by
  match tree, h with
  | .node label children, h =>
      rw [content?] at hc
      split at hc
      · exact spans_contentAmong? (fun child hm => h.of_mem_children hm) hc
      · exact Option.some.inj hc ▸ h

theorem spans_contentAmong? {trees : List SyntaxTree} (h : ∀ tree ∈ trees, tree.Spans P)
    (hc : contentAmong? trees = some inner) : inner.Spans P := by
  match trees, h with
  | [], _ => cases hc
  | tree :: rest, h =>
      rw [contentAmong?] at hc
      split at hc
      · exact spans_content? (h tree List.mem_cons_self) hc
      · exact spans_contentAmong? (fun tree ht => h tree (List.mem_cons_of_mem _ ht)) hc

end

theorem spans_namedChildren (h : tree.Spans P) :
    ∀ child ∈ SyntaxTree.namedChildren tree, child.Spans P :=
  fun _ hm => h.of_mem_children (List.mem_filter.1 hm).1

theorem spans_contentChildren (h : tree.Spans P) : ∀ child ∈ contentChildren tree, child.Spans P :=
  fun child hm => spans_namedChildren h child (List.mem_filter.1 hm).1

theorem spans_pairParts (h : tree.Spans P) {value : SyntaxTree}
    (hv : (pairParts tree).2 = some value) : value.Spans P := by
  unfold pairParts at hv
  split at hv
  · split at hv
    · cases hv
    · cases hv
    · rename_i key v rest hc
      cases hv
      exact spans_contentChildren h _ (by rw [hc]; simp)
  · exact h.of_mem_children (List.mem_of_find?_eq_some hv)

theorem spans_itemValue? (h : tree.Spans P) {value : SyntaxTree}
    (hv : itemValue? tree = some value) : value.Spans P := by
  unfold itemValue? at hv
  split at hv
  · exact spans_contentChildren h _ (List.mem_of_head? hv)
  · split at hv
    · cases hv
      exact h
    · cases hv

/-- A value spans its content, or what it falls back on. -/
theorem span_valueMember {name : String} {key : Option String} {fallback : Span}
    (hf : P fallback) (h : tree.Spans P) :
    P (valueMember source name key fallback tree).span := by
  show P (((content? tree).map SyntaxTree.span).getD fallback)
  cases hc : content? tree with
  | none => exact hf
  | some inner => exact (spans_content? h hc).root

theorem spans_membersOf (h : tree.Spans P) :
    ∀ member ∈ Rose.preorderAll (membersOf source tree), P member.span := by
  induction hsize : tree.size using Nat.strongRecOn generalizing tree with
  | ind size ih =>
      subst hsize
      intro member hm
      obtain ⟨view, hview, hm⟩ := Rose.mem_preorderAll.1 hm
      rw [membersOf] at hview
      split at hview
      · cases hview
      · rename_i inner hinner
        have hspans := spans_content? h hinner
        have hle := content?_size hinner
        split at hview
        · cases hview
        · -- a mapping: the pairs with their values
          obtain ⟨⟨pair, hp⟩, -, hsome⟩ := List.mem_filterMap.1 hview
          have hpair := spans_namedChildren hspans pair hp
          have hlt := namedChildren_size hp
          simp only at hsome
          split at hsome
          · split at hsome
            · rename_i value hv
              cases hsome
              have hvalue := spans_pairParts hpair hv
              have hsmall := pairParts_size hv
              rcases List.mem_cons.1 hm with rfl | hm
              · exact span_valueMember hpair.root hvalue
              · exact ih value.size (by omega) hvalue rfl member hm
            · cases hsome
              rcases List.mem_cons.1 hm with rfl | hm
              · exact hpair.root
              · cases hm
          · cases hsome
        · -- a sequence: the items
          obtain ⟨⟨item, hp⟩, -, hsome⟩ := List.mem_filterMap.1 hview
          have hitem := spans_namedChildren hspans item hp
          have hlt := namedChildren_size hp
          simp only at hsome
          split at hsome
          · rename_i value hv
            cases hsome
            have hvalue := spans_itemValue? hitem hv
            have hsmall := itemValue?_size hv
            rcases List.mem_cons.1 hm with rfl | hm
            · exact span_valueMember hitem.root hvalue
            · exact ih value.size (by omega) hvalue rfl member hm
          · cases hsome

theorem spans_stream (h : tree.Spans P) :
    ∀ member ∈ Rose.preorderAll (stream source tree), P member.span := by
  intro member hm
  obtain ⟨view, hview, hm⟩ := Rose.mem_preorderAll.1 hm
  obtain ⟨document, hd, hview⟩ := List.mem_flatMap.1 hview
  obtain ⟨child, hc, hview⟩ := List.mem_flatMap.1 hview
  have hdocument := spans_namedChildren h document (List.mem_filter.1 hd).1
  exact spans_membersOf (spans_contentChildren hdocument child hc) member
    (Rose.mem_preorderAll.2 ⟨view, hview, hm⟩)

end Yaml

/-- The members of a view span syntax nodes, or the whole source. -/
theorem spans_project {language : Language} {tree : SyntaxTree} (hwhole : P (.whole source))
    (h : tree.Spans P) : ∀ member ∈ (project language source tree).preorder, P member.span := by
  intro member hm
  rcases List.mem_cons.1 hm with rfl | hm
  · exact hwhole
  · split at hm
    · exact Yaml.spans_stream h member hm
    · exact spans_genericAll (fun child hc => h.of_mem_children hc) member hm

end View

/-- The spans of all syntax trees are ranges of their sources, cut between characters. -/
def Grammars.Aligned (grammars : Grammars) : Prop :=
  ∀ language source, (grammars.parse language source).Spans fun span =>
    (Text.slice? source span).isSome

theorem Text.slice?_whole (text : String) : Text.slice? text (.whole text) = some text := by
  refine Text.slice?_eq_some_iff.2 ⟨[], [], Text.cut?_eq_some_iff.2 ⟨?_, rfl, ?_⟩⟩
  · rw [List.nil_append, List.append_nil]
  · show 0 + Text.byteLength text.toList = text.utf8ByteSize
    rw [Nat.zero_add, Text.byteLength_toList]

/-- A text stands at every member of a view. -/
theorem Grammars.Aligned.slice? {grammars : Grammars} (h : grammars.Aligned)
    {language : Language} {source : String} {location : Location} {part : View}
    (hp : (grammars.view language source).at? location = some part) :
    (Text.slice? source part.label.span).isSome := by
  refine View.spans_project (P := fun span => (Text.slice? source span).isSome) ?_
    (h language source) _ (View.member_mem_preorder hp)
  rw [Text.slice?_whole]
  rfl

end TreeQuery
