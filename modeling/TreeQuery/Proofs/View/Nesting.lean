/-
Spans that nest.

The spans of a tree nest if every subtree stands within its parent, and siblings one after the
other without an overlap (`Rose.Nested`). If those of a syntax tree do, then so do those of the
view that is made of it, in every language (`nested_project`): the members made of a node stand
within its span, in the order of the nodes. In YAML a member stands for the content of a value,
which is a part of the value, and its own members are made of the children of that content. So
the induction is on values (`Yaml.nested_value`), and the rest follows from the order of the nodes
they are found in (`Rose.Ordered.flatMap`).
-/
import TreeQuery.Proofs.View.Members
import TreeQuery.Proofs.View.Spans

namespace TreeQuery

open Text (Span)

namespace Text.Span

theorem within_iff {inner outer : Span} :
    inner.within outer = true ↔ outer.start ≤ inner.start ∧ inner.stop ≤ outer.stop := by
  rw [within, Bool.and_eq_true, decide_eq_true_iff, decide_eq_true_iff]

theorem within_refl (span : Span) : span.within span = true :=
  within_iff.2 ⟨Nat.le_refl _, Nat.le_refl _⟩

theorem within_trans {inner middle outer : Span} (h : inner.within middle = true)
    (h' : middle.within outer = true) : inner.within outer = true := by
  rw [within_iff] at h h' ⊢
  exact ⟨Nat.le_trans h'.1 h.1, Nat.le_trans h.2 h'.2⟩

end Text.Span

-- ============================================================== trees

namespace Rose

variable {α β : Type} {span : α → Span} {span' : β → Span}

/-- The trees stand one after the other. -/
def Ordered (span : α → Span) (trees : List (Rose α)) : Prop :=
  trees.Pairwise fun first next => (span first.label).stop ≤ (span next.label).start

/-- Every subtree stands within its parent, and siblings one after the other. -/
def Nested (span : α → Span) (tree : Rose α) : Prop :=
  ∀ part ∈ tree.subtrees,
    (∀ child ∈ part.children, (span child.label).within (span part.label)) ∧
      Ordered span part.children

instance (span : α → Span) (trees : List (Rose α)) : Decidable (Ordered span trees) :=
  inferInstanceAs <| Decidable <|
    trees.Pairwise fun first next => (span first.label).stop ≤ (span next.label).start

instance (span : α → Span) (tree : Rose α) : Decidable (Nested span tree) :=
  inferInstanceAs <| Decidable <| ∀ part ∈ tree.subtrees,
    (∀ child ∈ part.children, (span child.label).within (span part.label)) ∧
      Ordered span part.children

theorem nested_node {label : α} {children : List (Rose α)} :
    Nested span (.node label children) ↔
      (∀ child ∈ children, (span child.label).within (span label)) ∧ Ordered span children ∧
        ∀ child ∈ children, child.Nested span := by
  constructor
  · intro h
    obtain ⟨hwithin, hordered⟩ := h _ (self_mem_subtrees _)
    exact ⟨hwithin, hordered, fun child hc part hp => h part (mem_subtrees_of_child hc hp)⟩
  · rintro ⟨hwithin, hordered, hchildren⟩ part hp
    rcases List.mem_cons.1 hp with rfl | hp
    · exact ⟨hwithin, hordered⟩
    · obtain ⟨child, hc, hp⟩ := mem_subtreesAll.1 hp
      exact hchildren child hc part hp

theorem nested_leaf (label : α) : Nested span (.node label []) :=
  nested_node.2 ⟨fun _ hc => (List.not_mem_nil hc).elim, .nil,
    fun _ hc => (List.not_mem_nil hc).elim⟩

theorem Nested.of_mem_subtrees {tree part : Rose α} (h : tree.Nested span)
    (hp : part ∈ tree.subtrees) : part.Nested span :=
  fun below hb => h below (subtrees_subset hp hb)

/-- A subtree stands within the tree. -/
theorem Nested.within {tree part : Rose α} (h : tree.Nested span) (hp : part ∈ tree.subtrees) :
    (span part.label).within (span tree.label) := by
  induction hsize : tree.size using Nat.strongRecOn generalizing tree with
  | ind size ih =>
      subst hsize
      cases tree with
      | node label children =>
          rcases List.mem_cons.1 hp with rfl | hp
          · exact Span.within_refl _
          · obtain ⟨child, hc, hp⟩ := mem_subtreesAll.1 hp
            obtain ⟨hwithin, -, hchildren⟩ := nested_node.1 h
            have hsmaller : child.size < (Rose.node label children).size :=
              size_lt_of_mem_children hc
            exact Span.within_trans (ih child.size hsmaller (hchildren child hc) hp rfl)
              (hwithin child hc)

/-- What is made of trees that stand one after the other, each within its tree. -/
theorem Ordered.flatMap {trees : List (Rose α)} {f : Rose α → List (Rose β)}
    (h : Ordered span trees) (hf : ∀ tree ∈ trees, Ordered span' (f tree) ∧
      ∀ made ∈ f tree, (span' made.label).within (span tree.label)) :
    Ordered span' (trees.flatMap f) := by
  refine List.pairwise_flatMap.2 ⟨fun tree ht => (hf tree ht).1, ?_⟩
  refine List.Pairwise.imp_of_mem ?_ h
  intro first next hfirst hnext hle made hmade other hother
  have hstop := (Span.within_iff.1 ((hf first hfirst).2 made hmade)).2
  have hstart := (Span.within_iff.1 ((hf next hnext).2 other hother)).1
  exact Nat.le_trans hstop (Nat.le_trans hle hstart)

theorem Ordered.filterMap {trees : List (Rose α)} {f : Rose α → Option (Rose β)}
    (h : Ordered span trees) (hf : ∀ tree ∈ trees, ∀ made, f tree = some made →
      (span' made.label).within (span tree.label)) : Ordered span' (trees.filterMap f) := by
  rw [List.filterMap_eq_flatMap_toList]
  refine h.flatMap fun tree ht => ?_
  cases hmade : f tree with
  | none => exact ⟨.nil, fun made hm => by cases hm⟩
  | some made =>
      refine ⟨List.pairwise_singleton _ _, fun other ho => ?_⟩
      obtain rfl := List.mem_singleton.1 ho
      exact hf tree ht other hmade

theorem Ordered.filter {trees : List (Rose α)} {p : Rose α → Bool} (h : Ordered span trees) :
    Ordered span (trees.filter p) := List.Pairwise.filter p h

end Rose

/-- The spans of a syntax tree nest, and lie in the source. -/
structure SyntaxTree.NestedIn (source : String) (tree : SyntaxTree) : Prop where
  nested : Rose.Nested SyntaxNode.span tree
  inside : (SyntaxTree.span tree).within (.whole source)

namespace View

variable {language : Language} {source : String} {tree : SyntaxTree}

-- ----------------------------------------------------------- programs

/-- The named nodes among some are viewed one by one. -/
theorem genericAll_eq (trees : List SyntaxTree) : genericAll language source trees =
    trees.filterMap fun tree =>
      if tree.label.named then some (generic language source tree) else none := by
  induction trees with
  | nil => rfl
  | cons tree rest ih =>
      rw [genericAll, List.filterMap_cons, ih]
      split
      · rfl
      · rfl

/-- The view of a node stands where the node does. -/
theorem span_generic (tree : SyntaxTree) :
    (generic language source tree).label.span = SyntaxTree.span tree := by
  cases tree with
  | node label children => rfl

/-- The views of nodes that stand one after the other do so too, each in the place of its node. -/
theorem ordered_genericAll (language : Language) (source : String) {trees : List SyntaxTree}
    (h : Rose.Ordered SyntaxNode.span trees) :
    Rose.Ordered Member.span (genericAll language source trees) ∧
      ∀ view ∈ genericAll language source trees, ∃ tree ∈ trees,
        view.label.span = SyntaxTree.span tree := by
  have hmade : ∀ {tree : SyntaxTree} {view : View},
      (if tree.label.named then some (generic language source tree) else none) = some view →
        view.label.span = SyntaxTree.span tree := by
    intro tree view hview
    split at hview
    · obtain rfl := Option.some.inj hview
      exact span_generic tree
    · cases hview
  rw [genericAll_eq]
  refine ⟨h.filterMap fun tree _ view hview => ?_, fun view hview => ?_⟩
  · rw [hmade hview]
    exact Span.within_refl _
  · obtain ⟨tree, ht, hview⟩ := List.mem_filterMap.1 hview
    exact ⟨tree, ht, hmade hview⟩

mutual

theorem nested_generic {language : Language} {source : String} {tree : SyntaxTree}
    (h : Rose.Nested SyntaxNode.span tree) :
    (generic language source tree).Nested Member.span := by
  match tree, h with
  | .node label children, h =>
      obtain ⟨hwithin, hordered, hchildren⟩ := Rose.nested_node.1 h
      obtain ⟨hviews, hspans⟩ := ordered_genericAll language source hordered
      refine Rose.nested_node.2 ⟨fun view hv => ?_, hviews, nested_genericAll hchildren⟩
      obtain ⟨child, hc, hspan⟩ := hspans view hv
      rw [hspan]
      exact hwithin child hc

theorem nested_genericAll {language : Language} {source : String} {trees : List SyntaxTree}
    (h : ∀ tree ∈ trees, Rose.Nested SyntaxNode.span tree) :
    ∀ view ∈ genericAll language source trees, view.Nested Member.span := by
  match trees, h with
  | [], _ =>
      intro view hv
      cases hv
  | tree :: rest, h =>
      intro view hv
      have hrest : ∀ view ∈ genericAll language source rest, view.Nested Member.span :=
        nested_genericAll fun tree ht => h tree (List.mem_cons_of_mem _ ht)
      rw [genericAll] at hv
      split at hv
      · rcases List.mem_cons.1 hv with rfl | hv
        · exact nested_generic (h tree List.mem_cons_self)
        · exact hrest view hv
      · exact hrest view hv

end

-- --------------------------------------------------------------- YAML

namespace Yaml

variable {node inner value : SyntaxTree}

/-- A value stands for its content, or else for what it falls back on. -/
theorem within_valueMember {name : String} {key : Option String} {outer : SyntaxTree}
    (ho : Rose.Nested SyntaxNode.span outer) (hv : value ∈ outer.subtrees) :
    (valueMember source name key (SyntaxTree.span outer) value).span.within
      (SyntaxTree.span outer) := by
  show (((content? value).map SyntaxTree.span).getD (SyntaxTree.span outer)).within _ = true
  cases hc : content? value with
  | none => exact Span.within_refl _
  | some inner => exact ho.within (Rose.subtrees_subset hv (content?_mem_subtrees hc))

/-- What a child of some content is viewed as stands within it, and nests if values do. -/
theorem nested_memberView? {shape : Shape} {child : SyntaxTree} {view : View}
    (h : memberView? source shape child = some view) (hn : Rose.Nested SyntaxNode.span child)
    (hvalues : ∀ value ∈ child.subtrees, ∀ name key fallback,
      Rose.Nested Member.span
        (.node (valueMember source name key fallback value) (membersOf source value))) :
    view.label.span.within (SyntaxTree.span child) ∧ view.Nested Member.span := by
  rcases memberView?_cases h with ⟨-, -, rfl⟩ | ⟨name, key, value, hvalue, rfl⟩
  · exact ⟨Span.within_refl _, Rose.nested_leaf _⟩
  · exact ⟨within_valueMember hn hvalue, hvalues value hvalue _ _ _⟩

/-- A value with all that is below it. -/
theorem nested_value (source : String) (hn : Rose.Nested SyntaxNode.span value) (name : String)
    (key : Option String) (fallback : Span) : Rose.Nested Member.span
      (.node (valueMember source name key fallback value) (membersOf source value)) := by
  induction hsize : value.size using Nat.strongRecOn generalizing value name key fallback with
  | ind size ih =>
      subst hsize
      cases hc : content? value with
      | none =>
          rw [membersOf_eq, hc]
          exact Rose.nested_leaf _
      | some inner =>
          have hmem := content?_mem_subtrees hc
          have hle := content?_size hc
          have hmade : ∀ child ∈ SyntaxTree.namedChildren inner, ∀ view,
              memberView? source (shapeOf (SyntaxTree.kind inner)) child = some view →
                view.label.span.within (SyntaxTree.span child) ∧ view.Nested Member.span := by
            intro child hchild view hview
            have hbelow := Rose.subtrees_subset hmem (namedChildren_mem_subtrees hchild)
            refine nested_memberView? hview (hn.of_mem_subtrees hbelow) ?_
            intro value' hv'
            have hlt := namedChildren_size hchild
            have hle' := Rose.size_le_of_mem_subtrees hv'
            exact fun name key fallback => ih value'.size (by omega)
              (hn.of_mem_subtrees (Rose.subtrees_subset hbelow hv')) name key fallback rfl
          have hinner := hn.of_mem_subtrees hmem
          obtain ⟨hwithin, hordered⟩ := hinner inner (Rose.self_mem_subtrees inner)
          have hspan : (valueMember source name key fallback value).span =
              SyntaxTree.span inner := by
            show (((content? value).map SyntaxTree.span).getD fallback) = _
            rw [hc]
            rfl
          rw [membersOf_of_content? hc]
          refine Rose.nested_node.2 ⟨fun view hview => ?_, ?_, fun view hview => ?_⟩
          · obtain ⟨child, hchild, hview⟩ := List.mem_filterMap.1 hview
            rw [hspan]
            exact Span.within_trans (hmade child hchild view hview).1
              (hwithin child (List.mem_filter.1 hchild).1)
          · exact hordered.filter.filterMap fun child hchild view hview =>
              (hmade child hchild view hview).1
          · obtain ⟨child, hchild, hview⟩ := List.mem_filterMap.1 hview
            exact (hmade child hchild view hview).2

/-- The members of a node stand within it, one after the other. -/
theorem ordered_membersOf (source : String) (hn : Rose.Nested SyntaxNode.span node) :
    Rose.Ordered Member.span (membersOf source node) ∧ ∀ view ∈ membersOf source node,
      view.label.span.within (SyntaxTree.span node) ∧ view.Nested Member.span := by
  obtain ⟨hwithin, hordered, hnested⟩ := Rose.nested_node.1
    (nested_value source hn "" none (SyntaxTree.span node))
  refine ⟨hordered, fun view hview => ⟨?_, hnested view hview⟩⟩
  exact Span.within_trans (hwithin view hview)
    (within_valueMember hn (Rose.self_mem_subtrees node))

/-- The members of a document stand within it, and so do those of a stream of documents. -/
theorem ordered_stream (source : String) (hn : Rose.Nested SyntaxNode.span tree) :
    Rose.Ordered Member.span (stream source tree) ∧ ∀ view ∈ stream source tree,
      view.label.span.within (SyntaxTree.span tree) ∧ view.Nested Member.span := by
  have hcontents : ∀ document ∈ SyntaxTree.namedChildren tree,
      Rose.Ordered Member.span ((contentChildren document).flatMap (membersOf source)) ∧
        ∀ view ∈ (contentChildren document).flatMap (membersOf source),
          view.label.span.within (SyntaxTree.span document) ∧ view.Nested Member.span := by
    intro document hd
    have hdocument := hn.of_mem_subtrees (namedChildren_mem_subtrees hd)
    obtain ⟨hwithin, hordered⟩ := hdocument document (Rose.self_mem_subtrees document)
    have hchild : ∀ child ∈ contentChildren document, Rose.Nested SyntaxNode.span child :=
      fun child hc => hdocument.of_mem_subtrees (contentChildren_mem_subtrees hc)
    refine ⟨hordered.filter.filter.flatMap fun child hc => ?_, fun view hview => ?_⟩
    · obtain ⟨hmembers, hviews⟩ := ordered_membersOf source (hchild child hc)
      exact ⟨hmembers, fun view hview => (hviews view hview).1⟩
    · obtain ⟨child, hc, hview⟩ := List.mem_flatMap.1 hview
      obtain ⟨hspan, hnested⟩ := (ordered_membersOf source (hchild child hc)).2 view hview
      have hmem := (List.mem_filter.1 (List.mem_filter.1 hc).1).1
      exact ⟨Span.within_trans hspan (hwithin child hmem), hnested⟩
  obtain ⟨hwithin, hordered⟩ := hn tree (Rose.self_mem_subtrees tree)
  refine ⟨hordered.filter.filter.flatMap fun document hd => ?_, fun view hview => ?_⟩
  · obtain ⟨hmembers, hviews⟩ := hcontents document (List.mem_filter.1 hd).1
    exact ⟨hmembers, fun view hview => (hviews view hview).1⟩
  · obtain ⟨document, hd, hview⟩ := List.mem_flatMap.1 hview
    have hmem := (List.mem_filter.1 hd).1
    obtain ⟨hspan, hnested⟩ := (hcontents document hmem).2 view hview
    exact ⟨Span.within_trans hspan (hwithin document (List.mem_filter.1 hmem).1), hnested⟩

end Yaml

/-- Where the spans of a syntax tree nest, so do those of its view. -/
theorem nested_project (language : Language) (h : tree.NestedIn source) :
    (project language source tree).Nested Member.span := by
  have hwhole : ∀ {view : View}, view.label.span.within (SyntaxTree.span tree) →
      view.label.span.within (.whole source) := fun hview => Span.within_trans hview h.inside
  have hprogram : Rose.Nested Member.span (.node (rootMember language source tree)
      (genericAll language source tree.children)) := by
    obtain ⟨hwithin, hordered⟩ := h.nested tree (Rose.self_mem_subtrees tree)
    obtain ⟨hviews, hspans⟩ := ordered_genericAll language source hordered
    refine Rose.nested_node.2 ⟨fun view hview => ?_, hviews, nested_genericAll fun child hc => ?_⟩
    · obtain ⟨child, hc, hspan⟩ := hspans view hview
      exact hwhole (hspan ▸ hwithin child hc)
    · exact h.nested.of_mem_subtrees
        (Rose.mem_subtrees_of_child hc (Rose.self_mem_subtrees child))
  cases language with
  | yaml =>
      obtain ⟨hordered, hviews⟩ := Yaml.ordered_stream source h.nested
      exact Rose.nested_node.2 ⟨fun view hview => hwhole (hviews view hview).1, hordered,
        fun view hview => (hviews view hview).2⟩
  | _ => exact hprogram

-- ============================================================== tables

variable {view : View} {i j j' : Nat} {above below below' : Entry}

/-- What holds along an ascending list holds of any two indices in it. -/
theorem rel_of_lt {R : Nat → Nat → Prop} {indices : List Nat} (ha : indices.Pairwise (· < ·))
    (h : indices.Pairwise R) (hj : j ∈ indices) (hj' : j' ∈ indices) (hlt : j < j') : R j j' := by
  induction indices with
  | nil => cases hj
  | cons k rest ih =>
      obtain ⟨hk, ha⟩ := List.pairwise_cons.1 ha
      obtain ⟨hr, h⟩ := List.pairwise_cons.1 h
      rcases List.mem_cons.1 hj with rfl | hmem
      · rcases List.mem_cons.1 hj' with rfl | hmem'
        · exact absurd hlt (Nat.lt_irrefl _)
        · exact hr j' hmem'
      · rcases List.mem_cons.1 hj' with rfl | hmem'
        · exact absurd (hk j hmem) (Nat.lt_asymm hlt)
        · exact ih ha h hmem hmem'

/-- In the table of a view whose spans nest, a row stands within its parent. -/
theorem within_parent (h : view.Nested Member.span) (ha : view.entries[i]? = some above)
    (hb : view.entries[j]? = some below) (hp : below.parent = some i) :
    below.member.span.within above.member.span := by
  obtain ⟨part, hpart, hmember, hchildren, -⟩ := row ha
  obtain ⟨child, hchild, hlabel, -⟩ := row hb
  have hj : j ∈ indicesFrom (i + 1) part.children :=
    hchildren ▸ ((arranged_entries view).linked ha hb).1 hp
  rw [hmember, hlabel]
  exact (h part (List.mem_of_getElem? hpart)).1 child (child_part hpart hj hchild)

/-- And the rows with one parent stand one after the other. -/
theorem ordered_siblings (h : view.Nested Member.span) (hb : view.entries[j]? = some below)
    (hb' : view.entries[j']? = some below') (hp : below.parent = some i)
    (hp' : below'.parent = some i) (hlt : j < j') :
    below.member.span.stop ≤ below'.member.span.start := by
  obtain ⟨above, ha⟩ : ∃ above, view.entries[i]? = some above :=
    ⟨_, List.getElem?_eq_getElem (((arranged_entries view).inside hb).2 i hp)⟩
  obtain ⟨part, hpart, -, hchildren, -⟩ := row ha
  obtain ⟨child, hchild, hlabel, -⟩ := row hb
  obtain ⟨child', hchild', hlabel', -⟩ := row hb'
  have hj : j ∈ indicesFrom (i + 1) part.children :=
    hchildren ▸ ((arranged_entries view).linked ha hb).1 hp
  have hj' : j' ∈ indicesFrom (i + 1) part.children :=
    hchildren ▸ ((arranged_entries view).linked ha hb').1 hp'
  -- The indices of the children ascend, and the trees there stand one after the other.
  have hspans : (indicesFrom (i + 1) part.children).Pairwise fun k k' =>
      ∀ first next, view.subtrees[k]? = some first → view.subtrees[k']? = some next →
        first.label.span.stop ≤ next.label.span.start := by
    have hordered : (part.children.map some).Pairwise fun found found' =>
        ∀ first next : View, found = some first → found' = some next →
          first.label.span.stop ≤ next.label.span.start := by
      rw [List.pairwise_map]
      refine (h part (List.mem_of_getElem? hpart)).2.imp ?_
      rintro first next hle _ _ ⟨⟩ ⟨⟩
      exact hle
    rw [← children_parts hpart, List.pairwise_map] at hordered
    exact hordered
  rw [hlabel, hlabel']
  exact rel_of_lt (pairwise_indicesFrom _ _) hspans hj hj' hlt child child' hchild hchild'

end View
end TreeQuery
