/-
The table of a view is its tree, listed.

A tree has as many subtrees as nodes, and `Rose.subtrees` lists them in pre-order. The row at an
index of the table is about the subtree at that index: it has its label, and its children are the
rows of the subtree's children (`row`, `rows_of_children`). The one fact behind this is that a
listing is made of listings: what is listed from an index on begins with all that is listed of the
subtree there (`Rose.subtrees_drop`, `entriesFrom_drop`).

So the links of the table are those of a tree in pre-order (`Arranged`), for every view.
-/
import TreeQuery.Proofs.View.Addresses

namespace TreeQuery

-- ============================================================ subtrees

namespace Rose

variable {α : Type}

mutual

/-- The tree and all trees below it, each before what is below it. -/
def subtrees : Rose α → List (Rose α)
  | .node label children => .node label children :: subtreesAll children

/-- The trees and all below them, one after the other. -/
def subtreesAll : List (Rose α) → List (Rose α)
  | [] => []
  | tree :: rest => subtrees tree ++ subtreesAll rest

end

mutual

/-- The labels in pre-order are those of the subtrees. -/
theorem map_label_subtrees (tree : Rose α) : tree.subtrees.map label = tree.preorder := by
  match tree with
  | .node label children =>
      rw [subtrees, List.map_cons, map_label_subtreesAll, preorder]
      rfl

theorem map_label_subtreesAll (trees : List (Rose α)) :
    (subtreesAll trees).map label = preorderAll trees := by
  match trees with
  | [] => rfl
  | tree :: rest =>
      rw [subtreesAll, List.map_append, map_label_subtrees, map_label_subtreesAll, preorderAll]

end

mutual

theorem length_subtrees (tree : Rose α) : tree.subtrees.length = tree.size := by
  match tree with
  | .node label children => rw [subtrees, List.length_cons, length_subtreesAll, size]

theorem length_subtreesAll (trees : List (Rose α)) :
    (subtreesAll trees).length = sizeAll trees := by
  match trees with
  | [] => rfl
  | tree :: rest =>
      rw [subtreesAll, List.length_append, length_subtrees, length_subtreesAll, sizeAll]

end

theorem self_mem_subtrees (tree : Rose α) : tree ∈ tree.subtrees := by
  cases tree with
  | node label children => exact List.mem_cons_self

theorem mem_subtreesAll {trees : List (Rose α)} {part : Rose α} :
    part ∈ subtreesAll trees ↔ ∃ tree ∈ trees, part ∈ tree.subtrees := by
  induction trees with
  | nil => simp [subtreesAll]
  | cons tree rest ih => simp [subtreesAll, ih]

/-- What is below a child is below its parent. -/
theorem mem_subtrees_of_child {tree child part : Rose α} (hc : child ∈ tree.children)
    (hp : part ∈ child.subtrees) : part ∈ tree.subtrees := by
  cases tree with
  | node label children => exact List.mem_cons_of_mem _ (mem_subtreesAll.2 ⟨child, hc, hp⟩)

/-- What is below a tree is no larger. -/
theorem size_le_of_mem_subtrees {tree part : Rose α} (h : part ∈ tree.subtrees) :
    part.size ≤ tree.size := by
  induction hsize : tree.size using Nat.strongRecOn generalizing tree with
  | ind size ih =>
      subst hsize
      cases tree with
      | node label children =>
          rcases List.mem_cons.1 h with rfl | h
          · exact Nat.le_refl _
          · obtain ⟨child, hc, hp⟩ := mem_subtreesAll.1 h
            have hlt : child.size < (Rose.node label children).size := size_lt_of_mem_children hc
            exact Nat.le_trans (ih child.size hlt hp rfl) (Nat.le_of_lt hlt)

mutual

/-- From a subtree on, all that is below it is listed first. -/
theorem subtrees_drop {tree part : Rose α} {k : Nat} (h : tree.subtrees[k]? = some part) :
    part.subtrees <+: tree.subtrees.drop k := by
  match tree, k, h with
  | .node label children, 0, h =>
      obtain rfl := Option.some.inj h
      exact List.prefix_refl _
  | .node label children, k + 1, h =>
      rw [subtrees, List.getElem?_cons_succ] at h
      exact subtreesAll_drop h

theorem subtreesAll_drop {trees : List (Rose α)} {part : Rose α} {k : Nat}
    (h : (subtreesAll trees)[k]? = some part) :
    part.subtrees <+: (subtreesAll trees).drop k := by
  match trees, h with
  | [], h => cases h
  | tree :: rest, h =>
      rw [subtreesAll] at h ⊢
      rcases Nat.lt_or_ge k tree.subtrees.length with hk | hk
      · rw [List.getElem?_append_left hk] at h
        rw [List.drop_append_of_le_length (Nat.le_of_lt hk)]
        exact (subtrees_drop h).trans (List.prefix_append _ _)
      · rw [List.getElem?_append_right hk] at h
        rw [List.drop_append, List.drop_eq_nil_of_le hk, List.nil_append]
        exact subtreesAll_drop h

end

/-- What is below a subtree is below the tree. -/
theorem subtrees_subset {tree part : Rose α} (h : part ∈ tree.subtrees) :
    part.subtrees ⊆ tree.subtrees := by
  obtain ⟨k, hk⟩ := List.mem_iff_getElem?.1 h
  exact List.Subset.trans (subtrees_drop hk).subset (List.drop_subset _ _)

end Rose

namespace View

-- ============================================================ listings

mutual

/-- From a row on, the rows of the subtree there are listed first. -/
theorem entriesFrom_drop {parent : Option Nat} {index k : Nat} {location : Location} {tree : View}
    {entry : Entry} (h : (entriesFrom parent index location tree)[k]? = some entry) :
    ∃ part, tree.subtrees[k]? = some part ∧
      entriesFrom entry.parent (index + k) entry.location part <+:
        (entriesFrom parent index location tree).drop k := by
  match tree, k, h with
  | .node member children, 0, h =>
      obtain rfl := Option.some.inj h
      exact ⟨_, rfl, List.prefix_refl _⟩
  | .node member children, k + 1, h =>
      rw [entriesFrom, List.getElem?_cons_succ] at h
      obtain ⟨part, hpart, hprefix⟩ := entriesOfAll_drop h
      refine ⟨part, hpart, ?_⟩
      rw [show index + 1 + k = index + (k + 1) by omega] at hprefix
      exact hprefix

theorem entriesOfAll_drop {parent index k : Nat} {location : Location} {earlier : List String}
    {trees : List View} {entry : Entry}
    (h : (entriesOfAll parent index location earlier trees)[k]? = some entry) :
    ∃ part, (Rose.subtreesAll trees)[k]? = some part ∧
      entriesFrom entry.parent (index + k) entry.location part <+:
        (entriesOfAll parent index location earlier trees).drop k := by
  match trees, h with
  | [], h => cases h
  | tree :: rest, h =>
      have hsize := length_entriesFrom (some parent) index
        (location ++ [⟨tree.label.name, earlier.count tree.label.name⟩]) tree
      have hsubtrees := tree.length_subtrees
      rw [entriesOfAll] at h ⊢
      rw [Rose.subtreesAll]
      rcases Nat.lt_or_ge k tree.size with hk | hk
      · rw [List.getElem?_append_left (by omega)] at h
        obtain ⟨part, hpart, hprefix⟩ := entriesFrom_drop h
        refine ⟨part, ?_, ?_⟩
        · rw [List.getElem?_append_left (by omega)]
          exact hpart
        · rw [List.drop_append_of_le_length (by omega)]
          exact hprefix.trans (List.prefix_append _ _)
      · rw [List.getElem?_append_right (by omega), hsize] at h
        obtain ⟨part, hpart, hprefix⟩ := entriesOfAll_drop h
        refine ⟨part, ?_, ?_⟩
        · rw [List.getElem?_append_right (by omega), hsubtrees]
          exact hpart
        · rw [List.drop_append, List.drop_eq_nil_of_le (by omega), List.nil_append, hsize]
          rw [show index + tree.size + (k - tree.size) = index + k by omega] at hprefix
          exact hprefix

end

/-- What is listed from an index on, and what follows it. -/
theorem prefix_drop_append {α : Type} (first : List α) {all rest : List α} {index : Nat}
    (h : first ++ rest <+: all.drop index) :
    first <+: all.drop index ∧ rest <+: all.drop (index + first.length) := by
  obtain ⟨after, hafter⟩ := h
  rw [List.append_assoc] at hafter
  refine ⟨⟨_, hafter⟩, after, ?_⟩
  rw [← List.drop_drop, ← hafter, List.drop_left]

/-- Where trees are listed one after the other, each stands at its index. -/
theorem map_indicesFrom {all : List View} {index : Nat} {trees : List View}
    (h : Rose.subtreesAll trees <+: all.drop index) :
    (indicesFrom index trees).map (all[·]?) = trees.map some := by
  induction trees generalizing index with
  | nil => rfl
  | cons tree rest ih =>
      obtain ⟨⟨after, hafter⟩, hrest⟩ := prefix_drop_append _ h
      have hhead : all[index]? = some tree := by
        rw [← List.head?_drop, ← hafter]
        cases tree with
        | node label children => rfl
      rw [tree.length_subtrees] at hrest
      rw [indicesFrom, List.map_cons, List.map_cons, hhead, ih hrest]

/-- And at each index is the row of the tree there: it has the parent that it is listed for, and
stands one segment below it. -/
theorem exists_rows {table : List Entry} {parent index : Nat} {location : Location}
    {earlier : List String} {trees : List View}
    (h : entriesOfAll parent index location earlier trees <+: table.drop index) :
    ∃ rows : List Entry, (indicesFrom index trees).map (table[·]?) = rows.map some ∧
      (∀ row ∈ rows, row.parent = some parent) ∧
      rows.map Entry.member = trees.map Rose.label ∧
      rows.map Entry.location =
        (numberedAfter earlier trees).map fun child => location ++ [child.1] := by
  induction trees generalizing index earlier with
  | nil => exact ⟨[], rfl, fun _ hr => (List.not_mem_nil hr).elim, rfl, rfl⟩
  | cons tree rest ih =>
      obtain ⟨⟨after, hafter⟩, hrest⟩ := prefix_drop_append _ h
      rw [length_entriesFrom] at hrest
      obtain ⟨rows, hrows, hparent, hmember, hlocation⟩ := ih hrest
      cases tree with
      | node member children =>
          refine ⟨⟨member, some parent, indicesFrom (index + 1) children,
            location ++ [⟨member.name, earlier.count member.name⟩]⟩ :: rows, ?_,
            List.forall_mem_cons.2 ⟨rfl, hparent⟩, ?_, ?_⟩
          · rw [indicesFrom, List.map_cons, List.map_cons, hrows, ← List.head?_drop, ← hafter]
            rfl
          · rw [List.map_cons, List.map_cons, hmember]
            rfl
          · rw [List.map_cons, hlocation]
            rfl

/-- Later trees are listed further on. -/
theorem lt_of_mem_indicesFrom {index j : Nat} {trees : List View}
    (h : j ∈ indicesFrom index trees) : index ≤ j := by
  induction trees generalizing index with
  | nil => cases h
  | cons tree rest ih =>
      rcases List.mem_cons.1 h with rfl | h
      · exact Nat.le_refl _
      · exact Nat.le_trans (Nat.le_add_right _ _) (ih h)

theorem pairwise_indicesFrom (index : Nat) (trees : List View) :
    (indicesFrom index trees).Pairwise (· < ·) := by
  induction trees generalizing index with
  | nil => exact .nil
  | cons tree rest ih =>
      refine .cons (fun j hj => ?_) (ih _)
      have hle := lt_of_mem_indicesFrom hj
      have hpos := tree.size_pos
      omega

mutual

/-- Every row but the first is listed as a child of an earlier one. -/
theorem exists_above {tree : View} (index : Nat) {k : Nat} (hk : k < tree.size) :
    k = 0 ∨ ∃ i part, i < k ∧ tree.subtrees[i]? = some part ∧
      index + k ∈ indicesFrom (index + i + 1) part.children := by
  match tree, k, hk with
  | .node member children, 0, _ => exact .inl rfl
  | .node member children, k + 1, hk =>
      refine .inr ?_
      rw [Rose.size] at hk
      rcases exists_aboveAll (index + 1) (Nat.lt_of_succ_lt_succ hk) with hmem | habove
      · refine ⟨0, .node member children, Nat.succ_pos k, rfl, ?_⟩
        rw [show index + (k + 1) = index + 1 + k by omega]
        exact hmem
      · obtain ⟨i, part, hi, hpart, hmem⟩ := habove
        refine ⟨i + 1, part, Nat.succ_lt_succ hi, ?_, ?_⟩
        · rw [Rose.subtrees, List.getElem?_cons_succ]
          exact hpart
        · rw [show index + (k + 1) = index + 1 + k by omega,
            show index + (i + 1) + 1 = index + 1 + i + 1 by omega]
          exact hmem

theorem exists_aboveAll {trees : List View} (index : Nat) {k : Nat}
    (hk : k < Rose.sizeAll trees) :
    index + k ∈ indicesFrom index trees ∨
      ∃ i part, i < k ∧ (Rose.subtreesAll trees)[i]? = some part ∧
        index + k ∈ indicesFrom (index + i + 1) part.children := by
  match trees, hk with
  | [], hk => exact absurd hk (Nat.not_lt_zero k)
  | tree :: rest, hk =>
      have hsubtrees := tree.length_subtrees
      rw [Rose.sizeAll] at hk
      rw [Rose.subtreesAll, indicesFrom]
      rcases Nat.lt_or_ge k tree.size with hlt | hge
      · rcases exists_above index hlt with rfl | ⟨i, part, hi, hpart, hmem⟩
        · exact .inl List.mem_cons_self
        · refine .inr ⟨i, part, hi, ?_, hmem⟩
          rw [List.getElem?_append_left (by omega)]
          exact hpart
      · obtain ⟨d, rfl⟩ := Nat.exists_eq_add_of_le hge
        have hd : d < Rose.sizeAll rest := Nat.lt_of_add_lt_add_left hk
        rcases exists_aboveAll (index + tree.size) hd with hmem | habove
        · refine .inl (List.mem_cons_of_mem _ ?_)
          rw [← Nat.add_assoc]
          exact hmem
        · obtain ⟨i, part, hi, hpart, hmem⟩ := habove
          refine .inr ⟨tree.size + i, part, by omega, ?_, ?_⟩
          · rw [List.getElem?_append_right (by omega), hsubtrees, Nat.add_sub_cancel_left]
            exact hpart
          · rw [← Nat.add_assoc, ← Nat.add_assoc]
            exact hmem

end

-- ================================================================ rows

variable {view : View} {i j : Nat} {above below entry : Entry}

/-- A row is about the subtree at its index. -/
theorem row (h : view.entries[i]? = some entry) :
    ∃ part, view.subtrees[i]? = some part ∧ entry.member = part.label ∧
      entry.children = indicesFrom (i + 1) part.children ∧
      entriesOfAll i (i + 1) entry.location [] part.children <+: view.entries.drop (i + 1) := by
  obtain ⟨part, hpart, hprefix⟩ := entriesFrom_drop h
  rw [Nat.zero_add] at hprefix
  cases part with
  | node member children =>
      obtain ⟨⟨after, hafter⟩, hrest⟩ := prefix_drop_append [_] hprefix
      have hentry : (view.entries.drop i).head? = some entry := by rw [List.head?_drop, h]
      rw [entries, ← hafter] at hentry
      have hentry := Option.some.inj hentry
      exact ⟨_, hpart, congrArg Entry.member hentry.symm, congrArg Entry.children hentry.symm,
        hrest⟩

/-- At each index stands a row if there is a subtree. -/
theorem exists_row {part : View} (h : view.subtrees[i]? = some part) :
    ∃ entry, view.entries[i]? = some entry ∧ entry.member = part.label := by
  have hlength : view.entries.length = view.subtrees.length :=
    (length_entriesFrom none 0 [] view).trans view.length_subtrees.symm
  have hi : i < view.entries.length := hlength ▸ (List.getElem?_eq_some_iff.1 h).1
  obtain ⟨other, hother, hmember, -⟩ := row (List.getElem?_eq_getElem hi)
  obtain rfl := Option.some.inj (h.symm.trans hother)
  exact ⟨_, List.getElem?_eq_getElem hi, hmember⟩

/-- The children of a row are about the children of its subtree. -/
theorem children_parts {part : View} (h : view.subtrees[i]? = some part) :
    (indicesFrom (i + 1) part.children).map (view.subtrees[·]?) = part.children.map some := by
  refine map_indicesFrom ?_
  have hprefix := Rose.subtrees_drop h
  cases part with
  | node member children => exact (prefix_drop_append [_] hprefix).2

/-- The row of a child is about a child of the subtree. -/
theorem child_part {part child : View} (hp : view.subtrees[i]? = some part)
    (hj : j ∈ indicesFrom (i + 1) part.children) (hc : view.subtrees[j]? = some child) :
    child ∈ part.children := by
  have hmem := List.mem_map_of_mem (f := (view.subtrees[·]?)) hj
  rw [children_parts hp, hc] at hmem
  obtain ⟨other, ho, he⟩ := List.mem_map.1 hmem
  exact Option.some.inj he ▸ ho

/-- The links between the rows of a table agree with each other, and with the order of the rows. -/
structure Arranged (table : List Entry) : Prop where
  /-- A row is the parent of its children, and of no others. -/
  linked : ∀ {i j : Nat} {above below : Entry}, table[i]? = some above → table[j]? = some below →
    (below.parent = some i ↔ j ∈ above.children)
  /-- Links lead to rows. -/
  inside : ∀ {i : Nat} {entry : Entry}, table[i]? = some entry →
    (∀ j ∈ entry.children, j < table.length) ∧ ∀ above, entry.parent = some above →
      above < table.length
  /-- The first row alone has no parent. -/
  root : ∀ {i : Nat} {entry : Entry}, table[i]? = some entry → (entry.parent = none ↔ i = 0)
  /-- A parent comes before its children. -/
  descending : ∀ {i : Nat} {entry : Entry}, table[i]? = some entry →
    (∀ j ∈ entry.children, i < j) ∧ ∀ above, entry.parent = some above → above < i
  /-- And the children one after the other. -/
  ascending : ∀ {i : Nat} {entry : Entry}, table[i]? = some entry →
    entry.children.Pairwise (· < ·)

/-- The rows of the children of a row. -/
def childRows (table : List Entry) (entry : Entry) : List Entry :=
  entry.children.filterMap (table[·]?)

/-- The children of a row have their rows, each for a child of the subtree, in order. -/
theorem rows_of_children {part : View} (h : view.entries[i]? = some entry)
    (hp : view.subtrees[i]? = some part) :
    entry.children.map (view.entries[·]?) = (childRows view.entries entry).map some ∧
      (∀ row ∈ childRows view.entries entry, row.parent = some i) ∧
      (childRows view.entries entry).map Entry.member = part.children.map Rose.label ∧
      (childRows view.entries entry).map Entry.location =
        part.numberedChildren.map fun child => entry.location ++ [child.1] := by
  obtain ⟨other, hother, -, hchildren, hprefix⟩ := row h
  obtain rfl := Option.some.inj (hp.symm.trans hother)
  obtain ⟨rows, hrows, hparent, hmember, hlocation⟩ := exists_rows hprefix
  have heq : childRows view.entries entry = rows :=
    calc childRows view.entries entry
        = (entry.children.map (view.entries[·]?)).filterMap id := by
          rw [List.filterMap_map]
          rfl
      _ = (rows.map some).filterMap id := by rw [hchildren, hrows]
      _ = rows.filterMap some := List.filterMap_map
      _ = rows := List.filterMap_some
  rw [heq, hchildren]
  exact ⟨hrows, hparent, hmember, hlocation⟩

theorem parent_of_mem_children (ha : view.entries[i]? = some above) (hj : j ∈ above.children) :
    ∃ entry, view.entries[j]? = some entry ∧ entry.parent = some i := by
  obtain ⟨part, hpart, -⟩ := row ha
  obtain ⟨hrows, hparent, -⟩ := rows_of_children ha hpart
  have hmem := List.mem_map_of_mem (f := (view.entries[·]?)) hj
  rw [hrows] at hmem
  obtain ⟨row, hrow, heq⟩ := List.mem_map.1 hmem
  exact ⟨row, heq.symm, hparent row hrow⟩

theorem lt_of_mem_children (ha : view.entries[i]? = some above) (hj : j ∈ above.children) :
    i < j := by
  obtain ⟨part, -, -, hchildren, -⟩ := row ha
  rw [hchildren] at hj
  exact lt_of_mem_indicesFrom hj

/-- The first row has no parent, and any other is one of its parent's children. -/
theorem parent_cases (hb : view.entries[j]? = some below) :
    (j = 0 ∧ below.parent = none) ∨ ∃ i above, i < j ∧ view.entries[i]? = some above ∧
      j ∈ above.children ∧ below.parent = some i := by
  have hj : j < view.size := by
    have hlt := (List.getElem?_eq_some_iff.1 hb).1
    rwa [entries, length_entriesFrom] at hlt
  rcases exists_above 0 hj with rfl | ⟨i, part, hi, hpart, hmem⟩
  · obtain ⟨entry, rest, hfirst, hparent, -⟩ := exists_root_entry none 0 [] view
    rw [entries, hfirst] at hb
    obtain rfl := Option.some.inj hb
    exact .inl ⟨rfl, hparent⟩
  · obtain ⟨above, ha, -⟩ := exists_row hpart
    obtain ⟨other, hother, -, hchildren, -⟩ := row ha
    obtain rfl := Option.some.inj (hpart.symm.trans hother)
    rw [Nat.zero_add, Nat.zero_add, ← hchildren] at hmem
    obtain ⟨entry, hentry, hparent⟩ := parent_of_mem_children ha hmem
    obtain rfl := Option.some.inj (hb.symm.trans hentry)
    exact .inr ⟨i, above, hi, ha, hmem, hparent⟩

/-- The table of every view is that of a tree in pre-order. -/
theorem arranged_entries (view : View) : Arranged view.entries where
  linked := by
    intro i j above below ha hb
    constructor
    · intro hparent
      rcases parent_cases hb with ⟨-, hnone⟩ | ⟨i', above', -, ha', hmem, hparent'⟩
      · rw [hparent] at hnone
        cases hnone
      · obtain rfl := Option.some.inj (hparent.symm.trans hparent')
        exact Option.some.inj (ha'.symm.trans ha) ▸ hmem
    · intro hmem
      obtain ⟨entry, hentry, hparent⟩ := parent_of_mem_children ha hmem
      exact Option.some.inj (hentry.symm.trans hb) ▸ hparent
  inside := by
    intro i entry h
    refine ⟨fun j hj => ?_, fun above ha => ?_⟩
    · obtain ⟨child, hchild, -⟩ := parent_of_mem_children h hj
      exact (List.getElem?_eq_some_iff.1 hchild).1
    · rcases parent_cases h with ⟨-, hnone⟩ | ⟨i', above', -, ha', -, hparent⟩
      · rw [ha] at hnone
        cases hnone
      · obtain rfl := Option.some.inj (ha.symm.trans hparent)
        exact (List.getElem?_eq_some_iff.1 ha').1
  root := by
    intro i entry h
    rcases parent_cases h with ⟨rfl, hnone⟩ | ⟨i', above', hlt, -, -, hparent⟩
    · exact ⟨fun _ => rfl, fun _ => hnone⟩
    · refine ⟨fun hnone => ?_, fun hzero => ?_⟩
      · rw [hparent] at hnone
        cases hnone
      · omega
  descending := by
    intro i entry h
    refine ⟨fun j hj => lt_of_mem_children h hj, fun above ha => ?_⟩
    rcases parent_cases h with ⟨-, hnone⟩ | ⟨i', above', hlt, -, -, hparent⟩
    · rw [ha] at hnone
      cases hnone
    · exact Option.some.inj (ha.symm.trans hparent) ▸ hlt
  ascending := by
    intro i entry h
    obtain ⟨part, -, -, hchildren, -⟩ := row h
    rw [hchildren]
    exact pairwise_indicesFrom _ _

end View

end TreeQuery
