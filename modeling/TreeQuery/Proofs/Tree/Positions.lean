/-
The positions in a tree.

A position says which way to go down: the number of a child of the root, then of a child of that
one, and so on. Two parts of a tree may look the same, but they stand at different positions, so it
is positions that tell whether a list of the parts has each of them once.

Listed with each part before those below it and in front of its later siblings, the parts of a tree
come at ascending positions (`forall₂_positions`, `pairwise_positions`), where a position comes
before its continuations and one is compared with another at the first number in which they differ.
Each position of the tree is listed (`mem_positions`).
-/
import Mathlib.Data.List.Forall2
import Mathlib.Data.List.Nodup
import TreeQuery.Tree.Rose

namespace TreeQuery.Rose

variable {α β : Type}

mutual

/-- The trees at the root and below it, each before those below it and in front of its later
siblings. -/
def parts : Rose α → List (Rose α)
  | .node label children => .node label children :: partsAll children

/-- The parts of some trees, one tree after the other. -/
def partsAll : List (Rose α) → List (Rose α)
  | [] => []
  | tree :: rest => parts tree ++ partsAll rest

end

/-- What stands at a position. -/
def part? (tree : Rose α) : List Nat → Option (Rose α)
  | [] => some tree
  | index :: rest => tree.children[index]?.bind fun child => child.part? rest

mutual

/-- The positions in a tree, in the order of its parts. -/
def positions : Rose α → List (List Nat)
  | .node _ children => [] :: positionsFrom 0 children

/-- The positions in some trees that are children of one node, numbered from `index` on. -/
def positionsFrom (index : Nat) : List (Rose α) → List (List Nat)
  | [] => []
  | tree :: rest => (positions tree).map (index :: ·) ++ positionsFrom (index + 1) rest

end

-- =============================================================== parts

theorem parts_eq (tree : Rose α) : tree.parts = tree :: partsAll tree.children := by
  cases tree with
  | node label children => rfl

theorem partsAll_append (trees more : List (Rose α)) :
    partsAll (trees ++ more) = partsAll trees ++ partsAll more := by
  induction trees with
  | nil => rfl
  | cons tree trees ih => rw [List.cons_append, partsAll, partsAll, ih, List.append_assoc]

mutual

theorem map_label_parts (tree : Rose α) : tree.parts.map label = tree.preorder := by
  match tree with
  | .node label children =>
      rw [parts, preorder, List.map_cons, map_label_partsAll]
      rfl

theorem map_label_partsAll (trees : List (Rose α)) :
    (partsAll trees).map label = preorderAll trees := by
  match trees with
  | [] => rfl
  | tree :: rest =>
      rw [partsAll, preorderAll, List.map_append, map_label_parts, map_label_partsAll]

end

theorem size_eq (tree : Rose α) : tree.size = sizeAll tree.children + 1 := by
  cases tree with
  | node label children => rfl

theorem sizeAll_append (trees more : List (Rose α)) :
    sizeAll (trees ++ more) = sizeAll trees + sizeAll more := by
  induction trees with
  | nil => exact (Nat.zero_add _).symm
  | cons tree trees ih => rw [List.cons_append, sizeAll, sizeAll, ih, Nat.add_assoc]

theorem sizeAll_eq_zero {trees : List (Rose α)} (h : sizeAll trees = 0) : trees = [] := by
  cases trees with
  | nil => rfl
  | cons tree trees =>
      have hpos := tree.size_pos
      rw [sizeAll] at h
      omega

-- =========================================================== positions

theorem part?_child {label : α} {children : List (Rose α)} {index : Nat} {child : Rose α}
    (h : children[index]? = some child) (position : List Nat) :
    (node label children).part? (index :: position) = child.part? position := by
  show (children[index]?.bind fun child => child.part? position) = _
  rw [h, Option.bind_some]

mutual

/-- What stands at the positions are the parts, in their order. -/
theorem forall₂_positions (tree : Rose α) :
    List.Forall₂ (fun position part => tree.part? position = some part) tree.positions
      tree.parts := by
  match tree with
  | .node label children =>
      rw [positions, parts]
      exact .cons rfl (forall₂_positionsFrom label 0 children rfl)

theorem forall₂_positionsFrom (label : α) {children : List (Rose α)} (index : Nat)
    (trees : List (Rose α)) (h : children.drop index = trees) :
    List.Forall₂ (fun position part => (node label children).part? position = some part)
      (positionsFrom index trees) (partsAll trees) := by
  match trees with
  | [] => exact .nil
  | tree :: rest =>
      have hchild : children[index]? = some tree := by
        rw [← List.head?_drop, h, List.head?_cons]
      have hrest : children.drop (index + 1) = rest := by
        rw [← List.tail_drop, h, List.tail_cons]
      rw [positionsFrom, partsAll]
      refine List.rel_append ?_ (forall₂_positionsFrom label (index + 1) rest hrest)
      rw [List.forall₂_map_left_iff]
      exact (forall₂_positions tree).imp fun position part hp =>
        (part?_child hchild position).trans hp

end

/-- A position below some siblings starts with the number of one of them. -/
theorem mem_positionsFrom {index : Nat} {trees : List (Rose α)} {position : List Nat} :
    position ∈ positionsFrom index trees ↔ ∃ number child rest, trees[number]? = some child ∧
      rest ∈ child.positions ∧ position = (index + number) :: rest := by
  induction trees generalizing index with
  | nil => simp [positionsFrom]
  | cons tree trees ih =>
      rw [positionsFrom, List.mem_append, List.mem_map, ih]
      constructor
      · rintro (⟨rest, hrest, rfl⟩ | ⟨number, child, rest, hchild, hrest, rfl⟩)
        · exact ⟨0, tree, rest, rfl, hrest, rfl⟩
        · exact ⟨number + 1, child, rest, hchild, hrest, by rw [Nat.add_right_comm, Nat.add_assoc]⟩
      · rintro ⟨number, child, rest, hchild, hrest, rfl⟩
        cases number with
        | zero =>
            obtain rfl := Option.some.inj hchild
            exact .inl ⟨rest, hrest, rfl⟩
        | succ number =>
            exact .inr ⟨number, child, rest, hchild, hrest,
              by rw [Nat.add_right_comm, Nat.add_assoc]⟩

/-- The positions listed are those at which something stands. -/
theorem mem_positions {tree : Rose α} {position : List Nat} :
    position ∈ tree.positions ↔ (tree.part? position).isSome := by
  induction position generalizing tree with
  | nil =>
      obtain ⟨label, children⟩ := tree
      exact iff_of_true List.mem_cons_self rfl
  | cons index rest ih =>
      obtain ⟨label, children⟩ := tree
      rw [positions, List.mem_cons, or_iff_right (List.cons_ne_nil _ _), mem_positionsFrom]
      constructor
      · rintro ⟨number, child, _, hchild, hrest, he⟩
        obtain ⟨rfl, rfl⟩ := List.cons.inj he
        rw [Nat.zero_add, part?_child hchild, ← ih]
        exact hrest
      · intro h
        cases hchild : children[index]? with
        | none =>
            have hnone : (node label children).part? (index :: rest) = none := by
              show (children[index]?.bind fun child => child.part? rest) = none
              rw [hchild, Option.bind_none]
            rw [hnone] at h
            cases h
        | some child =>
            rw [part?_child hchild] at h
            exact ⟨index, child, rest, hchild, ih.2 h, by rw [Nat.zero_add]⟩

mutual

/-- The positions are listed in strict order. -/
theorem pairwise_positions (tree : Rose α) : tree.positions.Pairwise (· < ·) := by
  match tree with
  | .node label children =>
      rw [positions]
      refine List.pairwise_cons.2 ⟨fun position hp => ?_, pairwise_positionsFrom 0 children⟩
      obtain ⟨number, child, rest, -, -, rfl⟩ := mem_positionsFrom.1 hp
      exact List.nil_lt_cons _ _

theorem pairwise_positionsFrom (index : Nat) (trees : List (Rose α)) :
    (positionsFrom index trees).Pairwise (· < ·) := by
  match trees with
  | [] => exact .nil
  | tree :: rest =>
      rw [positionsFrom]
      refine List.pairwise_append.2 ⟨?_, pairwise_positionsFrom (index + 1) rest, ?_⟩
      · rw [List.pairwise_map]
        exact (pairwise_positions tree).imp fun {p q} hlt => List.cons_lt_cons_self.2 hlt
      · intro position hp later hl
        obtain ⟨below, -, rfl⟩ := List.mem_map.1 hp
        obtain ⟨number, child, beside, -, -, rfl⟩ := mem_positionsFrom.1 hl
        exact List.cons_lt_cons_iff.2 (.inl (by omega))

end

theorem nodup_positions (tree : Rose α) : tree.positions.Nodup :=
  tree.pairwise_positions.nodup

/-- Each position is listed once. -/
theorem existsUnique_positions {tree : Rose α} {position : List Nat} :
    (∃! index : Nat, tree.positions[index]? = some position) ↔ (tree.part? position).isSome := by
  rw [← mem_positions, List.mem_iff_getElem?]
  refine ⟨ExistsUnique.exists, fun ⟨index, h⟩ => ⟨index, h, fun other ho => ?_⟩⟩
  obtain ⟨hlt, -⟩ := List.getElem?_eq_some_iff.1 ho
  exact (List.getElem?_inj hlt tree.nodup_positions).1 (ho.trans h.symm)

/-- Of two positions the one that comes first is the one that is less. -/
theorem lt_of_positions {tree : Rose α} {i j : Nat} {position later : List Nat}
    (hi : tree.positions[i]? = some position) (hj : tree.positions[j]? = some later)
    (h : position < later) : i < j := by
  obtain ⟨hin, rfl⟩ := List.getElem?_eq_some_iff.1 hi
  obtain ⟨hjn, rfl⟩ := List.getElem?_eq_some_iff.1 hj
  rcases Nat.lt_trichotomy i j with hlt | rfl | hgt
  · exact hlt
  · exact absurd h (List.lt_irrefl _)
  · exact absurd (List.pairwise_iff_getElem.1 tree.pairwise_positions j i hjn hin hgt)
      (List.lt_asymm h)

/-- What is above comes first. -/
theorem lt_append (above : List Nat) {below : List Nat} (h : below ≠ []) :
    above < above ++ below := by
  induction above with
  | nil =>
      cases below with
      | nil => exact absurd rfl h
      | cons index below => exact List.nil_lt_cons _ _
  | cons index above ih => exact List.cons_lt_cons_self.2 ih

/-- Of what is at or below two siblings, that of the earlier one comes first. -/
theorem append_lt_append (above : List Nat) {first second : Nat} (h : first < second)
    (below beside : List Nat) : above ++ first :: below < above ++ second :: beside := by
  induction above with
  | nil => exact List.cons_lt_cons_iff.2 (.inl h)
  | cons index above ih => exact List.cons_lt_cons_self.2 ih

end TreeQuery.Rose
