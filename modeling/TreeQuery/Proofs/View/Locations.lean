/-
Locations: a member's address in a view leads back to it.

The children of a member are told apart by their names and, among those of one name, by their
numbers, so no two children have the same segment and a segment looked up leads to its own
child (`lookup_numberedAfter`). A location is the segments from the root down; along it the
view is taken apart child by child (`at?_append`), and every entry in the table of a view
stands at its location (`at?_of_mem_entries`).
-/
import TreeQuery.Cache
import TreeQuery.View.Member

namespace TreeQuery.View

-- ============================================================ segments

/-- A child's number is no less than the number of its namesakes before all of them. -/
theorem count_le_ordinal {earlier : List String} {trees : List View} {segment : Segment}
    {tree : View} (h : (segment, tree) ∈ numberedAfter earlier trees) :
    earlier.count segment.name ≤ segment.ordinal := by
  induction trees generalizing earlier with
  | nil => cases h
  | cons t rest ih =>
      rcases List.mem_cons.1 h with he | h
      · obtain ⟨rfl, rfl⟩ := Prod.mk.inj he
        exact Nat.le_refl _
      · have hle := ih h
        rw [List.count_cons] at hle
        omega

/-- A segment has the name of its member. -/
theorem mem_of_mem_numberedAfter {earlier : List String} {trees : List View} {segment : Segment}
    {tree : View} (h : (segment, tree) ∈ numberedAfter earlier trees) :
    tree ∈ trees ∧ segment.name = tree.label.name := by
  induction trees generalizing earlier with
  | nil => cases h
  | cons t rest ih =>
      rcases List.mem_cons.1 h with he | h
      · obtain ⟨rfl, rfl⟩ := Prod.mk.inj he
        exact ⟨List.mem_cons_self, rfl⟩
      · obtain ⟨hmem, hname⟩ := ih h
        exact ⟨List.mem_cons_of_mem _ hmem, hname⟩

/-- A segment leads to the child it belongs to. -/
theorem lookup_numberedAfter {earlier : List String} {trees : List View} {segment : Segment}
    {tree : View} (h : (segment, tree) ∈ numberedAfter earlier trees) :
    (numberedAfter earlier trees).lookup segment = some tree := by
  induction trees generalizing earlier with
  | nil => cases h
  | cons t rest ih =>
      show List.lookup segment ((⟨t.label.name, earlier.count t.label.name⟩, t) :: _) = _
      rw [List.lookup_cons]
      rcases List.mem_cons.1 h with he | h
      · obtain ⟨rfl, rfl⟩ := Prod.mk.inj he
        rw [beq_self_eq_true]
      · have hne : segment ≠ ⟨t.label.name, earlier.count t.label.name⟩ := by
          rintro rfl
          have hle := count_le_ordinal h
          rw [List.count_cons, beq_self_eq_true, if_pos rfl] at hle
          exact Nat.not_succ_le_self _ hle
        rw [beq_eq_false_iff_ne.2 hne]
        exact ih h

/-- No two children have the same segment. -/
theorem nodup_segments (earlier : List String) (trees : List View) :
    ((numberedAfter earlier trees).map (·.1)).Nodup := by
  induction trees generalizing earlier with
  | nil => exact List.Pairwise.nil
  | cons t rest ih =>
      refine List.Pairwise.cons (fun segment hs he => ?_) (ih _)
      obtain ⟨⟨other, child⟩, hc, rfl⟩ := List.mem_map.1 hs
      have hle := count_le_ordinal hc
      obtain rfl : (⟨t.label.name, earlier.count t.label.name⟩ : Segment) = other := he
      rw [List.count_cons, beq_self_eq_true, if_pos rfl] at hle
      exact Nat.not_succ_le_self _ hle

-- =========================================================== locations

/-- One location after another. -/
theorem at?_cons_eq (view : View) (segment : Segment) (below : Location) :
    view.at? (segment :: below) =
      (view.numberedChildren.lookup segment).bind (·.at? below) := by
  rw [at?]
  cases view.numberedChildren.lookup segment with
  | none => rfl
  | some child => rfl

theorem at?_append (view : View) (above below : Location) :
    view.at? (above ++ below) = (view.at? above).bind (·.at? below) := by
  induction above generalizing view with
  | nil => rfl
  | cons segment above ih =>
      rw [List.cons_append, at?_cons_eq, at?_cons_eq]
      cases view.numberedChildren.lookup segment with
      | none => rfl
      | some child => exact ih child

theorem at?_cons {view child : View} {segment : Segment} {below : Location}
    (h : (segment, child) ∈ view.numberedChildren) :
    view.at? (segment :: below) = child.at? below := by
  have hl : view.numberedChildren.lookup segment = some child := lookup_numberedAfter h
  rw [at?_cons_eq, hl]
  rfl

/-- A child stands one segment below its parent. -/
theorem at?_child {view tree child : View} {location : Location} {segment : Segment}
    (ht : view.at? location = some tree) (h : (segment, child) ∈ tree.numberedChildren) :
    view.at? (location ++ [segment]) = some child := by
  rw [at?_append, ht]
  exact at?_cons h

mutual

/-- An entry listed from a tree on stands below the location the tree has. -/
theorem location_of_mem_entriesFrom {parent : Option Nat} {index : Nat} {location : Location}
    {tree : View} {entry : Entry} (h : entry ∈ entriesFrom parent index location tree) :
    ∃ below part, entry.location = location ++ below ∧ tree.at? below = some part ∧
      part.label = entry.member := by
  match tree, h with
  | .node member children, h =>
      rcases List.mem_cons.1 h with rfl | h
      · exact ⟨[], _, (List.append_nil _).symm, rfl, rfl⟩
      · obtain ⟨segment, child, below, part, hc, hl, hp, hm⟩ := location_of_mem_entriesOfAll h
        refine ⟨segment :: below, part, hl, ?_, hm⟩
        rw [at?_cons hc]
        exact hp

theorem location_of_mem_entriesOfAll {parent index : Nat} {location : Location}
    {earlier : List String} {trees : List View} {entry : Entry}
    (h : entry ∈ entriesOfAll parent index location earlier trees) :
    ∃ segment child below part, (segment, child) ∈ numberedAfter earlier trees ∧
      entry.location = location ++ segment :: below ∧ child.at? below = some part ∧
      part.label = entry.member := by
  match trees, h with
  | tree :: rest, h =>
      rcases List.mem_append.1 h with h | h
      · obtain ⟨below, part, hl, hp, hm⟩ := location_of_mem_entriesFrom h
        refine ⟨_, tree, below, part, List.mem_cons_self, ?_, hp, hm⟩
        rw [hl, List.append_assoc]
        rfl
      · obtain ⟨segment, child, below, part, hc, hl, hp, hm⟩ := location_of_mem_entriesOfAll h
        exact ⟨segment, child, below, part, List.mem_cons_of_mem _ hc, hl, hp, hm⟩

end

/-- Every entry of a view's table is what stands at its location. -/
theorem at?_of_mem_entries {view : View} {entry : Entry} (h : entry ∈ view.entries) :
    ∃ part, view.at? entry.location = some part ∧ part.label = entry.member := by
  obtain ⟨below, part, hl, hp, hm⟩ := location_of_mem_entriesFrom h
  rw [List.nil_append] at hl
  exact ⟨part, hl ▸ hp, hm⟩

/-- What is found by its span is an entry of the table, and has the span. -/
theorem mem_entries_of_findBySpan? {view : View} {span : Text.Span} {kind : String}
    {index : Nat} {entry : Entry} (h : view.findBySpan? span kind = some (index, entry)) :
    entry ∈ view.entries ∧ entry.member.span = span := by
  have hmem : ∀ {found : Nat × Entry}, found ∈ (view.entries.zipIdx.map
      fun entry => (entry.2, entry.1)).filter
        (fun found => found.1 != 0 && found.2.member.span == span) →
      found.2 ∈ view.entries ∧ found.2.member.span = span := by
    intro found hf
    obtain ⟨hf, hs⟩ := List.mem_filter.1 hf
    obtain ⟨⟨e, i⟩, he, rfl⟩ := List.mem_map.1 hf
    rw [Bool.and_eq_true, beq_iff_eq] at hs
    exact ⟨(List.mem_zipIdx he).2.2 ▸ List.getElem_mem _, hs.2⟩
  unfold findBySpan? at h
  rcases Option.or_eq_some_iff.1 h with h | ⟨-, h⟩
  · exact hmem (List.mem_of_find?_eq_some h)
  · exact hmem (List.mem_of_head? h)

end TreeQuery.View
