/-
The project tree and the views, as trees.

Directories, files and members of views are places whose children are told apart by a last name or
segment, and the rest of the path or location is that of their parent (`Snapshot.branching`). So a
walk from any of them comes to each place once. The places of the project tree are those at and
below its root, and those of a view are at and below the view's root: each of these trees has the
places of one shape (`Legible.has_of_stands`), which their addresses tell apart.
-/
import TreeQuery.Proofs.Query.Once
import TreeQuery.Proofs.Snapshot.Places
import TreeQuery.Proofs.Snapshot.Tree

namespace TreeQuery

open Query (preorder)

variable {grammars : Grammars}

/-- The place is a directory, a file or a member of a view. -/
def Place.IsStructural : Place → Prop
  | .directory _ | .text (.file _) | .text (.member ..) => True
  | .text (.occurrence ..) | .text (.binding ..) => False

namespace Snapshot

variable {S : Snapshot grammars}

-- =========================================================== children

/-- The path of an entry is that of its directory with its name. -/
theorem entry_inj {directory other : ProjectPath} {name name' : String}
    (h : S.entry directory name = S.entry other name') : directory = other ∧ name = name' := by
  have hpath : directory ++ [name] = other ++ [name'] := by
    unfold entry at h
    dsimp only at h
    split at h <;> split at h
    · exact TextPlace.file.inj (Place.text.inj h)
    · cases h
    · cases h
    · exact Place.directory.inj h
  exact ⟨(List.append_inj' hpath rfl).1, List.head_eq_of_cons_eq (List.append_inj' hpath rfl).2⟩

/-- What is right below a directory is an entry of it. -/
theorem mem_children_directory {directory : ProjectPath} {child : Place}
    (h : child ∈ S.children (.directory directory)) : ∃ name, child = S.entry directory name := by
  obtain ⟨name, -, rfl⟩ := List.mem_map.1 h
  exact ⟨name, rfl⟩

/-- What is right below a member is one segment further. -/
theorem mem_children_member {file : ProjectPath} {language : Language} {location : Location}
    {child : Place} (h : child ∈ S.children (.text (.member file language location))) :
    ∃ segment, child = .text (.member file language (location ++ [segment])) := by
  cases htree : S.tree? file language location with
  | none =>
      rw [S.children_of_no_tree htree] at h
      cases h
  | some tree =>
      rw [S.children_of_tree? htree] at h
      obtain ⟨entry, -, rfl⟩ := List.mem_map.1 h
      exact ⟨entry.1, rfl⟩

theorem entry_ne_member {directory file : ProjectPath} {name : String} {language : Language}
    {location : Location} : S.entry directory name ≠ .text (.member file language location) := by
  unfold entry
  dsimp only
  split
  · rintro ⟨⟩
  · rintro ⟨⟩

theorem nodup_children_member (file : ProjectPath) (language : Language) (location : Location) :
    (S.children (.text (.member file language location))).Nodup := by
  cases htree : S.tree? file language location with
  | none =>
      rw [S.children_of_no_tree htree]
      exact List.nodup_nil
  | some tree =>
      have hsegments : (tree.numberedChildren.map (·.1)).Nodup :=
        View.nodup_segments [] tree.children
      rw [S.children_of_tree? htree]
      refine List.pairwise_map.2 ((List.pairwise_map.1 hsegments).imp fun hne he => hne ?_)
      have hlocation := (TextPlace.member.inj (Place.text.inj he)).2.2
      exact List.head_eq_of_cons_eq (List.append_cancel_left hlocation)

/-- The project tree and the views are trees. -/
theorem branching (S : Snapshot grammars) :
    Query.Branching S.forest Place.IsStructural where
  below := by
    intro node hn child hc
    match node, hn with
    | .directory path, _ =>
        obtain ⟨name, rfl⟩ := mem_children_directory hc
        unfold entry
        dsimp only
        split
        · trivial
        · trivial
    | .text (.file _), _ => cases hc
    | .text (.member ..), _ =>
        obtain ⟨segment, rfl⟩ := mem_children_member hc
        trivial
  distinct := by
    intro node hn
    match node, hn with
    | .directory path, _ =>
        exact (S.nodup_namesBelow path).map fun _ _ he => (entry_inj he).2
    | .text (.file _), _ => exact List.nodup_nil
    | .text (.member file language location), _ =>
        exact nodup_children_member file language location
  parent := by
    intro x y child hx hy hcx hcy
    match x, hx, y, hy with
    | .text (.file _), _, _, _ => cases hcx
    | _, _, .text (.file _), _ => cases hcy
    | .directory path, _, .directory other, _ =>
        obtain ⟨name, rfl⟩ := mem_children_directory hcx
        obtain ⟨name', he⟩ := mem_children_directory hcy
        rw [(entry_inj he).1]
    | .directory path, _, .text (.member ..), _ =>
        obtain ⟨name, rfl⟩ := mem_children_directory hcx
        obtain ⟨segment, he⟩ := mem_children_member hcy
        exact absurd he entry_ne_member
    | .text (.member ..), _, .directory path, _ =>
        obtain ⟨name, rfl⟩ := mem_children_directory hcy
        obtain ⟨segment, he⟩ := mem_children_member hcx
        exact absurd he entry_ne_member
    | .text (.member file language location), _, .text (.member file' language' location'), _ =>
        obtain ⟨segment, rfl⟩ := mem_children_member hcx
        obtain ⟨segment', he⟩ := mem_children_member hcy
        obtain ⟨rfl, rfl, hlocation⟩ := TextPlace.member.inj (Place.text.inj he)
        rw [(List.append_inj' hlocation rfl).1]

-- ============================================================== trees

/-- The place is one of the project tree, or of a view of one of its files. -/
def Stands (S : Snapshot grammars) (place : Place) : Prop :=
  place ∈ preorder S.forest (.directory []) ∨
    ∃ file ∈ S.texts.map (·.1), ∃ language : Language,
      place ∈ preorder S.forest (.text (.member file language []))

theorem Stands.isStructural {place : Place} (h : S.Stands place) : place.IsStructural := by
  have hbelow : ∀ top : Place, top.IsStructural → place ∈ preorder S.forest top →
      place.IsStructural :=
    fun _ ht hm => S.branching.of_below ht (S.founded.below_of_mem_preorder hm)
  rcases h with h | ⟨file, -, language, h⟩
  · exact hbelow (.directory []) trivial h
  · exact hbelow (.text (.member file language [])) trivial h

/-- What is below a place has its shape, however far below. -/
theorem Legible.has_of_below (h : S.Legible) {shape : Shape} {place below : Place}
    (hp : S.Has shape place) (hb : Query.Below S.forest place below) : S.Has shape below := by
  induction hb with
  | self => exact hp
  | child _ hc ih => exact h.has_children ih _ hc

theorem Legible.has_of_stands (h : S.Legible) {place : Place} (hp : S.Stands place) :
    ∃ shape, S.Has shape place := by
  rcases hp with hp | ⟨file, hf, language, hp⟩
  · exact ⟨_, h.has_of_below h.has_root (S.founded.below_of_mem_preorder hp)⟩
  · exact ⟨_, h.has_of_below (.member [] hf) (S.founded.below_of_mem_preorder hp)⟩

/-- In one of the trees the addresses of different places are different. -/
theorem Legible.nodup_addresses (h : S.Legible) {root : Place} (hr : S.Stands root)
    {places : List Place} (below : ∀ place ∈ places, Query.Below S.forest root place)
    (distinct : places.Nodup) : (places.map Place.address).Nodup := by
  obtain ⟨shape, hshape⟩ := h.has_of_stands hr
  refine List.Nodup.map_on (fun x hx y hy he => ?_) distinct
  exact h.eq_of_address (h.has_of_below hshape (below x hx)) (h.has_of_below hshape (below y hy)) he

end Snapshot

end TreeQuery
