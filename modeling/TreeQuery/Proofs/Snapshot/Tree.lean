/-
The tree that a snapshot is seen as.

A directory has something under a name when a file lies at or below the path with that name, and
has it under no other; its names are all different (`mem_namesBelow`, `nodup_namesBelow`). The tree
is finite, with a size for each place: that of a directory counts, for each file below it, the
steps that lead there (`Snapshot.size`). The children of a place are smaller together, and the
extent it announces is no less than its size (`founded`), so walks of the tree come to their end.
-/
import Mathlib.Data.List.Pairwise
import TreeQuery.Proofs.Query.Order
import TreeQuery.Proofs.Snapshot.Basic
import TreeQuery.Proofs.View.Locations

namespace TreeQuery

-- =============================================================== names

theorem nodup_eraseDups {α : Type} [BEq α] [LawfulBEq α] (xs : List α) : xs.eraseDups.Nodup := by
  induction hn : xs.length using Nat.strongRecOn generalizing xs with
  | ind n ih =>
      cases xs with
      | nil => exact List.nodup_nil
      | cons x xs =>
          rw [List.eraseDups_cons, List.nodup_cons]
          refine ⟨fun hx => ?_, ih _ ?_ _ rfl⟩
          · rw [List.mem_eraseDups, List.mem_filter] at hx
            simp at hx
          · rw [← hn, List.length_cons]
            exact Nat.lt_succ_of_le (List.length_filter_le _ _)

namespace ProjectPath

/-- The name on the way to a path is the one with which the way goes on. -/
theorem nextName?_eq_some {directory path : ProjectPath} {name : String} :
    nextName? directory path = some name ↔ directory ++ [name] <+: path := by
  unfold nextName?
  split
  · rename_i hp
    obtain ⟨rest, rfl⟩ := List.isPrefixOf_iff_prefix.1 hp
    rw [List.prefix_append_right_inj, List.getElem?_append_right (Nat.le_refl _), Nat.sub_self]
    cases rest with
    | nil => simp
    | cons first rest => simp [eq_comm]
  · rename_i hp
    constructor
    · intro h
      cases h
    · exact fun h => absurd (List.isPrefixOf_iff_prefix.2 ((List.prefix_append _ _).trans h)) hp

/-- No file lies above another. -/
theorem Arranged.not_prefix {paths : List ProjectPath} (h : Arranged paths)
    {path other : ProjectPath} (hm : path ∈ paths) (hm' : other ∈ paths) (hne : path ≠ other) :
    ¬ path <+: other := by
  have symm : Std.Symm fun p q : ProjectPath => ¬ p <+: q ∧ ¬ q <+: p := ⟨fun _ _ h => h.symm⟩
  exact (h.separate.forall hm hm' hne).1

end ProjectPath

namespace Snapshot

variable {grammars : Grammars} (S : Snapshot grammars)

theorem nodup_namesBelow (directory : ProjectPath) : (S.namesBelow directory).Nodup :=
  nodup_eraseDups _

/-- A name is below a directory when a file lies at or below the path with the name. -/
theorem mem_namesBelow {directory : ProjectPath} {name : String} :
    name ∈ S.namesBelow directory ↔
      ∃ path ∈ S.texts.map (·.1), directory ++ [name] <+: path := by
  unfold namesBelow
  rw [List.mem_eraseDups, List.mem_filterMap]
  simp only [ProjectPath.nextName?_eq_some]

-- ============================================================= members

theorem children_of_tree? {file : ProjectPath} {language : Language} {location : Location}
    {tree : View} (h : S.tree? file language location = some tree) :
    S.children (.text (.member file language location)) = tree.numberedChildren.map fun entry =>
      .text (.member file language (location ++ [entry.1])) := by
  unfold children
  simp only [h]

theorem children_of_no_tree {file : ProjectPath} {language : Language} {location : Location}
    (h : S.tree? file language location = none) :
    S.children (.text (.member file language location)) = [] := by
  unfold children
  simp only [h]

-- =============================================================== sizes

/-- How many steps lead from a directory to a path at or below it. -/
def stepsTo (directory path : ProjectPath) : Nat :=
  if directory.isPrefixOf path then path.length - directory.length else 0

/-- A number that is larger than those of the children of a place together. -/
def size : Place → Nat
  | .directory path => ((S.texts.map (·.1)).map (stepsTo path)).sum + 1
  | .text place => S.bound (.text place)

/-- One step less leads to the path from the name on the way. -/
theorem stepsTo_concat {directory path : ProjectPath} {name : String} :
    (directory ++ [name] <+: path →
        stepsTo directory path = stepsTo (directory ++ [name]) path + 1) ∧
      (¬ directory ++ [name] <+: path → stepsTo (directory ++ [name]) path = 0) := by
  constructor
  · rintro ⟨rest, rfl⟩
    have hbelow : (directory ++ [name]).isPrefixOf (directory ++ [name] ++ rest) = true :=
      List.isPrefixOf_iff_prefix.2 (List.prefix_append _ _)
    have habove : directory.isPrefixOf (directory ++ [name] ++ rest) = true :=
      List.isPrefixOf_iff_prefix.2 ⟨[name] ++ rest, (List.append_assoc _ _ _).symm⟩
    unfold stepsTo
    rw [if_pos hbelow, if_pos habove]
    simp only [List.length_append, List.length_singleton]
    omega
  · intro h
    unfold stepsTo
    rw [if_neg fun hp => h (List.isPrefixOf_iff_prefix.1 hp)]

/-- The steps to a path if it lies on or below the way with a name. -/
def stepsVia (directory : ProjectPath) (name : String) (path : ProjectPath) : Nat :=
  if directory ++ [name] <+: path then stepsTo directory path else 0

/-- What a directory has under a name is no larger than the steps that lead there and below. -/
theorem size_entry_le {directory : ProjectPath} {name : String}
    (h : name ∈ S.namesBelow directory) :
    S.size (S.entry directory name) ≤
      ((S.texts.map (·.1)).map (stepsVia directory name)).sum := by
  obtain ⟨path, hm, hp⟩ := S.mem_namesBelow.1 h
  have hless : ((S.texts.map (·.1)).map (stepsTo (directory ++ [name]))).sum <
      ((S.texts.map (·.1)).map (stepsVia directory name)).sum := by
    refine List.sum_lt_sum _ _ (fun other _ => ?_) ⟨path, hm, ?_⟩
    · unfold stepsVia
      split
      · rename_i hother
        rw [stepsTo_concat.1 hother]
        exact Nat.le_succ _
      · rename_i hother
        rw [stepsTo_concat.2 hother]
    · unfold stepsVia
      rw [if_pos hp, stepsTo_concat.1 hp]
      exact Nat.lt_succ_self _
  unfold entry
  dsimp only
  split
  · exact Nat.lt_of_le_of_lt (Nat.zero_le _) hless
  · exact hless

/-- A path lies on the way with one name at most. -/
theorem sum_stepsVia_le {names : List String} (hn : names.Nodup) (directory path : ProjectPath) :
    (names.map fun name => stepsVia directory name path).sum ≤ stepsTo directory path := by
  induction names with
  | nil => exact Nat.zero_le _
  | cons name names ih =>
      obtain ⟨hnot, hn⟩ := List.nodup_cons.1 hn
      rw [List.map_cons, List.sum_cons]
      by_cases hp : directory ++ [name] <+: path
      · have hothers : (names.map fun name => stepsVia directory name path).sum = 0 := by
          refine List.sum_eq_zero fun steps hs => ?_
          obtain ⟨other, ho, rfl⟩ := List.mem_map.1 hs
          refine if_neg fun hother => hnot ?_
          rw [← ProjectPath.nextName?_eq_some] at hp hother
          rw [Option.some.inj (hp.symm.trans hother)]
          exact ho
        rw [hothers, stepsVia, if_pos hp]
        exact Nat.le_refl _
      · rw [stepsVia, if_neg hp, Nat.zero_add]
        exact ih hn

theorem sum_size_entry_le (directory : ProjectPath) :
    (((S.namesBelow directory).map (S.entry directory)).map S.size).sum ≤
      ((S.texts.map (·.1)).map (stepsTo directory)).sum := by
  have hswap : ∀ paths : List ProjectPath,
      ((S.namesBelow directory).map fun name => (paths.map (stepsVia directory name)).sum).sum ≤
        (paths.map (stepsTo directory)).sum := by
    intro paths
    induction paths with
    | nil => simp
    | cons path paths ih =>
        simp only [List.map_cons, List.sum_cons, List.sum_map_add]
        exact Nat.add_le_add (sum_stepsVia_le (S.nodup_namesBelow directory) directory path) ih
  rw [List.map_map]
  exact (List.sum_le_sum fun name hn => S.size_entry_le hn).trans (hswap _)

theorem sum_size_numberedAfter {names : List String} {trees : List View} :
    ((View.numberedAfter names trees).map fun entry => entry.2.size).sum = Rose.sizeAll trees := by
  induction trees generalizing names with
  | nil => rfl
  | cons tree trees ih =>
      rw [View.numberedAfter, List.map_cons, List.sum_cons, ih]
      rfl

theorem size_member {file : ProjectPath} {language : Language} {location : Location}
    {tree : View} (h : S.tree? file language location = some tree) :
    S.size (.text (.member file language location)) = tree.size := by
  show ((S.tree? file language location).map Rose.size).getD 1 = tree.size
  rw [h]
  rfl

theorem sum_size_member_lt (file : ProjectPath) (language : Language) (location : Location) :
    ((S.children (.text (.member file language location))).map S.size).sum <
      S.size (.text (.member file language location)) := by
  cases htree : S.tree? file language location with
  | none =>
      show _ < ((S.tree? file language location).map Rose.size).getD 1
      rw [S.children_of_no_tree htree, htree]
      exact Nat.zero_lt_one
  | some tree =>
      have hchildren : ∀ entry ∈ tree.numberedChildren,
          S.size (.text (.member file language (location ++ [entry.1]))) = entry.2.size :=
        fun entry he => S.size_member (View.at?_child htree he)
      rw [S.children_of_tree? htree, S.size_member htree, List.map_map]
      obtain ⟨label, trees⟩ := tree
      exact Nat.lt_succ_of_le (Nat.le_of_eq
        ((congrArg List.sum (List.map_congr_left hchildren)).trans sum_size_numberedAfter))

theorem sum_size_occurrence_lt (grammar : Microgrammar) (context : TextPlace) (index : Nat)
    (seen : Occurrence) :
    ((S.children (.text (.occurrence grammar context index seen))).map S.size).sum <
      S.size (.text (.occurrence grammar context index seen)) := by
  show (List.map S.size (seen.captures.map fun entry =>
    .text (.binding grammar context index seen entry.1))).sum < seen.captures.length + 1
  have hone : (S.size ∘ fun entry : String × Text.Span =>
      Place.text (.binding grammar context index seen entry.1)) = fun _ => 1 := rfl
  rw [List.map_map, hone, List.map_const', List.sum_replicate]
  simp

theorem stepsTo_le (directory path : ProjectPath) : stepsTo directory path ≤ path.length := by
  unfold stepsTo
  split
  · exact Nat.sub_le _ _
  · exact Nat.zero_le _

/-- A directory announces the steps of all paths, those that lead elsewhere with them. -/
theorem size_directory_le (directory : ProjectPath) :
    S.size (.directory directory) ≤ S.bound (.directory directory) := by
  show ((S.texts.map (·.1)).map (stepsTo directory)).sum + 1 ≤
    (S.texts.map (·.1)).foldr (fun path total => path.length + total) 1
  induction S.texts.map (·.1) with
  | nil => exact Nat.le_refl _
  | cons path paths ih =>
      have hsteps := stepsTo_le directory path
      rw [List.map_cons, List.sum_cons, List.foldr_cons]
      omega

/-- The tree of a snapshot is finite, and places announce no smaller extents than they have. -/
theorem founded : Query.Founded S.forest S.size where
  below place := by
    match place with
    | .directory path => exact Nat.lt_succ_of_le (S.sum_size_entry_le path)
    | .text (.file path) => exact Nat.zero_lt_one
    | .text (.member file language location) => exact S.sum_size_member_lt file language location
    | .text (.occurrence grammar context index seen) =>
        exact S.sum_size_occurrence_lt grammar context index seen
    | .text (.binding ..) => exact Nat.zero_lt_one
  extent place := by
    match place with
    | .directory path => exact S.size_directory_le path
    | .text place => exact Nat.le_refl _

end Snapshot

end TreeQuery
