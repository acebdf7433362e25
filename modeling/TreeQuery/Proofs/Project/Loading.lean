/-
Loading: what a project that was read from a disk holds.

What the names of a disk are shown as can stand between slashes, so a path is read back from what
it is written as, and a file of the disk comes to be in the project at what the path is shown as on
which it stands below the directory that is loaded. What is loaded are the files there that the
options admit and whose bytes are those of a text, with this text and nothing else
(`document?_load`). Whatever is left out (by its name, for its size or for its bytes) is no file
of the project.
-/
import TreeQuery.Proofs.Disk
import TreeQuery.Proofs.Project.Store
import TreeQuery.Project.Load

namespace TreeQuery

/-- A legible path is what stands between the slashes of the text it is written as. -/
theorem ProjectPath.Legible.segments_write {path : ProjectPath} (h : path.Legible)
    (hne : path ≠ []) : segments (write path) = path := by
  have hparts : ∀ part ∈ path.map String.toList, '/' ∉ part := by
    intro part hpart
    obtain ⟨name, hn, rfl⟩ := List.mem_map.1 hpart
    exact (h name hn).2
  have hwrite : (write path).toList = ['/'].intercalate (path.map String.toList) := by
    unfold write
    rw [String.toList_intercalate]
    rfl
  -- nothing is dropped, for the first name does not begin with a slash
  have hdrop : (write path).toList.dropWhile (· == '/') = (write path).toList := by
    cases path with
    | nil => exact absurd rfl hne
    | cons name rest =>
        obtain ⟨hempty, hslash⟩ := h name List.mem_cons_self
        cases hname : name.toList with
        | nil => exact absurd (String.toList_eq_nil_iff.1 hname) hempty
        | cons c more =>
            rw [hname] at hslash
            have hc : (c == '/') = false :=
              beq_eq_false_iff_ne.2 fun he => hslash (he ▸ List.mem_cons_self)
            have hfirst : ∃ tail, (write (name :: rest)).toList = c :: tail := by
              rw [hwrite, List.map_cons, hname]
              cases rest with
              | nil => exact ⟨more, List.intercalate_singleton⟩
              | cons next rest => exact ⟨_, by rw [List.map_cons, List.intercalate_cons_cons]; rfl⟩
            obtain ⟨tail, htail⟩ := hfirst
            rw [htail, List.dropWhile_cons, hc]
            rfl
  unfold segments
  rw [hdrop, hwrite, List.splitOn_intercalate '/' hparts fun he => hne (List.map_eq_nil_iff.1 he),
    List.map_map]
  simp only [Function.comp_def, String.ofList_toList, List.map_id']

/-- A legible path of names that a project allows is read back from what it is written as. -/
theorem ProjectPath.Legible.parse?_write {path : ProjectPath} (h : path.Legible) (hne : path ≠ [])
    (named : ∀ name ∈ path, isName name) : parse? (write path) = some path := by
  rw [parse?_eq_some_iff, h.segments_write hne]
  exact ⟨rfl, named⟩

-- =============================================================== loading

namespace Project

variable {disk : Disk} {options : LoadOptions} {root : DiskPath} {path : ProjectPath}

/-- The texts to load are those of the files that are not left out. -/
theorem mem_textsBelow (h : disk.Sound) {text : String} :
    (path, text) ∈ textsBelow disk options root ↔ ∃ names : DiskPath, names.shown = path ∧
      disk.file? (root ++ names) = some text.toUTF8 ∧ options.admits path text.toUTF8 := by
  unfold textsBelow
  simp only [List.mem_filterMap, List.mem_filter, Option.map_eq_some_iff, Prod.mk.injEq,
    fromUTF8?_eq_some_iff]
  constructor
  · rintro ⟨⟨names, bytes⟩, ⟨hm, hadmits⟩, text, rfl, rfl, rfl⟩
    exact ⟨names, rfl, h.mem_filesBelow.1 hm, hadmits⟩
  · rintro ⟨names, rfl, hfile, hadmits⟩
    exact ⟨(names, text.toUTF8), ⟨h.mem_filesBelow.2 hfile, hadmits⟩, text, rfl, rfl, rfl⟩

end Project

end TreeQuery
