/-
The files of a project, listed directory by directory.

Paths are compared name by name. So the files at and below one name of a directory lie together,
and they come in the order of the names (`filter_inside`): whoever goes through the names below a
directory in order, and below each of them in the same way, comes to the files in the order of
their paths. That is not the order of the written paths, in which `a.txt` comes before `a/b`.

The tree of folders lists its files in this way (`Folder.paths`), and the list is that of the
project (`Shows.paths`).
-/
import TreeQuery.Proofs.Project.Store

namespace TreeQuery

/-- What lies below the earlier of two names comes first. -/
theorem lt_of_names {ν : Type} [LT ν] {directory path other : List ν} {name next : ν}
    (hpath : directory ++ [name] <+: path) (hother : directory ++ [next] <+: other)
    (h : name < next) : path < other := by
  obtain ⟨rest, rfl⟩ := hpath
  obtain ⟨more, rfl⟩ := hother
  rw [List.append_assoc, List.append_assoc]
  exact List.append_left_lt (List.cons_lt_cons_iff.2 (.inl h))

namespace ProjectPath

variable {paths : List ProjectPath} {directory path other : ProjectPath} {name next : String}

-- ============================================================= ways down

/-- Whether the path lies below the directory. -/
def inside (directory path : ProjectPath) : Bool := (nextName? directory path).isSome

/-- The paths at and below a name of a directory. -/
def under (directory : ProjectPath) (name : String) (paths : List ProjectPath) :
    List ProjectPath :=
  paths.filter fun path => nextName? directory path == some name

theorem inside_iff : inside directory path = true ↔ ∃ name, directory ++ [name] <+: path := by
  unfold inside
  rw [Option.isSome_iff_exists]
  exact exists_congr fun name => nextName?_eq_some

theorem mem_under :
    path ∈ under directory name paths ↔ path ∈ paths ∧ directory ++ [name] <+: path := by
  unfold under
  rw [List.mem_filter, beq_iff_eq, nextName?_eq_some]

/-- All files lie below the root. -/
theorem filter_inside_root (arranged : Arranged paths) : paths.filter (inside []) = paths := by
  refine List.filter_eq_self.2 fun path hm => ?_
  obtain ⟨name, rest, rfl⟩ := List.exists_cons_of_ne_nil (arranged.named path hm).1
  exact inside_iff.2 ⟨name, rest, rfl⟩

/-- The paths below a directory are those below its names in turn. -/
theorem filter_inside (ascending : paths.Pairwise (· < ·)) (directory : ProjectPath) :
    paths.filter (inside directory) =
      (paths.filterMap (nextName? directory)).eraseDups.flatMap fun name =>
        under directory name paths := by
  have hnames : (paths.filterMap (nextName? directory)).eraseDups.Pairwise (· < ·) :=
    ascending_eraseDups (List.pairwise_filterMap.2 (ascending.imp fun hlt _ hn _ hl =>
      not_lt_of_nextName? hlt hn hl))
  have hunder : ((paths.filterMap (nextName? directory)).eraseDups.flatMap fun name =>
      under directory name paths).Pairwise (· < ·) := by
    refine List.pairwise_flatMap.2 ⟨fun name _ => ascending.filter _, ?_⟩
    exact hnames.imp fun hlt path hp other ho =>
      lt_of_names (mem_under.1 hp).2 (mem_under.1 ho).2 hlt
  refine (ascending.filter _).eq_of_mem_iff hunder fun path => ?_
  rw [List.mem_filter, inside_iff, List.mem_flatMap]
  simp only [mem_under, List.mem_eraseDups, List.mem_filterMap, nextName?_eq_some]
  constructor
  · rintro ⟨hm, name, hp⟩
    exact ⟨name, ⟨path, hm, hp⟩, hm, hp⟩
  · rintro ⟨name, -, hm, hp⟩
    exact ⟨hm, name, hp⟩

/-- There is nothing below a file. -/
theorem under_of_mem (arranged : Arranged paths) (hm : directory ++ [name] ∈ paths) :
    under directory name paths = [directory ++ [name]] := by
  refine (arranged.ascending.filter _).eq_of_mem_iff (List.pairwise_singleton _ _) fun path => ?_
  rw [show List.filter _ paths = under directory name paths from rfl, mem_under, List.mem_singleton]
  constructor
  · rintro ⟨hpath, hp⟩
    by_contra hne
    exact arranged.not_prefix hm hpath (Ne.symm hne) hp
  · rintro rfl
    exact ⟨hm, List.prefix_refl _⟩

/-- Where there is no file, the paths are those of a directory. -/
theorem under_of_not_mem (hm : directory ++ [name] ∉ paths) :
    under directory name paths = paths.filter (inside (directory ++ [name])) := by
  refine List.filter_congr fun path hpath => Bool.eq_iff_iff.2 ?_
  rw [beq_iff_eq, nextName?_eq_some, inside_iff]
  constructor
  · rintro ⟨rest, rfl⟩
    cases rest with
    | nil => exact absurd (by rwa [List.append_nil] at hpath) hm
    | cons next rest => exact ⟨next, rest, by rw [List.append_assoc, List.singleton_append]⟩
  · rintro ⟨next, hp⟩
    exact (List.prefix_append _ _).trans hp

end ProjectPath

-- =============================================================== folders

namespace Folder

open ProjectPath (inside under)

variable {folder items : Folder} {project : Project} {path : ProjectPath}

/-- The paths of the files in a folder that lies at a path, item by item. -/
def pathsFrom (above : ProjectPath) : List (String × Item) → List ProjectPath
  | [] => []
  | (name, .file _) :: rest => (above ++ [name]) :: pathsFrom above rest
  | (name, .folder items) :: rest => pathsFrom (above ++ [name]) items ++ pathsFrom above rest

/-- The paths of the files in a folder. -/
def paths (folder : Folder) : List ProjectPath := pathsFrom [] folder

/-- The paths of the files at and below an item of the folder at a path. -/
def itemPaths (above : ProjectPath) : String × Item → List ProjectPath
  | (name, .file _) => [above ++ [name]]
  | (name, .folder items) => pathsFrom (above ++ [name]) items

theorem pathsFrom_eq_flatMap (above : ProjectPath) (items : List (String × Item)) :
    pathsFrom above items = items.flatMap (itemPaths above) := by
  induction items with
  | nil =>
      rw [pathsFrom]
      rfl
  | cons entry rest ih =>
      obtain ⟨name, item⟩ := entry
      rw [List.flatMap_cons, ← ih]
      cases item with
      | file document =>
          rw [pathsFrom]
          rfl
      | folder inner => rw [pathsFrom, itemPaths]

/-- A folder in one that shows a project lists the files of the project below its path. -/
theorem Shows.pathsFrom (h : folder.Shows project) (hi : folder.folder? path = some items) :
    pathsFrom path items = project.paths.filter (inside path) := by
  have htidy : items.Tidy := h.tidy.folder? hi
  induction htidy generalizing path with
  | @intro items ascending _ ih =>
      have horder : project.paths.Pairwise (· < ·) := project.arranged.ascending
      rw [pathsFrom_eq_flatMap, ProjectPath.filter_inside horder path]
      have hnames : (project.paths.filterMap (ProjectPath.nextName? path)).eraseDups =
          items.map (·.1) := (h.names hi).symm
      have hnodup : (items.map (·.1)).Nodup := ascending.nodup
      rw [hnames, List.flatMap_map]
      refine List.flatMap_congr fun entry he => ?_
      obtain ⟨name, item⟩ := entry
      have hl : items.lookup name = some item := lookup_eq_some_of_mem hnodup he
      have hdocument : project.document? (path ++ [name]) = items.file? [name] := by
        rw [← h.files, file?_append hi]
      cases item with
      | file document =>
          rw [file?_of_file hl, if_pos rfl] at hdocument
          exact (ProjectPath.under_of_mem project.arranged
            (Project.mem_paths_iff.2 ⟨_, hdocument⟩)).symm
      | folder inner =>
          rw [file?_of_folder hl, file?_nil] at hdocument
          have hfree : path ++ [name] ∉ project.paths := by
            intro hm
            obtain ⟨document, hd⟩ := Project.mem_paths_iff.1 hm
            rw [hdocument] at hd
            cases hd
          have hinner : folder.folder? (path ++ [name]) = some inner := by
            rw [folder?_append hi, folder?_of_folder hl]
            rfl
          rw [itemPaths, ih name inner he hinner, ProjectPath.under_of_not_mem hfree]

/-- A folder that shows a project lists its files. -/
theorem Shows.paths (h : folder.Shows project) : folder.paths = project.paths := by
  have hself : folder.folder? [] = some folder := rfl
  have hroot : folder.paths = project.paths.filter (inside []) := h.pathsFrom hself
  exact hroot.trans (ProjectPath.filter_inside_root project.arranged)

end Folder

end TreeQuery
