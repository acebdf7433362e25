/-
Projects: a name and text files at paths. There are no directories apart from the files;
a directory is a path on the way to one, so none is ever left behind and none is empty.

The files are kept in ascending order of their paths, name by name. Since no file lies
below another, that is the order of a walk through the directories.
-/
import TreeQuery.Document
import TreeQuery.Project.Path

namespace TreeQuery

-- ====================================================== sets of paths

/-- What holds of the paths of a project's files. -/
structure ProjectPath.Arranged (paths : List ProjectPath) : Prop where
  ascending : paths.Pairwise (· < ·)
  /-- No file lies below another. -/
  separate : paths.Pairwise fun p q => ¬ p <+: q ∧ ¬ q <+: p
  named : ∀ path ∈ paths, path ≠ [] ∧ ∀ name ∈ path, ProjectPath.isName name

namespace ProjectPath

/-- Puts an entry into a list that is ascending by path. -/
def insert {α : Type} (path : ProjectPath) (value : α) :
    List (ProjectPath × α) → List (ProjectPath × α)
  | [] => [(path, value)]
  | (p, v) :: rest =>
    if path < p then (path, value) :: (p, v) :: rest else (p, v) :: insert path value rest

theorem mem_insert {α : Type} {path : ProjectPath} {value : α}
    {files : List (ProjectPath × α)} {entry : ProjectPath × α} :
    entry ∈ insert path value files ↔ entry = (path, value) ∨ entry ∈ files := by
  fun_induction insert path value files with
  | case1 => simp
  | case2 => simp
  | case3 p v rest h ih =>
    simp only [List.mem_cons, ih]
    constructor
    · rintro (h | h | h) <;> simp [h]
    · rintro (h | h | h) <;> simp [h]

theorem pairwise_insert {α : Type} {r : ProjectPath → ProjectPath → Prop} {path : ProjectPath}
    {value : α} {files : List (ProjectPath × α)}
    (sorted : (files.map (·.1)).Pairwise r)
    (before : ∀ entry ∈ files, ¬ path < entry.1 → r entry.1 path)
    (after : ∀ entry ∈ files, path < entry.1 → r path entry.1)
    (trans : ∀ entry ∈ files, ∀ later ∈ files, path < entry.1 → r entry.1 later.1 →
      path < later.1) :
    ((insert path value files).map (·.1)).Pairwise r := by
  induction files with
  | nil => simp [insert]
  | cons entry rest ih =>
    obtain ⟨p, v⟩ := entry
    simp only [List.map_cons, List.pairwise_cons, List.mem_map, forall_exists_index,
      and_imp, forall_apply_eq_imp_iff₂] at sorted
    by_cases h : path < p
    · simp only [insert, h, if_true, List.map_cons, List.pairwise_cons, List.mem_cons,
        List.mem_map, forall_eq_or_imp, forall_exists_index, and_imp, forall_apply_eq_imp_iff₂]
      refine ⟨⟨after _ List.mem_cons_self h, fun later hl => after _ (by simp [hl]) ?_⟩, sorted⟩
      exact trans _ List.mem_cons_self later (by simp [hl]) h (sorted.1 later hl)
    · simp only [insert, h, if_false, List.map_cons, List.pairwise_cons, List.mem_map,
        forall_exists_index, and_imp, forall_apply_eq_imp_iff₂]
      refine ⟨fun later hl => ?_, ?_⟩
      · rcases mem_insert.1 hl with rfl | hl
        · exact before _ List.mem_cons_self h
        · exact sorted.1 later hl
      · exact ih sorted.2 (fun e he => before e (by simp [he]))
          (fun e he => after e (by simp [he]))
          (fun e he l hl => trans e (by simp [he]) l (by simp [hl]))

/-- Whether a file at one path excludes a file at another: one lies at or below the other. -/
def conflicts (p q : ProjectPath) : Bool := p.isPrefixOf q || q.isPrefixOf p

theorem conflicts_eq_false_iff {p q : ProjectPath} :
    conflicts p q = false ↔ ¬ p <+: q ∧ ¬ q <+: p := by
  simp [conflicts, ← List.isPrefixOf_iff_prefix]

end ProjectPath

theorem ProjectPath.Arranged.insert {α : Type} {files : List (ProjectPath × α)}
    {path : ProjectPath} {value : α} (h : Arranged (files.map (·.1)))
    (free : ∀ entry ∈ files, conflicts entry.1 path = false)
    (named : path ≠ [] ∧ ∀ name ∈ path, isName name) :
    Arranged ((ProjectPath.insert path value files).map (·.1)) := by
  have apart : ∀ entry ∈ files, entry.1 ≠ path := by
    rintro entry he rfl
    exact (conflicts_eq_false_iff.1 (free entry he)).1 (List.prefix_refl _)
  constructor
  · refine pairwise_insert h.ascending (fun entry he hlt => ?_) (fun _ _ h => h)
      (fun entry _ later _ h k => List.lt_trans h k)
    rcases Decidable.em (entry.1 < path) with h | h
    · exact h
    · exact absurd (List.le_antisymm hlt h) (apart entry he)
  · have both : (files.map (·.1)).Pairwise fun p q => p < q ∧ ¬ p <+: q ∧ ¬ q <+: p :=
      h.ascending.and h.separate
    have := @pairwise_insert α (fun p q => p < q ∧ ¬ p <+: q ∧ ¬ q <+: p) path value files both
      (fun entry he hlt => ⟨?_, conflicts_eq_false_iff.1 (free entry he)⟩)
      (fun entry he hlt => ⟨hlt, (conflicts_eq_false_iff.1 (free entry he)).symm⟩)
      (fun entry _ later _ h k => List.lt_trans h k.1)
    · exact this.imp fun h => h.2
    · rcases Decidable.em (entry.1 < path) with h | h
      · exact h
      · exact absurd (List.le_antisymm hlt h) (apart entry he)
  · intro p hp
    obtain ⟨entry, he, rfl⟩ := List.mem_map.1 hp
    rcases mem_insert.1 he with rfl | he
    · exact named
    · exact h.named _ (List.mem_map.2 ⟨entry, he, rfl⟩)

theorem ProjectPath.named_of_parse? {text : String} {path : ProjectPath}
    (h : parse? text = some path) : path ≠ [] ∧ ∀ name ∈ path, isName name := by
  simp only [parse?] at h
  split at h
  · rename_i hn
    obtain rfl := Option.some.inj h
    exact ⟨by simp [List.splitOn_ne_nil], by simpa using hn⟩
  · simp at h

-- =========================================================== projects

/-- A project. -/
structure Project where
  name : String
  /-- The documents of the files, by path. -/
  files : List (ProjectPath × Document)
  arranged : ProjectPath.Arranged (files.map (·.1))

/-- Why a file is not added. -/
inductive ProjectError where
  | invalidPath (path : String)
  /-- Something is at the path or a file on the way to it. -/
  | pathConflict (path : String)
deriving DecidableEq, Repr

namespace ProjectError

def message : ProjectError → String
  | .invalidPath path => "invalid project path '" ++ path ++ "'"
  | .pathConflict path => "'" ++ path ++ "' conflicts with an existing entry"

end ProjectError

namespace Project

/-- A project without files. -/
def empty (name : String) : Project :=
  ⟨name, [], ⟨List.Pairwise.nil, List.Pairwise.nil, by simp⟩⟩

def paths (project : Project) : List ProjectPath := project.files.map (·.1)

def documents (project : Project) : List Document := project.files.map (·.2)

/-- The document of the file at a path. -/
def document? (project : Project) (path : ProjectPath) : Option Document :=
  project.files.lookup path

/-- The path of the file that a text names. -/
def file? (project : Project) (text : String) : Option ProjectPath := do
  let path ← ProjectPath.parse? text
  if (project.document? path).isSome then some path else none

/-- The paths of the files that have changed since they were last saved. -/
def dirtyFiles (project : Project) : List ProjectPath :=
  (project.files.filter (·.2.dirty)).map (·.1)

/-- The names right below a directory, in ascending order. -/
def namesBelow (project : Project) (directory : ProjectPath) : List String :=
  (project.paths.filterMap (ProjectPath.nextName? directory)).eraseDups

/-- Adds a file, and says at which path. -/
def add (project : Project) (text content : String) :
    Except ProjectError (ProjectPath × Project) :=
  match h : ProjectPath.parse? text with
  | none => .error (.invalidPath text)
  | some path =>
    if free : ∀ entry ∈ project.files, ProjectPath.conflicts entry.1 path = false then
      .ok (path, { project with
        files := ProjectPath.insert path { path := ProjectPath.write path, content } project.files
        arranged := project.arranged.insert free (ProjectPath.named_of_parse? h) })
    else .error (.pathConflict text)

/-- Replaces the document of the file at a path. -/
def setDocument (project : Project) (path : ProjectPath) (document : Document) : Project :=
  { project with
    files := project.files.map fun entry => if entry.1 = path then (path, document) else entry
    arranged := by
      have h : ∀ files : List (ProjectPath × Document),
          (files.map fun entry => if entry.1 = path then (path, document) else entry).map (·.1) =
            files.map (·.1) := by
        intro files
        induction files with
        | nil => rfl
        | cons entry rest ih => by_cases he : entry.1 = path <;> simp_all
      rw [h]
      exact project.arranged }

end Project

end TreeQuery
