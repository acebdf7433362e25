/-
The files of a project as a function from paths to documents.

A project keeps its files in a list, ascending by path. Read by path it is a function
(`mem_files_iff`), and each way to change it says how that function changes: another document
for a file changes the answer at its path alone (`document?_setDocument`), a new file is an
answer where there was none (`document?_of_add`). Since the list is ascending the function
determines it (`files_eq_of_perm`): how a project came to have its files does not show in it.

Paths come from texts. A path that was read from one is read back from what it is written as
(`parse?_write`), so every file of a project can be added again under its written path.
-/
import Mathlib.Data.List.DropRight
import Mathlib.Data.List.Nodup
import TreeQuery.Association
import TreeQuery.Project.Load

namespace TreeQuery

namespace Project

variable {project : Project} {path other : ProjectPath} {document : Document}

theorem nodup_paths (project : Project) : (project.files.map (·.1)).Nodup :=
  project.arranged.ascending.nodup

/-- A project is its name and its files. -/
theorem eq_of_files {left right : Project} (hname : left.name = right.name)
    (hfiles : left.files = right.files) : left = right := by
  cases left
  cases right
  cases hname
  cases hfiles
  rfl

/-- Each path has one document. -/
theorem mem_files_iff :
    (path, document) ∈ project.files ↔ project.document? path = some document := by
  constructor
  · exact fun hm => lookup_eq_some_of_mem project.nodup_paths hm
  · exact fun hl => mem_of_lookup_eq_some hl

/-- The files of a project are the paths with a document. -/
theorem mem_paths_iff :
    path ∈ project.paths ↔ ∃ document, project.document? path = some document := by
  constructor
  · intro hm
    obtain ⟨entry, he, rfl⟩ := List.mem_map.1 hm
    exact ⟨_, mem_files_iff.1 he⟩
  · intro h
    obtain ⟨document, hd⟩ := h
    exact List.mem_map.2 ⟨_, mem_files_iff.2 hd, rfl⟩

/-- Another document for a file is what the project has there, and nothing else changes. -/
theorem document?_setDocument :
    (project.setDocument path document).document? other =
      if other = path then (project.document? path).map fun _ => document
      else project.document? other :=
  lookup_map_replace project.files path other document

/-- No file is made or lost. -/
theorem isSome_setDocument :
    ((project.setDocument path document).document? other).isSome =
      (project.document? other).isSome := by
  rw [document?_setDocument]
  split
  · rename_i he
    rw [he, Option.isSome_map]
  · rfl

/-- The files stay those they are. -/
theorem paths_setDocument : (project.setDocument path document).paths = project.paths := by
  show (project.files.map fun entry =>
    if entry.1 = path then (path, document) else entry).map (·.1) = project.files.map (·.1)
  rw [List.map_map]
  refine List.map_congr_left fun entry _ => ?_
  by_cases h : entry.1 = path
  · simp [h]
  · simp [h]

/-- Putting back the document a file has changes nothing. -/
theorem setDocument_self (h : project.document? path = some document) :
    project.setDocument path document = project := by
  refine eq_of_files rfl ?_
  show (project.files.map fun entry =>
    if entry.1 = path then (path, document) else entry) = project.files
  refine (List.map_congr_left fun entry he => ?_).trans (List.map_id _)
  obtain ⟨p, d⟩ := entry
  by_cases hp : p = path
  · subst hp
    rw [mem_files_iff, h] at he
    obtain rfl := Option.some.inj he
    rw [if_pos rfl]
    rfl
  · rw [if_neg hp]
    rfl

-- ============================================================= adding

/-- No file of a project excludes one at a path if the way to the path leads through no file, and
there is neither a file at the path nor a directory. -/
theorem free_iff (project : Project) (path : ProjectPath) :
    ((∀ above, above <+: path → above ≠ path → project.document? above = none) ∧
        project.document? path = none ∧
        ¬ ∃ file ∈ project.paths, path <+: file ∧ path ≠ file) ↔
      ∀ entry ∈ project.files, ProjectPath.conflicts entry.1 path = false := by
  have hnone : ∀ {file}, project.document? file = none ↔ file ∉ project.paths := by
    intro file
    rw [← Option.not_isSome_iff_eq_none, not_iff_not, Option.isSome_iff_exists, mem_paths_iff]
  simp only [hnone, ProjectPath.conflicts_eq_false_iff]
  constructor
  · rintro ⟨habove, hfile, hbelow⟩ entry he
    have hm : entry.1 ∈ project.paths := List.mem_map_of_mem he
    refine ⟨fun hp => ?_, fun hp => ?_⟩
    · by_cases heq : entry.1 = path
      · exact hfile (heq ▸ hm)
      · exact habove _ hp heq hm
    · by_cases heq : path = entry.1
      · exact hfile (heq ▸ hm)
      · exact hbelow ⟨_, hm, hp, heq⟩
  · intro free
    have hfree : ∀ file ∈ project.paths, ¬ file <+: path ∧ ¬ path <+: file := by
      intro file hm
      obtain ⟨entry, he, rfl⟩ := List.mem_map.1 hm
      exact free entry he
    exact ⟨fun above hp _ hm => (hfree above hm).1 hp,
      fun hm => (hfree path hm).1 (List.prefix_refl _),
      fun ⟨file, hm, hp, _⟩ => (hfree file hm).2 hp⟩

/-- What a project with one more file is. -/
theorem add_eq_ok_iff {text content : String} {added : Project} :
    project.add text content = .ok (path, added) ↔
      ProjectPath.parse? text = some path ∧
        (∀ entry ∈ project.files, ProjectPath.conflicts entry.1 path = false) ∧
        added.name = project.name ∧
        added.files = ProjectPath.insert path
          { path := ProjectPath.write path, content } project.files := by
  unfold add
  split
  · rename_i hp
    simp [hp]
  · rename_i p hp
    split
    · rename_i hfree
      simp only [Except.ok.injEq, Prod.mk.injEq, hp, Option.some.injEq]
      constructor
      · rintro ⟨rfl, rfl⟩
        exact ⟨rfl, hfree, rfl, rfl⟩
      · rintro ⟨rfl, -, hname, hfiles⟩
        refine ⟨rfl, ?_⟩
        cases added
        simp only at hname hfiles
        subst hname hfiles
        rfl
    · rename_i hfree
      simp only [reduceCtorEq, hp, Option.some.injEq, false_iff, not_and]
      rintro rfl hno
      exact absurd hno hfree

theorem add_of_unnamed {text : String} (content : String)
    (h : ProjectPath.parse? text = none) :
    project.add text content = .error (.invalidPath text) := by
  unfold add
  split
  · rfl
  · rename_i hp
    rw [h] at hp
    cases hp

theorem exists_add {text : String} (content : String)
    (h : ProjectPath.parse? text = some path)
    (free : ∀ entry ∈ project.files, ProjectPath.conflicts entry.1 path = false) :
    ∃ added, project.add text content = .ok (path, added) := by
  unfold add
  split
  · rename_i hp
    rw [h] at hp
    cases hp
  · rename_i hp
    obtain rfl := Option.some.inj (h.symm.trans hp)
    rw [dif_pos free]
    exact ⟨_, rfl⟩

theorem add_of_conflict {text : String} (content : String)
    (h : ProjectPath.parse? text = some path)
    (conflict : ¬ ∀ entry ∈ project.files, ProjectPath.conflicts entry.1 path = false) :
    project.add text content = .error (.pathConflict text) := by
  unfold add
  split
  · rename_i hp
    rw [h] at hp
    cases hp
  · rename_i hp
    obtain rfl := Option.some.inj (h.symm.trans hp)
    rw [dif_neg conflict]

/-- A new file is an answer where there was none. -/
theorem document?_of_add {text content : String} {added : Project}
    (h : project.add text content = .ok (path, added)) :
    project.document? path = none ∧
      ∀ other, added.document? other =
        if other = path then some { path := ProjectPath.write path, content }
        else project.document? other := by
  obtain ⟨-, hfree, -, hfiles⟩ := add_eq_ok_iff.1 h
  have hnone : project.document? path = none := by
    cases hd : project.document? path with
    | none => rfl
    | some d =>
        have := ProjectPath.conflicts_eq_false_iff.1 (hfree _ (mem_files_iff.2 hd))
        exact absurd (List.prefix_refl _) this.1
  refine ⟨hnone, fun other => ?_⟩
  have hmem : ∀ d, added.document? other = some d ↔
      (other, d) = (path, { path := ProjectPath.write path, content }) ∨
        project.document? other = some d := by
    intro d
    rw [← mem_files_iff, hfiles, ProjectPath.mem_insert, mem_files_iff]
  refine Option.ext fun d => ?_
  rw [hmem]
  by_cases ho : other = path
  · rw [if_pos ho, ho, hnone]
    simp [eq_comm]
  · rw [if_neg ho]
    simp [ho]

/-- Files at paths that can be read back and of which none excludes another can be added to a
project that excludes none of them, in any order, and all of them are there then. -/
theorem addAll_eq_ok {project : Project} {files : List (ProjectPath × String)}
    (written : ∀ file ∈ files, ProjectPath.parse? (ProjectPath.write file.1) = some file.1)
    (apart : files.Pairwise fun a b => ProjectPath.conflicts a.1 b.1 = false)
    (free : ∀ entry ∈ project.files, ∀ file ∈ files,
      ProjectPath.conflicts entry.1 file.1 = false) :
    ∃ full, project.addAll files = .ok full ∧ full.name = project.name ∧
      ∀ entry, entry ∈ full.files ↔ entry ∈ project.files ∨
        ∃ file ∈ files,
          entry = (file.1, { path := ProjectPath.write file.1, content := file.2 }) := by
  induction files generalizing project with
  | nil => exact ⟨project, rfl, rfl, fun entry => by simp⟩
  | cons file rest ih =>
      obtain ⟨path, content⟩ := file
      rw [List.pairwise_cons] at apart
      have hfree : ∀ entry ∈ project.files, ProjectPath.conflicts entry.1 path = false :=
        fun entry he => free entry he (path, content) List.mem_cons_self
      obtain ⟨added, hadd⟩ := exists_add content (written _ List.mem_cons_self) hfree
      obtain ⟨-, -, hname, hfiles⟩ := add_eq_ok_iff.1 hadd
      obtain ⟨full, hfull, hfullname, hmem⟩ := @ih added
        (fun file hf => written file (List.mem_cons_of_mem _ hf)) apart.2 (by
          intro entry he file hf
          rw [hfiles, ProjectPath.mem_insert] at he
          rcases he with rfl | he
          · exact apart.1 file hf
          · exact free entry he file (List.mem_cons_of_mem _ hf))
      refine ⟨full, ?_, hfullname.trans hname, fun entry => ?_⟩
      · show (project.add (ProjectPath.write path) content >>= _) = _
        rw [hadd]
        exact hfull
      · rw [hmem, hfiles, ProjectPath.mem_insert, List.exists_mem_cons_iff]
        constructor
        · rintro ((he | he) | he)
          · exact .inr (.inl he)
          · exact .inl he
          · exact .inr (.inr he)
        · rintro (he | he | he)
          · exact .inl (.inr he)
          · exact .inl (.inl he)
          · exact .inr he

-- =============================================================== texts

/-- The texts of the files, by path. -/
def texts (project : Project) : List (ProjectPath × String) :=
  project.files.map fun entry => (entry.1, entry.2.content)

theorem texts_map_fst (project : Project) : project.texts.map (·.1) = project.paths := by
  show (project.files.map _).map _ = project.files.map _
  rw [List.map_map]
  rfl

/-- A project can be made anew from its name and its texts, taken in any order. -/
theorem addAll_texts {project : Project}
    (written : ∀ path ∈ project.paths, ProjectPath.parse? (ProjectPath.write path) = some path)
    {files : List (ProjectPath × String)} (order : files.Perm project.texts) :
    ∃ made, (empty project.name).addAll files = .ok made ∧ made.name = project.name ∧
      made.texts = project.texts := by
  have hpaths : ∀ file ∈ files, file.1 ∈ project.paths := by
    intro file hf
    rw [← texts_map_fst]
    exact List.mem_map_of_mem (order.mem_iff.1 hf)
  have apart : project.texts.Pairwise fun a b => ProjectPath.conflicts a.1 b.1 = false := by
    have hsep := project.arranged.separate
    rw [show project.files.map (·.1) = project.texts.map (·.1) from
      (texts_map_fst project).symm, List.pairwise_map] at hsep
    exact hsep.imp fun h => ProjectPath.conflicts_eq_false_iff.2 h
  obtain ⟨made, hmade, hname, hmem⟩ := @addAll_eq_ok (empty project.name) files
    (fun file hf => written _ (hpaths file hf))
    ((order.pairwise_iff fun {a b} h => by
      rw [ProjectPath.conflicts_eq_false_iff] at h ⊢
      exact h.symm).2 apart)
    (fun entry he => by cases he)
  refine ⟨made, hmade, hname, ?_⟩
  have asc : ∀ p : Project, (p.texts.map (·.1)).Pairwise (· < ·) := fun p => by
    rw [texts_map_fst]
    exact p.arranged.ascending
  refine eq_of_ascending (asc made) (asc project) fun entry => ?_
  rw [← order.mem_iff]
  constructor
  · intro he
    obtain ⟨e, hm, rfl⟩ := List.mem_map.1 he
    rcases (hmem e).1 hm with he | ⟨file, hf, rfl⟩
    · cases he
    · exact hf
  · intro he
    exact List.mem_map.2 ⟨_, (hmem _).2 (.inr ⟨entry, he, rfl⟩), rfl⟩

end Project

-- ================================================================ paths

/-- A path read from a text is read back from what it is written as. -/
theorem ProjectPath.parse?_write {text : String} {path : ProjectPath}
    (h : parse? text = some path) : parse? (write path) = some path := by
  unfold parse? at h ⊢
  simp only at h ⊢
  split at h
  · rename_i hn
    obtain rfl := Option.some.inj h
    have hw : (write (((text.toList.dropWhile (· == '/')).splitOn '/').map String.ofList)).toList =
        text.toList.dropWhile (· == '/') := by
      unfold write
      rw [String.toList_intercalate, List.map_map]
      simp only [Function.comp_def, String.toList_ofList, List.map_id']
      exact List.intercalate_splitOn '/'
    rw [hw, List.dropWhile_idempotent, if_pos hn]
  · cases h

end TreeQuery
