/-
A project as a store: what it holds after any calls to add files, some of them refused.

A call names a file and gives its content. What the project is after a run of calls is said by
the calls it did not refuse, by the path each of them came to and its content
(`Project.accepted`): those are its files, whatever came between them, and two runs in which the
same calls were let through end with the same project whatever their order (`after_eq_of_perm`).
The tree of folders that is built along the way holds the same files at every point of the run
(`Shows.after`), so what is known of one side is known of the other: which paths are taken, which
folders there are, and in which order a folder has its items (`Shows.names`).
-/
import Mathlib.Data.List.Sort
import TreeQuery.Proofs.Project.Folders

namespace TreeQuery

-- ============================================================ segments

namespace ProjectPath

/-- What is between the slashes of a text, those at its start left out. -/
def segments (text : String) : ProjectPath :=
  ((text.toList.dropWhile (· == '/')).splitOn '/').map String.ofList

/-- A name is what is not empty and leads neither nowhere nor back. -/
theorem isName_iff {name : String} : isName name ↔ name ≠ "" ∧ name ≠ "." ∧ name ≠ ".." := by
  simp [isName, and_assoc]

/-- A text stands for its segments if all of them are names. -/
theorem parse?_eq_some_iff {text : String} {path : ProjectPath} :
    parse? text = some path ↔ path = segments text ∧ ∀ name ∈ segments text, isName name := by
  show (if (segments text).all isName then some (segments text) else none) = _ ↔ _
  split
  · rename_i h
    rw [List.all_eq_true] at h
    rw [and_iff_left h, Option.some.injEq, eq_comm]
  · rename_i h
    rw [List.all_eq_true] at h
    exact iff_of_false (fun he => by cases he) fun he => h he.2

-- =============================================================== order

/-- Of the ways from a directory to two paths the first does not go on with the later name. -/
theorem not_lt_of_nextName? {directory path later : ProjectPath} (h : path < later)
    {name next : String} (hn : nextName? directory path = some name)
    (hl : nextName? directory later = some next) : ¬ next < name := by
  obtain ⟨rest, rfl⟩ := nextName?_eq_some.1 hn
  obtain ⟨more, rfl⟩ := nextName?_eq_some.1 hl
  intro hlt
  refine List.lt_asymm h ?_
  rw [List.append_assoc, List.append_assoc]
  exact List.append_left_lt (List.cons_lt_cons_iff.2 (.inl hlt))

/-- With what comes again left out, names in order are in strict order. -/
theorem ascending_eraseDups {names : List String} (h : names.Pairwise fun a b => ¬ b < a) :
    names.eraseDups.Pairwise (· < ·) := by
  induction hn : names.length using Nat.strongRecOn generalizing names with
  | ind n ih =>
      cases names with
      | nil => exact List.Pairwise.nil
      | cons first rest =>
          rw [List.pairwise_cons] at h
          rw [List.eraseDups_cons, List.pairwise_cons]
          refine ⟨fun name hm => ?_, ih _ ?_ (h.2.filter _) rfl⟩
          · obtain ⟨hm, hne⟩ := List.mem_filter.1 (List.mem_eraseDups.1 hm)
            refine String.not_le.1 fun hle => ?_
            have he : name = first := String.le_antisymm hle (String.not_lt.1 (h.1 name hm))
            simp [he] at hne
          · rw [← hn, List.length_cons]
            exact Nat.lt_succ_of_le (List.length_filter_le _ _)

end ProjectPath

namespace Project

variable {project : Project} {path : ProjectPath}

theorem mem_namesBelow {directory : ProjectPath} {name : String} :
    name ∈ project.namesBelow directory ↔ ∃ path ∈ project.paths, directory ++ [name] <+: path := by
  unfold namesBelow
  rw [List.mem_eraseDups, List.mem_filterMap]
  simp only [ProjectPath.nextName?_eq_some]

/-- The names below a directory are in strict order. -/
theorem ascending_namesBelow (project : Project) (directory : ProjectPath) :
    (project.namesBelow directory).Pairwise (· < ·) := by
  refine ProjectPath.ascending_eraseDups (List.pairwise_filterMap.2 ?_)
  refine project.arranged.ascending.imp fun {path later} hlt name hn next hl => ?_
  exact ProjectPath.not_lt_of_nextName? hlt hn hl

-- ================================================================ runs

/-- What a project is after calls to add files. A call that is refused changes nothing. -/
def after (project : Project) (calls : List (String × String)) : Project :=
  calls.foldl (fun project call =>
    match project.add call.1 call.2 with
    | .ok (_, added) => added
    | .error _ => project) project

/-- The calls that are not refused: the path each came to, and its content. -/
def accepted (project : Project) : List (String × String) → List (ProjectPath × String)
  | [] => []
  | (text, content) :: rest =>
    match project.add text content with
    | .ok (path, added) => (path, content) :: accepted added rest
    | .error _ => accepted project rest

/-- The file that a call makes. -/
def newFile (file : ProjectPath × String) : ProjectPath × Document :=
  (file.1, { path := ProjectPath.write file.1, content := file.2 })

example : (empty "demo").accepted
    [("a/b.txt", ""), ("a/b.txt/c", ""), ("a/../c", ""), ("a", ""), ("/a/c", "text")] =
      [(["a", "b.txt"], ""), (["a", "c"], "text")] := by
  decide +kernel

theorem after_cons (project : Project) (text content : String) (rest : List (String × String)) :
    project.after ((text, content) :: rest) = (project.after [(text, content)]).after rest := rfl

theorem after_of_ok {text content : String} {added : Project}
    (h : project.add text content = .ok (path, added)) :
    project.after [(text, content)] = added := by
  simp only [after, List.foldl_cons, List.foldl_nil, h]

theorem after_of_error {text content : String} {e : ProjectError}
    (h : project.add text content = .error e) : project.after [(text, content)] = project := by
  simp only [after, List.foldl_cons, List.foldl_nil, h]

theorem perm_insert {α : Type} (path : ProjectPath) (value : α)
    (files : List (ProjectPath × α)) :
    (ProjectPath.insert path value files).Perm ((path, value) :: files) := by
  fun_induction ProjectPath.insert path value files with
  | case1 => exact .refl _
  | case2 => exact .refl _
  | case3 p v rest h ih => exact (ih.cons _).trans (.swap _ _ _)

/-- After a run the files are those that were there and those of the calls not refused. -/
theorem perm_files_after (project : Project) (calls : List (String × String)) :
    (project.after calls).files.Perm (project.files ++ (project.accepted calls).map newFile) := by
  induction calls generalizing project with
  | nil =>
      show project.files.Perm (project.files ++ [])
      rw [List.append_nil]
  | cons call rest ih =>
      obtain ⟨text, content⟩ := call
      rw [after_cons, accepted]
      cases h : project.add text content with
      | error e =>
          rw [after_of_error h]
          exact ih project
      | ok result =>
          obtain ⟨path, added⟩ := result
          obtain ⟨-, -, -, hfiles⟩ := add_eq_ok_iff.1 h
          have hnew : added.files.Perm (newFile (path, content) :: project.files) := by
            rw [hfiles]
            exact perm_insert _ _ _
          rw [after_of_ok h, List.map_cons]
          refine (ih added).trans ((hnew.append_right _).trans ?_)
          exact List.perm_middle.symm

theorem name_after (project : Project) (calls : List (String × String)) :
    (project.after calls).name = project.name := by
  induction calls generalizing project with
  | nil => rfl
  | cons call rest ih =>
      obtain ⟨text, content⟩ := call
      rw [after_cons, ih]
      cases h : project.add text content with
      | error e => rw [after_of_error h]
      | ok result =>
          obtain ⟨path, added⟩ := result
          rw [after_of_ok h]
          exact (add_eq_ok_iff.1 h).2.2.1

/-- Runs in which the same calls are let through, in any order, end with the same project. -/
theorem after_eq_of_perm {calls others : List (String × String)}
    (h : (project.accepted others).Perm (project.accepted calls)) :
    project.after others = project.after calls := by
  have hperm : (project.after others).files.Perm (project.after calls).files :=
    (perm_files_after project others).trans
      (((h.map newFile).append_left _).trans (perm_files_after project calls).symm)
  exact eq_of_files ((name_after project others).trans (name_after project calls).symm)
    (eq_of_ascending (project.after others).arranged.ascending
      (project.after calls).arranged.ascending fun entry => hperm.mem_iff)

end Project

namespace Folder

variable {folder items : Folder} {project : Project} {path : ProjectPath}

-- ================================================================ runs

/-- What a folder is after calls to add files, whatever they end with. -/
def after (folder : Folder) (calls : List (String × String)) : Folder :=
  calls.foldl (fun folder call => (folder.add call.1 call.2).2) folder

/-- A folder that shows a project before a run shows it after. -/
theorem Shows.after (h : folder.Shows project) (calls : List (String × String)) :
    (folder.after calls).Shows (project.after calls) := by
  induction calls generalizing folder project with
  | nil => exact h
  | cons call rest ih =>
      obtain ⟨text, content⟩ := call
      refine ih ?_
      have hadd := h.add text content
      dsimp only
      cases hp : project.add text content with
      | error e =>
          rw [hp] at hadd
          rw [show folder.add text content = _ from hadd]
          exact h
      | ok result =>
          rw [hp] at hadd
          obtain ⟨later, hlater, hshows⟩ := hadd
          rw [hlater]
          exact hshows

-- =============================================================== names

/-- What lies in a folder that lies in another is found from there by the longer path. -/
theorem file?_append (h : folder.folder? path = some items) (rest : ProjectPath) :
    folder.file? (path ++ rest) = items.file? rest := by
  induction path generalizing folder with
  | nil =>
      obtain rfl := Option.some.inj h
      rfl
  | cons name more ih =>
      cases hl : folder.lookup name with
      | none =>
          rw [folder?_of_none hl] at h
          cases h
      | some item =>
          cases item with
          | file document =>
              rw [folder?_of_file hl] at h
              cases h
          | folder inner =>
              rw [folder?_of_folder hl] at h
              rw [List.cons_append, file?_of_folder hl, ih h]

theorem folder?_append (h : folder.folder? path = some items) (rest : ProjectPath) :
    folder.folder? (path ++ rest) = items.folder? rest := by
  induction path generalizing folder with
  | nil =>
      obtain rfl := Option.some.inj h
      rfl
  | cons name more ih =>
      cases hl : folder.lookup name with
      | none =>
          rw [folder?_of_none hl] at h
          cases h
      | some item =>
          cases item with
          | file document =>
              rw [folder?_of_file hl] at h
              cases h
          | folder inner =>
              rw [folder?_of_folder hl] at h
              rw [List.cons_append, folder?_of_folder hl, ih h]

/-- An item is a file or a folder. -/
theorem mem_names_iff (name : String) :
    name ∈ items.map (·.1) ↔
      (items.file? [name]).isSome ∨ (items.folder? [name]).isSome := by
  cases hl : items.lookup name with
  | none =>
      rw [file?_of_none hl, folder?_of_none hl]
      refine iff_of_false (fun hm => ?_) (by simp)
      obtain ⟨entry, he, rfl⟩ := List.mem_map.1 hm
      have := List.lookup_eq_none_iff.1 hl entry he
      simp at this
  | some item =>
      refine iff_of_true (List.mem_map.2 ⟨_, mem_of_lookup_eq_some hl, rfl⟩) ?_
      cases item with
      | file document =>
          rw [file?_of_file hl, if_pos rfl]
          exact .inl rfl
      | folder inner =>
          rw [folder?_of_folder hl]
          exact .inr rfl

/-- The items of a folder have the names that the project has below its path, in their order. -/
theorem Shows.names (h : folder.Shows project) (hi : folder.folder? path = some items) :
    items.map (·.1) = project.namesBelow path := by
  refine (h.tidy.folder? hi).ascending.eq_of_mem_iff (project.ascending_namesBelow path)
    fun name => ?_
  have hne : path ++ [name] ≠ [] := List.append_ne_nil_of_right_ne_nil _ (List.cons_ne_nil _ _)
  rw [mem_names_iff, Project.mem_namesBelow, ← file?_append hi,
    ← folder?_append hi, h.files, h.folders, or_iff_right hne]
  constructor
  · rintro (hfile | ⟨file, hm, hp, -⟩)
    · obtain ⟨document, hd⟩ := Option.isSome_iff_exists.1 hfile
      exact ⟨_, Project.mem_paths_iff.2 ⟨document, hd⟩, List.prefix_refl _⟩
    · exact ⟨file, hm, hp⟩
  · rintro ⟨file, hm, hp⟩
    by_cases he : path ++ [name] = file
    · obtain ⟨document, hd⟩ := Project.mem_paths_iff.1 hm
      rw [he, hd]
      exact .inl rfl
    · exact .inr ⟨file, hm, hp, he⟩

-- =============================================================== calls

/-- Which calls are not refused. -/
theorem Shows.isOk_add_iff (h : folder.Shows project) (text content : String) :
    (project.add text content).isOk ↔
      (∀ name ∈ ProjectPath.segments text, name ≠ "" ∧ name ≠ "." ∧ name ≠ "..") ∧
        (∀ above, above <+: ProjectPath.segments text → above ≠ ProjectPath.segments text →
          folder.file? above = none) ∧
        folder.file? (ProjectPath.segments text) = none ∧
        folder.folder? (ProjectPath.segments text) = none := by
  simp only [← ProjectPath.isName_iff]
  cases hparse : ProjectPath.parse? text with
  | none =>
      rw [Project.add_of_unnamed content hparse]
      refine iff_of_false Bool.false_ne_true fun ⟨hnames, _⟩ => ?_
      rw [ProjectPath.parse?_eq_some_iff.2 ⟨rfl, hnames⟩] at hparse
      cases hparse
  | some path =>
      have hne : path ≠ [] := (ProjectPath.named_of_parse? hparse).1
      obtain ⟨rfl, hnames⟩ := ProjectPath.parse?_eq_some_iff.1 hparse
      have hroom : (create { path := "", content } (ProjectPath.segments text) folder).1 = true ↔
          _ := h.create_eq_true_iff hne
      rw [and_iff_right hnames]
      rw [Folder.create_eq_true_iff, and_iff_right hne] at hroom
      rw [hroom]
      constructor
      · intro hok
        by_contra hconflict
        rw [Project.add_of_conflict content hparse hconflict] at hok
        cases hok
      · intro hfree
        obtain ⟨added, hadd⟩ := Project.exists_add content hparse hfree
        rw [hadd]
        rfl

end Folder

-- ============================================================ the store

namespace Project

variable {project : Project} {path : ProjectPath}

theorem after_concat (project : Project) (calls : List (String × String)) (text content : String) :
    project.after (calls ++ [(text, content)]) = (project.after calls).after [(text, content)] :=
  List.foldl_append

/-- A call that is not refused makes its file, and whatever else is looked up is found as before. -/
theorem lookups_of_add {text content : String} {added : Project}
    (h : project.add text content = .ok (path, added)) :
    path = ProjectPath.segments text ∧ added.file? text = some path ∧
      added.document? path = some { path := ProjectPath.write path, content } ∧
      (∀ other, other ≠ path → added.document? other = project.document? other) ∧
      ∀ other, ProjectPath.segments other ≠ path → added.file? other = project.file? other := by
  obtain ⟨hparse, -⟩ := add_eq_ok_iff.1 h
  obtain ⟨hpath, -⟩ := ProjectPath.parse?_eq_some_iff.1 hparse
  obtain ⟨-, hdocument⟩ := document?_of_add h
  have hnew : added.document? path = some { path := ProjectPath.write path, content } := by
    rw [hdocument, if_pos rfl]
  refine ⟨hpath, ?_, hnew, fun other hne => ?_, fun other hne => ?_⟩
  · simp only [file?, hparse, Option.bind_eq_bind, Option.bind_some, hnew, Option.isSome_some,
      if_true]
  · rw [hdocument, if_neg hne]
  · unfold file?
    cases hother : ProjectPath.parse? other with
    | none => rfl
    | some found =>
        obtain ⟨rfl, -⟩ := ProjectPath.parse?_eq_some_iff.1 hother
        simp only [Option.bind_eq_bind, Option.bind_some, hdocument, if_neg hne]

/-- The paths of the files after a run are those that the calls let through came to. -/
theorem exists_paths_after (name : String) (calls : List (String × String))
    (P : ProjectPath → Prop) :
    (∃ file ∈ ((empty name).after calls).paths, P file) ↔
      ∃ file ∈ (empty name).accepted calls, P file.1 := by
  have hmem : ∀ file, file ∈ ((empty name).after calls).paths ↔
      file ∈ (((empty name).accepted calls).map newFile).map (·.1) :=
    fun file => ((perm_files_after (empty name) calls).map (·.1)).mem_iff
  simp only [hmem, List.mem_map, exists_exists_and_eq_and]
  rfl

/-- A project that starts empty, after calls to add files, and the tree of folders that has been
built along. A further call is let through exactly if its segments are names, no file is on the way
and nothing is at the end; one that is refused leaves both sides as they are; one that is not makes
its file and leaves what is found elsewhere. The files are those of the calls let through, the
folders are the ways to them, with their items in strict order, and the calls let through determine
both sides. -/
theorem store_of_calls (name : String) (calls : List (String × String)) :
    let project := (empty name).after calls
    let folder := Folder.after [] calls
    let accepted := (empty name).accepted calls
    (∀ text content, (project.add text content).isOk ↔
      (∀ name ∈ ProjectPath.segments text, name ≠ "" ∧ name ≠ "." ∧ name ≠ "..") ∧
        (∀ above, above <+: ProjectPath.segments text → above ≠ ProjectPath.segments text →
          folder.file? above = none) ∧
        folder.file? (ProjectPath.segments text) = none ∧
        folder.folder? (ProjectPath.segments text) = none) ∧
    (∀ text content error, project.add text content = .error error →
      folder.add text content = (.error error, folder) ∧
        (empty name).after (calls ++ [(text, content)]) = project) ∧
    (∀ text content path added, project.add text content = .ok (path, added) →
      (folder.add text content).1 = .ok path ∧ path = ProjectPath.segments text ∧
        added = (empty name).after (calls ++ [(text, content)]) ∧
        added.file? text = some path ∧
        added.document? path = some { path := ProjectPath.write path, content } ∧
        (∀ other, other ≠ path → added.document? other = project.document? other) ∧
        ∀ other, ProjectPath.segments other ≠ path → added.file? other = project.file? other) ∧
    project.files.Perm (accepted.map newFile) ∧
    (∀ path, folder.file? path = project.document? path) ∧
    (∀ path, (folder.folder? path).isSome ↔
      path = [] ∨ ∃ file ∈ accepted, path <+: file.1 ∧ path ≠ file.1) ∧
    (∀ path items, folder.folder? path = some items →
      items.map (·.1) = project.namesBelow path ∧ (items.map (·.1)).Pairwise (· < ·)) ∧
    ∀ others, ((empty name).accepted others).Perm accepted →
      (empty name).after others = project ∧ Folder.after [] others = folder := by
  intro project folder accepted
  have hshows : folder.Shows project := (Folder.shows_empty name).after calls
  refine ⟨hshows.isOk_add_iff, fun text content error h => ?_, fun text content path added h => ?_,
    perm_files_after (empty name) calls, hshows.files, fun path => ?_, fun path items hi => ?_,
    fun others hperm => ?_⟩
  · have hadd := hshows.add text content
    rw [h] at hadd
    exact ⟨hadd, by rw [after_concat, after_of_error h]⟩
  · have hadd := hshows.add text content
    rw [h] at hadd
    obtain ⟨later, hlater, -⟩ := hadd
    obtain ⟨hpath, hrest⟩ := lookups_of_add h
    exact ⟨by rw [hlater], hpath, by rw [after_concat, after_of_ok h], hrest⟩
  · rw [hshows.folders]
    exact or_congr_right (exists_paths_after name calls fun file => path <+: file ∧ path ≠ file)
  · exact ⟨hshows.names hi, (hshows.tidy.folder? hi).ascending⟩
  · have hsame : (empty name).after others = project := after_eq_of_perm hperm
    exact ⟨hsame, Folder.Shows.unique
      (hsame ▸ (Folder.shows_empty name).after others) hshows⟩

end Project

end TreeQuery
