/-
Folders: the files of a project as a tree of named items.

A project has no directories of its own: its files say which there are. Here the directories are
there as folders, each holding its items under their names, and a file is added the way it is
done in a tree. The way goes down one name at a time; a folder that is missing is made when the
way comes through it, before it is known whether there is room for the file at the end, and what
has been made stays.

# Atomicity

Still a file that is refused leaves the folder as it was (`create_of_false`). A way is blocked
only by items that stood there before: once it has come to a folder it had to make, that folder
is empty and nothing below can be in the way (`create_nil`).

# The two sides

`Folder.Shows` ties a folder to a project: the same files at the same paths, and a folder where
the project has a file further down. Adding a file keeps the tie and ends the same way on both
sides (`Shows.add`). Folders that are tidy, with their items in ascending order at every level,
are the same if they have the same files and folders at every path (`Tidy.ext`); so a project
has one tree.
-/
import TreeQuery.Proofs.Project.Files
import TreeQuery.Proofs.Snapshot.Tree

namespace TreeQuery

/-- Something in a folder. -/
inductive Item where
  | file (document : Document)
  | folder (items : List (String × Item))

/-- The items of a folder, by name. -/
abbrev Folder := List (String × Item)

namespace Folder

-- =============================================================== items

/-- Puts an item under a name, in the place of the one that is there. -/
def put (name : String) (item : Item) : Folder → Folder
  | [] => [(name, item)]
  | (n, i) :: rest =>
    if name < n then (name, item) :: (n, i) :: rest
    else if name = n then (name, item) :: rest
    else (n, i) :: put name item rest

variable {folder other items : Folder} {name : String} {item : Item} {path : ProjectPath}
  {document : Document}

theorem lookup_put (folder : Folder) (name : String) (item : Item) (key : String) :
    (folder.put name item).lookup key = if key = name then some item else folder.lookup key := by
  induction folder with
  | nil =>
      rw [put, List.lookup_cons]
      by_cases h : key = name
      · rw [beq_iff_eq.2 h, if_pos h]
      · rw [beq_eq_false_iff_ne.2 h, if_neg h]
  | cons entry rest ih =>
      obtain ⟨n, i⟩ := entry
      rw [put]
      split
      · rw [List.lookup_cons]
        by_cases h : key = name
        · rw [beq_iff_eq.2 h, if_pos h]
        · rw [beq_eq_false_iff_ne.2 h, if_neg h]
      · split
        · rename_i hn
          subst hn
          rw [List.lookup_cons, List.lookup_cons]
          by_cases h : key = name
          · rw [beq_iff_eq.2 h, if_pos h]
          · rw [beq_eq_false_iff_ne.2 h, if_neg h]
        · rename_i hn
          rw [List.lookup_cons, List.lookup_cons]
          by_cases h : key = n
          · rw [beq_iff_eq.2 h, if_neg fun he => hn (he.symm.trans h)]
          · rw [beq_eq_false_iff_ne.2 h]
            exact ih

theorem mem_put {entry : String × Item} (h : entry ∈ folder.put name item) :
    entry = (name, item) ∨ entry ∈ folder := by
  induction folder with
  | nil => exact .inl (List.mem_singleton.1 h)
  | cons first rest ih =>
      obtain ⟨n, i⟩ := first
      rw [put] at h
      split at h
      · exact List.mem_cons.1 h
      · split at h
        · rcases List.mem_cons.1 h with h | h
          · exact .inl h
          · exact .inr (List.mem_cons_of_mem _ h)
        · rcases List.mem_cons.1 h with h | h
          · exact .inr (h ▸ List.mem_cons_self)
          · exact (ih h).imp_right (List.mem_cons_of_mem _)

theorem ascending_put (h : (folder.map (·.1)).Pairwise (· < ·)) (name : String) (item : Item) :
    ((folder.put name item).map (·.1)).Pairwise (· < ·) := by
  induction folder with
  | nil => exact List.pairwise_singleton _ _
  | cons first rest ih =>
      obtain ⟨n, i⟩ := first
      rw [List.map_cons, List.pairwise_cons] at h
      rw [put]
      split
      · rename_i hlt
        refine List.pairwise_cons.2 ⟨fun m hm => ?_, List.pairwise_cons.2 h⟩
        rcases List.mem_cons.1 hm with rfl | hm
        · exact hlt
        · exact String.lt_trans hlt (h.1 m hm)
      · rename_i hnlt
        split
        · rename_i hn
          subst hn
          exact List.pairwise_cons.2 h
        · rename_i hn
          refine List.pairwise_cons.2 ⟨fun m hm => ?_, ih h.2⟩
          obtain ⟨entry, he, rfl⟩ := List.mem_map.1 hm
          rcases mem_put he with rfl | he
          · refine String.not_le.1 fun hle => hn ?_
            exact String.le_antisymm hle (String.not_lt.1 hnlt)
          · exact h.1 _ (List.mem_map_of_mem he)

/-- Putting back what is there changes nothing. -/
theorem put_self (h : (folder.map (·.1)).Pairwise (· < ·)) (hi : folder.lookup name = some item) :
    folder.put name item = folder := by
  induction folder with
  | nil => cases hi
  | cons first rest ih =>
      obtain ⟨n, i⟩ := first
      rw [List.map_cons, List.pairwise_cons] at h
      rw [List.lookup_cons] at hi
      by_cases he : name = n
      · subst he
        rw [beq_self_eq_true] at hi
        obtain rfl := Option.some.inj hi
        rw [put, if_neg (String.lt_irrefl _), if_pos rfl]
      · rw [beq_eq_false_iff_ne.2 he] at hi
        have hm : name ∈ rest.map (·.1) :=
          List.mem_map.2 ⟨_, mem_of_lookup_eq_some hi, rfl⟩
        rw [put, if_neg (String.lt_asymm (h.1 name hm)), if_neg he, ih h.2 hi]

-- ============================================================== places

/-- The document of the file at a path. -/
def file? : Folder → ProjectPath → Option Document
  | _, [] => none
  | folder, name :: rest =>
    match folder.lookup name with
    | some (.file document) => if rest = [] then some document else none
    | some (.folder items) => file? items rest
    | none => none

/-- The items of the folder at a path. -/
def folder? : Folder → ProjectPath → Option Folder
  | folder, [] => some folder
  | folder, name :: rest =>
    match folder.lookup name with
    | some (.folder items) => folder? items rest
    | _ => none

theorem file?_nil (folder : Folder) : folder.file? [] = none := rfl

/-- What the first name of a path stands for decides where the rest is looked up. -/
theorem file?_cons (folder : Folder) (name : String) (rest : ProjectPath) :
    folder.file? (name :: rest) =
      match folder.lookup name with
      | some (.file document) => if rest = [] then some document else none
      | some (.folder items) => file? items rest
      | none => none := rfl

theorem folder?_nil (folder : Folder) : folder.folder? [] = some folder := rfl

theorem folder?_cons (folder : Folder) (name : String) (rest : ProjectPath) :
    folder.folder? (name :: rest) =
      match folder.lookup name with
      | some (.folder items) => folder? items rest
      | _ => none := rfl

theorem file?_of_none (h : folder.lookup name = none) (rest : ProjectPath) :
    folder.file? (name :: rest) = none := by
  rw [file?_cons, h]

theorem file?_of_file (h : folder.lookup name = some (.file document)) (rest : ProjectPath) :
    folder.file? (name :: rest) = if rest = [] then some document else none := by
  rw [file?_cons, h]

theorem file?_of_folder (h : folder.lookup name = some (.folder items)) (rest : ProjectPath) :
    folder.file? (name :: rest) = items.file? rest := by
  rw [file?_cons, h]

theorem folder?_of_none (h : folder.lookup name = none) (rest : ProjectPath) :
    folder.folder? (name :: rest) = none := by
  rw [folder?_cons, h]

theorem folder?_of_file (h : folder.lookup name = some (.file document)) (rest : ProjectPath) :
    folder.folder? (name :: rest) = none := by
  rw [folder?_cons, h]

theorem folder?_of_folder (h : folder.lookup name = some (.folder items))
    (rest : ProjectPath) : folder.folder? (name :: rest) = items.folder? rest := by
  rw [folder?_cons, h]

theorem file?_singleton_iff :
    folder.file? [name] = some document ↔ folder.lookup name = some (.file document) := by
  rw [file?_cons]
  cases folder.lookup name with
  | none => simp
  | some item =>
      cases item with
      | file found => simp
      | folder items => simp [file?_nil]

theorem isSome_folder?_singleton_iff :
    (folder.folder? [name]).isSome ↔ ∃ items, folder.lookup name = some (.folder items) := by
  rw [folder?_cons]
  cases folder.lookup name with
  | none => simp
  | some item =>
      cases item with
      | file found => simp
      | folder items => simp [folder?_nil]

/-- What is found through a name is found in the item put there. -/
theorem file?_put (folder : Folder) (name : String) (item : Item) (key : String)
    (rest : ProjectPath) :
    (folder.put name item).file? (key :: rest) =
      if key = name then file? [(name, item)] (name :: rest) else folder.file? (key :: rest) := by
  have hlookup := folder.lookup_put name item key
  split
  · rename_i he
    rw [if_pos he] at hlookup
    rw [file?_cons, hlookup, file?_cons, List.lookup_cons, beq_self_eq_true]
  · rename_i hne
    rw [if_neg hne] at hlookup
    rw [file?_cons, hlookup, file?_cons]

theorem folder?_put (folder : Folder) (name : String) (item : Item) (key : String)
    (rest : ProjectPath) :
    (folder.put name item).folder? (key :: rest) =
      if key = name then folder? [(name, item)] (name :: rest)
      else folder.folder? (key :: rest) := by
  have hlookup := folder.lookup_put name item key
  split
  · rename_i he
    rw [if_pos he] at hlookup
    rw [folder?_cons, hlookup, folder?_cons, List.lookup_cons, beq_self_eq_true]
  · rename_i hne
    rw [if_neg hne] at hlookup
    rw [folder?_cons, hlookup, folder?_cons]

theorem lookup_singleton (name : String) (item : Item) :
    List.lookup name [(name, item)] = some item := by
  rw [List.lookup_cons, beq_self_eq_true]

/-- In an empty folder nothing is found. -/
theorem file?_empty (path : ProjectPath) : file? [] path = none := by
  cases path with
  | nil => rfl
  | cons name rest => exact file?_of_none rfl rest

-- =============================================================== tidy

/-- At every level the items are in ascending order. -/
inductive Tidy : Folder → Prop
  | intro {folder : Folder} (ascending : (folder.map (·.1)).Pairwise (· < ·))
      (inside : ∀ name items, (name, .folder items) ∈ folder → Tidy items) : Tidy folder

theorem tidy_nil : Tidy [] := .intro List.Pairwise.nil fun _ _ h => by cases h

theorem Tidy.ascending (h : folder.Tidy) : (folder.map (·.1)).Pairwise (· < ·) := by
  cases h with
  | intro ascending _ => exact ascending

theorem Tidy.inside (h : folder.Tidy) (hi : folder.lookup name = some (.folder items)) :
    items.Tidy := by
  cases h with
  | intro _ hinside => exact hinside _ _ (mem_of_lookup_eq_some hi)

theorem Tidy.folder? (h : folder.Tidy) (hp : folder.folder? path = some items) :
    items.Tidy := by
  induction path generalizing folder with
  | nil =>
      obtain rfl := Option.some.inj hp
      exact h
  | cons name rest ih =>
      cases hl : folder.lookup name with
      | none =>
          rw [folder?_of_none hl] at hp
          cases hp
      | some item =>
          cases item with
          | file document =>
              rw [folder?_of_file hl] at hp
              cases hp
          | folder items =>
              rw [folder?_of_folder hl] at hp
              exact ih (h.inside hl) hp

theorem Tidy.put (h : folder.Tidy) (name : String) {item : Item}
    (hi : ∀ items, item = .folder items → Tidy items) : (folder.put name item).Tidy := by
  cases h with
  | intro ascending inside =>
      refine .intro (ascending_put ascending name item) fun n items hm => ?_
      rcases mem_put hm with he | hm
      · exact hi items (Prod.mk.inj he).2.symm
      · exact inside n items hm

/-- Tidy folders with the same files and folders at all paths are the same. -/
theorem Tidy.ext (h : folder.Tidy) (ho : other.Tidy)
    (files : ∀ path, folder.file? path = other.file? path)
    (folders : ∀ path, (folder.folder? path).isSome = (other.folder? path).isSome) :
    folder = other := by
  induction h generalizing other with
  | @intro folder ascending inside ih =>
      refine eq_of_lookup ascending ho.ascending fun name => Option.ext fun item => ?_
      cases item with
      | file document => rw [← file?_singleton_iff, ← file?_singleton_iff, files]
      | folder items =>
          have hsame : ∀ {items items' : Folder}, folder.lookup name = some (.folder items) →
              other.lookup name = some (.folder items') → items = items' := by
            intro items items' hl hl'
            refine ih name items (mem_of_lookup_eq_some hl) (ho.inside hl')
              (fun rest => ?_) fun rest => ?_
            · have hrest := files (name :: rest)
              rwa [file?_of_folder hl, file?_of_folder hl'] at hrest
            · have hrest := folders (name :: rest)
              rwa [folder?_of_folder hl, folder?_of_folder hl'] at hrest
          constructor
          · intro hl
            obtain ⟨items', hl'⟩ := isSome_folder?_singleton_iff.1
              (folders [name] ▸ isSome_folder?_singleton_iff.2 ⟨items, hl⟩)
            rw [hsame hl hl', hl']
          · intro hl'
            obtain ⟨items', hl⟩ := isSome_folder?_singleton_iff.1
              (folders [name] ▸ isSome_folder?_singleton_iff.2 ⟨items, hl'⟩)
            rw [← hsame hl hl', hl]

-- ============================================================== adding

/-- Adds a file below a folder and says whether there was room for it. -/
def create (document : Document) : ProjectPath → Folder → Bool × Folder
  | [], folder => (false, folder)
  | [name], folder =>
    match folder.lookup name with
    | some _ => (false, folder)
    | none => (true, folder.put name (.file document))
  | name :: next :: rest, folder =>
    match folder.lookup name with
    | some (.file _) => (false, folder)
    | some (.folder items) =>
      let below := create document (next :: rest) items
      (below.1, folder.put name (.folder below.2))
    | none =>
      let made := folder.put name (.folder [])
      let below := create document (next :: rest) []
      (below.1, made.put name (.folder below.2))

/-- Adds a file at the path that a text names. -/
def add (folder : Folder) (text content : String) : Except ProjectError ProjectPath × Folder :=
  match ProjectPath.parse? text with
  | none => (.error (.invalidPath text), folder)
  | some path =>
    let made := create { path := ProjectPath.write path, content } path folder
    (if made.1 then .ok path else .error (.pathConflict text), made.2)

/-- What a way down through a name needs is what it needs below. -/
theorem forall_above_cons {P : ProjectPath → Prop} {rest : ProjectPath} (hnil : P []) :
    (∀ above, above <+: name :: rest → above ≠ name :: rest → P above) ↔
      ∀ above, above <+: rest → above ≠ rest → P (name :: above) := by
  constructor
  · intro h above hp hne
    exact h _ (List.prefix_cons_inj name |>.2 hp) fun he => hne (List.cons.inj he).2
  · intro h above hp hne
    rcases List.prefix_cons_iff.1 hp with rfl | ⟨below, rfl, hbelow⟩
    · exact hnil
    · exact h below hbelow fun he => hne (by rw [he])

/-- There is room for a file exactly if the way to it leads through no file and nothing stands at
its end. -/
theorem create_eq_true_iff :
    (create document path folder).1 = true ↔
      path ≠ [] ∧ (∀ above, above <+: path → above ≠ path → folder.file? above = none) ∧
        folder.file? path = none ∧ folder.folder? path = none := by
  fun_induction create document path folder with
  | case1 => simp
  | case2 name folder item hl =>
      refine iff_of_false Bool.false_ne_true fun ⟨_, _, hfile, hfolder⟩ => ?_
      cases item with
      | file d =>
          rw [file?_of_file hl] at hfile
          cases hfile
      | folder items =>
          rw [folder?_of_folder hl] at hfolder
          cases hfolder
  | case3 name folder hl =>
      refine iff_of_true rfl ⟨List.cons_ne_nil _ _, ?_, file?_of_none hl _, folder?_of_none hl _⟩
      exact (forall_above_cons (folder.file?_nil)).2 fun above _ _ => file?_of_none hl _
  | case4 name next rest folder d hl =>
      refine iff_of_false Bool.false_ne_true fun ⟨_, habove, _, _⟩ => ?_
      have := habove [name] ⟨next :: rest, rfl⟩ (by simp)
      rw [file?_of_file hl, if_pos rfl] at this
      cases this
  | case5 name next rest folder items hl below ih =>
      have habove := @forall_above_cons name (fun above => folder.file? above = none)
        (next :: rest) folder.file?_nil
      simp only [file?_of_folder hl] at habove
      show below.1 = true ↔ _
      rw [ih, habove, file?_of_folder hl, folder?_of_folder hl]
      simp only [ne_eq, List.cons_ne_nil, not_false_eq_true, true_and]
  | case6 name next rest folder hl made below ih =>
      show below.1 = true ↔ _
      refine iff_of_true (ih.2 ⟨List.cons_ne_nil _ _, fun above _ _ => file?_empty above,
        file?_empty _, folder?_of_none rfl _⟩) ⟨List.cons_ne_nil _ _, ?_, file?_of_none hl _,
          folder?_of_none hl _⟩
      exact (forall_above_cons (folder.file?_nil)).2 fun above _ _ => file?_of_none hl _

/-- In an empty folder there is room for any file. -/
theorem create_nil (h : path ≠ []) : (create document path []).1 = true := by
  refine create_eq_true_iff.2 ⟨h, fun above _ _ => file?_empty above, file?_empty path, ?_⟩
  cases path with
  | nil => exact absurd rfl h
  | cons n more => exact folder?_of_none rfl more

/-- A file for which there is no room leaves no trace, whatever was made on the way. -/
theorem create_of_false (ht : folder.Tidy) (h : (create document path folder).1 = false) :
    (create document path folder).2 = folder := by
  fun_induction create document path folder with
  | case1 => rfl
  | case2 => rfl
  | case3 => cases h
  | case4 => rfl
  | case5 name next rest folder items hl below ih =>
      show folder.put name (.folder below.2) = folder
      rw [show below.2 = items from ih (ht.inside hl) h, put_self ht.ascending hl]
  | case6 name next rest folder hl made below ih =>
      have hroom : below.1 = true := create_nil (List.cons_ne_nil _ _)
      rw [show below.1 = false from h] at hroom
      cases hroom

theorem tidy_create (ht : folder.Tidy) : (create document path folder).2.Tidy := by
  fun_induction create document path folder with
  | case1 => exact ht
  | case2 => exact ht
  | case3 => exact ht.put _ fun _ h => by cases h
  | case4 => exact ht
  | case5 name next rest folder items hl below ih =>
      refine ht.put _ fun items' h => ?_
      rw [← Item.folder.inj h]
      exact ih (ht.inside hl)
  | case6 name next rest folder hl made below ih =>
      have hmade : made.Tidy := ht.put _ fun items' h => by
        rw [← Item.folder.inj h]
        exact tidy_nil
      refine hmade.put _ fun items' h => ?_
      rw [← Item.folder.inj h]
      exact ih tidy_nil

/-- A file that is added is there, and every other one is as before. -/
theorem file?_create (h : (create document path folder).1 = true) (other : ProjectPath) :
    (create document path folder).2.file? other =
      if other = path then some document else folder.file? other := by
  fun_induction create document path folder generalizing other with
  | case1 => cases h
  | case2 => cases h
  | case3 name folder hl =>
      cases other with
      | nil => rw [if_neg (by simp), file?_nil, file?_nil]
      | cons key more =>
          rw [file?_put]
          by_cases hk : key = name
          · subst hk
            simp only [if_true, List.cons.injEq, true_and, file?_of_file (lookup_singleton _ _),
              file?_of_none hl]
          · rw [if_neg hk, if_neg fun he => hk (List.cons.inj he).1]
  | case4 => cases h
  | case5 name next rest folder items hl below ih =>
      cases other with
      | nil => rw [if_neg (by simp), file?_nil, file?_nil]
      | cons key more =>
          rw [file?_put]
          by_cases hk : key = name
          · subst hk
            simp only [if_true, List.cons.injEq, true_and, file?_of_folder (lookup_singleton _ _),
              file?_of_folder hl]
            exact ih h more
          · rw [if_neg hk, if_neg fun he => hk (List.cons.inj he).1]
  | case6 name next rest folder hl made below ih =>
      cases other with
      | nil => rw [if_neg (by simp), file?_nil, file?_nil]
      | cons key more =>
          rw [file?_put, file?_put]
          by_cases hk : key = name
          · subst hk
            simp only [if_true, List.cons.injEq, true_and, file?_of_folder (lookup_singleton _ _),
              file?_of_none hl]
            rw [show below.2.file? more = _ from ih h more, file?_empty]
          · rw [if_neg hk, if_neg hk, if_neg fun he => hk (List.cons.inj he).1]

/-- Strictly above a path that starts with a name are the root and what is strictly above the rest
under the same name. -/
theorem cons_above_cons {key : String} {more rest : ProjectPath} :
    key :: more <+: name :: rest ∧ key :: more ≠ name :: rest ↔
      key = name ∧ more <+: rest ∧ more ≠ rest := by
  rw [List.cons_prefix_cons, ne_eq, List.cons.injEq]
  constructor
  · rintro ⟨⟨rfl, hp⟩, hne⟩
    exact ⟨rfl, hp, fun he => hne ⟨rfl, he⟩⟩
  · rintro ⟨rfl, hp, hne⟩
    exact ⟨⟨rfl, hp⟩, fun he => hne he.2⟩

/-- A file that is added makes the folders on the way to it, and no others. -/
theorem isSome_folder?_create (h : (create document path folder).1 = true)
    (other : ProjectPath) :
    ((create document path folder).2.folder? other).isSome ↔
      (folder.folder? other).isSome ∨ (other <+: path ∧ other ≠ path) := by
  fun_induction create document path folder generalizing other with
  | case1 => cases h
  | case2 => cases h
  | case3 name folder hl =>
      cases other with
      | nil => exact iff_of_true rfl (.inl rfl)
      | cons key more =>
          rw [folder?_put, cons_above_cons]
          by_cases hk : key = name
          · subst hk
            rw [if_pos rfl, folder?_of_file (lookup_singleton _ _), folder?_of_none hl]
            simp
          · rw [if_neg hk, or_iff_left fun he => hk he.1]
  | case4 => cases h
  | case5 name next rest folder items hl below ih =>
      cases other with
      | nil => exact iff_of_true rfl (.inl rfl)
      | cons key more =>
          rw [folder?_put, cons_above_cons]
          by_cases hk : key = name
          · subst hk
            rw [if_pos rfl, folder?_of_folder (lookup_singleton _ _), folder?_of_folder hl,
              eq_self, true_and]
            exact ih h more
          · rw [if_neg hk, or_iff_left fun he => hk he.1]
  | case6 name next rest folder hl made below ih =>
      cases other with
      | nil => exact iff_of_true rfl (.inl rfl)
      | cons key more =>
          rw [folder?_put, folder?_put, cons_above_cons]
          by_cases hk : key = name
          · subst hk
            rw [if_pos rfl, folder?_of_folder (lookup_singleton _ _), folder?_of_none hl,
              eq_self, true_and, show (below.2.folder? more).isSome = true ↔ _ from ih h more]
            -- the folder that has been made is above whatever has been made in it
            cases more with
            | nil => simp
            | cons _ _ => rw [folder?_of_none rfl]
          · rw [if_neg hk, if_neg hk, or_iff_left fun he => hk he.1]

-- =========================================================== two sides

variable {project : Project}

/-- A folder that holds the files of a project. -/
structure Shows (folder : Folder) (project : Project) : Prop where
  tidy : folder.Tidy
  files : ∀ path, folder.file? path = project.document? path
  /-- Besides itself it holds the folders on the way to its files. -/
  folders : ∀ path, (folder.folder? path).isSome ↔
    path = [] ∨ ∃ file ∈ project.paths, path <+: file ∧ path ≠ file

theorem shows_empty (name : String) : Shows [] (.empty name) where
  tidy := tidy_nil
  files path := file?_empty path
  folders path := by
    cases path with
    | nil => exact iff_of_true rfl (.inl rfl)
    | cons n rest =>
        rw [folder?_of_none rfl]
        refine iff_of_false Bool.false_ne_true ?_
        rintro (he | ⟨file, hm, -⟩)
        · cases he
        · cases hm

/-- A project has one folder. -/
theorem Shows.unique (h : folder.Shows project) (ho : other.Shows project) : folder = other :=
  h.tidy.ext ho.tidy (fun path => (h.files path).trans (ho.files path).symm) fun path =>
    Bool.eq_iff_iff.2 ((h.folders path).trans (ho.folders path).symm)

/-- A folder has room for a file exactly if no file of the project excludes it. -/
theorem Shows.create_eq_true_iff (h : folder.Shows project) (hne : path ≠ []) :
    (create document path folder).1 = true ↔
      ∀ entry ∈ project.files, ProjectPath.conflicts entry.1 path = false := by
  rw [Folder.create_eq_true_iff, ← project.free_iff,
    ← Option.not_isSome_iff_eq_none (o := folder.folder? path), h.folders path, or_iff_right hne,
    h.files path]
  simp only [h.files, hne, ne_eq, not_false_eq_true, true_and]

/-- Adding a file ends alike on both sides, and a call that is refused leaves the folder as it
was. -/
theorem Shows.add (h : folder.Shows project) (text content : String) :
    match project.add text content with
    | .ok (path, added) => ∃ later, folder.add text content = (.ok path, later) ∧ later.Shows added
    | .error e => folder.add text content = (.error e, folder) := by
  unfold Folder.add
  cases hparse : ProjectPath.parse? text with
  | none => rw [Project.add_of_unnamed content hparse]
  | some path =>
      have hne : path ≠ [] := (ProjectPath.named_of_parse? hparse).1
      have hiff : (create { path := ProjectPath.write path, content } path folder).1 = true ↔
          ∀ entry ∈ project.files, ProjectPath.conflicts entry.1 path = false :=
        h.create_eq_true_iff hne
      dsimp only
      cases hroom : (create { path := ProjectPath.write path, content } path folder).1 with
      | false =>
          rw [hroom] at hiff
          rw [Project.add_of_conflict content hparse fun hfree => Bool.false_ne_true (hiff.2 hfree),
            create_of_false h.tidy hroom]
          rfl
      | true =>
          obtain ⟨added, hadd⟩ := Project.exists_add content hparse (hiff.1 hroom)
          obtain ⟨-, hdocument⟩ := Project.document?_of_add hadd
          obtain ⟨-, -, -, hfiles⟩ := Project.add_eq_ok_iff.1 hadd
          have hmem : ∀ file, file ∈ added.paths ↔ file = path ∨ file ∈ project.paths := by
            intro file
            unfold Project.paths
            rw [hfiles, List.mem_map, List.mem_map]
            simp only [ProjectPath.mem_insert, or_and_right, exists_or, exists_eq_left,
              eq_comm (a := path)]
          rw [hadd]
          refine ⟨_, rfl, tidy_create h.tidy, fun other => ?_, fun other => ?_⟩
          · rw [file?_create hroom, hdocument, h.files]
          · simp only [isSome_folder?_create hroom, h.folders, hmem, or_and_right, exists_or,
              exists_eq_left, or_comm, or_left_comm]

end Folder

end TreeQuery
