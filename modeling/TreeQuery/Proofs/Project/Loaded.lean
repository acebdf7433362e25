/-
Loading the tree below a directory.

# The walk

A directory is loaded by walking through it: from each directory one comes to what stands right
below it, in the order of the names, but not to what has an ignored name (`Disk.walk`). What is
below an ignored directory is never seen, so it takes a look at the whole of a path to say whether a
walk comes to it: it does if none of its names is ignored (`Disk.Tree.mem_walk`). The directory that
is loaded is where the walk starts, so its own name does not matter. What a walk comes to are the
files below the directory in their order, less those with an ignored name (`Disk.Tree.walk_eq`).

# The files

Disks hold trees: nothing lies below a file, and names lead down (`Disk.Tree`). If the names are
texts, the texts to load (`Disk.Loads`) are at paths that a project has room for, one after the
other and in any order, and none is refused (`Project.exists_addAll`).

# The directories

A project has no directories but those on the way to a file. A walk through its tree comes to the
files, to these directories and to nothing else (`Workspace.mem_descendantsOrSelf_root`): an empty
directory of the disk, or one in which all is left out, is not there.
-/
import Mathlib.Data.List.Dedup
import Mathlib.Data.List.Sort
import TreeQuery.Proofs.Project.Listing
import TreeQuery.Proofs.Project.Loading
import TreeQuery.Proofs.Snapshot.Listing
import TreeQuery.Proofs.Snapshot.Shown

namespace TreeQuery

variable {grammars : Grammars}

namespace Disk

-- =============================================================== disks

/-- A disk on which files and directories make up a tree. -/
structure Tree (disk : Disk) : Prop extends disk.Sound where
  /-- No name means the directory itself or the one above. -/
  named : ∀ path ∈ disk.items.map (·.1), ∀ name ∈ path, name ≠ here ∧ name ≠ above
  /-- Nothing lies below a file. -/
  apart : ∀ path bytes, disk.file? path = some bytes → ∀ other ∈ disk.items.map (·.1),
    path <+: other → other = path

/-- The names of what stands right below a directory, in ascending order. -/
def namesBelow (disk : Disk) (directory : DiskPath) : List NativeText :=
  let names := (disk.items.flatMap (·.1)).filter fun name =>
    disk.items.any fun item => (directory ++ [name]).isPrefixOf item.1
  (names.insertionSort (· ≤ ·)).dedup

/-- The files that a walk comes to which does not follow ignored names. It starts at a path below
the root and goes no deeper than it is told. -/
def walk (disk : Disk) (ignore : List String) (root : DiskPath) :
    Nat → DiskPath → List (DiskPath × ByteArray)
  | 0, _ => []
  | depth + 1, path =>
    match disk.file? (root ++ path) with
    | some bytes => [(path, bytes)]
    | none =>
      let names := (disk.namesBelow (root ++ path)).filter fun name => !ignore.contains name.shown
      names.flatMap fun name => walk disk ignore root depth (path ++ [name])

/-- The texts of the files of a walk that are not too large and hold a text. -/
def textsWalked (disk : Disk) (options : LoadOptions) (root : DiskPath) (depth : Nat) :
    List (ProjectPath × String) :=
  ((disk.walk options.ignore root depth []).filter fun file =>
    file.2.size ≤ options.maxFileBytes).filterMap fun file =>
      (String.fromUTF8? file.2).map fun text => (file.1.shown, text)

/-- The file at a path below the root is one to load: no name on the way there is ignored, it is not
too large, and its bytes are those of the text. -/
def Loads (disk : Disk) (options : LoadOptions) (root : DiskPath) (path : ProjectPath)
    (text : String) : Prop :=
  disk.file? (root ++ path.onDisk) = some text.toUTF8 ∧ (∀ name ∈ path, name ∉ options.ignore) ∧
    text.toUTF8.size ≤ options.maxFileBytes

variable {disk : Disk} {options : LoadOptions} {ignore : List String}
  {root path other : DiskPath} {depth : Nat} {bytes : ByteArray} {text : String}

theorem mem_namesBelow {directory : DiskPath} {name : NativeText} :
    name ∈ disk.namesBelow directory ↔
      ∃ path ∈ disk.items.map (·.1), directory ++ [name] <+: path := by
  unfold namesBelow
  simp only [List.mem_dedup, List.mem_insertionSort, List.mem_filter, List.mem_flatMap,
    List.any_eq_true, List.isPrefixOf_iff_prefix, List.mem_map]
  constructor
  · rintro ⟨-, item, hitem, hp⟩
    exact ⟨item.1, ⟨item, hitem, rfl⟩, hp⟩
  · rintro ⟨_, ⟨item, hitem, rfl⟩, hp⟩
    exact ⟨⟨item, hitem, hp.subset (List.mem_append_right _ List.mem_cons_self)⟩, item, hitem, hp⟩

theorem pairwise_namesBelow (disk : Disk) (directory : DiskPath) :
    (disk.namesBelow directory).Pairwise (· < ·) := by
  have hsorted : (disk.namesBelow directory).Pairwise (· ≤ ·) :=
    (List.pairwise_insertionSort (· ≤ ·) _).sublist (List.dedup_sublist _)
  have hdistinct : (disk.namesBelow directory).Nodup := List.nodup_dedup _
  exact (hsorted.and hdistinct).imp fun h => Std.lt_of_le_of_ne h.1 h.2

-- =============================================================== walks

/-- A walk stays below where it starts. -/
theorem prefix_of_mem_walk (h : (other, bytes) ∈ disk.walk ignore root depth path) :
    path <+: other := by
  induction depth generalizing path with
  | zero => cases h
  | succ depth ih =>
      rw [walk] at h
      split at h
      · obtain ⟨rfl, -⟩ := Prod.mk.inj (List.mem_singleton.1 h)
        exact List.prefix_refl _
      · obtain ⟨name, -, hname⟩ := List.mem_flatMap.1 h
        exact (List.prefix_append path [name]).trans (ih hname)

/-- A walk comes to files in the order of their paths. -/
theorem ascending_walk (disk : Disk) (ignore : List String) (root : DiskPath) (depth : Nat)
    (path : DiskPath) : ((disk.walk ignore root depth path).map (·.1)).Pairwise (· < ·) := by
  induction depth generalizing path with
  | zero => exact .nil
  | succ depth ih =>
      rw [walk]
      split
      · exact List.pairwise_singleton _ _
      · rw [List.pairwise_map]
        refine List.pairwise_flatMap.2 ⟨fun name _ => List.pairwise_map.1 (ih _), ?_⟩
        refine ((disk.pairwise_namesBelow _).filter _).imp ?_
        intro first second hlt file hfile later hlater
        exact lt_of_names (prefix_of_mem_walk hfile) (prefix_of_mem_walk hlater) hlt

/-- Nothing lies below a file. -/
theorem Tree.eq_nil_of_file? (h : disk.Tree) {found : ByteArray}
    (hfound : disk.file? path = some found) (hfile : disk.file? (path ++ other) = some bytes) :
    other = [] := by
  have hsame := h.apart _ _ hfound _ (mem_of_file? hfile) (List.prefix_append _ _)
  exact List.append_right_eq_self.1 hsame

/-- A walk comes to the files below where it starts to which no ignored name leads. -/
theorem Tree.mem_walk (h : disk.Tree)
    (deep : ∀ item ∈ disk.items.map (·.1), item.length < (root ++ path).length + depth) :
    (other, bytes) ∈ disk.walk ignore root depth path ↔ ∃ rest : DiskPath, other = path ++ rest ∧
      disk.file? (root ++ other) = some bytes ∧ ∀ name ∈ rest, name.shown ∉ ignore := by
  induction depth generalizing path with
  | zero =>
      refine iff_of_false (fun hmem => by cases hmem) ?_
      rintro ⟨rest, rfl, hfile, -⟩
      have hlt := deep _ (mem_of_file? hfile)
      rw [← List.append_assoc, List.length_append] at hlt
      omega
  | succ depth ih =>
      rw [walk]
      cases hhere : disk.file? (root ++ path) with
      | some found =>
          dsimp only
          rw [List.mem_singleton]
          constructor
          · rintro ⟨rfl, rfl⟩
            exact ⟨[], (List.append_nil _).symm, hhere, fun _ hn => (List.not_mem_nil hn).elim⟩
          · rintro ⟨rest, rfl, hfile, -⟩
            rw [← List.append_assoc] at hfile
            obtain rfl := h.eq_nil_of_file? hhere hfile
            rw [List.append_nil, hhere] at hfile
            rw [List.append_nil, Option.some.inj hfile]
      | none =>
          have hdeep : ∀ name, ∀ item ∈ disk.items.map (·.1),
              item.length < (root ++ (path ++ [name])).length + depth := by
            intro name item hi
            have hlt := deep item hi
            simp only [List.length_append, List.length_singleton] at hlt ⊢
            omega
          have hentered : ∀ name : NativeText,
              name ∈ (disk.namesBelow (root ++ path)).filter
                  (fun name => !ignore.contains name.shown) ↔
                name ∈ disk.namesBelow (root ++ path) ∧ name.shown ∉ ignore := by
            intro name
            rw [List.mem_filter, Bool.not_eq_true', ← Bool.not_eq_true, List.contains_iff_mem]
          dsimp only
          rw [List.mem_flatMap]
          constructor
          · rintro ⟨name, hname, hmem⟩
            obtain ⟨rest, rfl, hfile, hrest⟩ := (ih (hdeep name)).1 hmem
            exact ⟨name :: rest, List.append_assoc _ _ _, hfile,
              List.forall_mem_cons.2 ⟨((hentered name).1 hname).2, hrest⟩⟩
          · rintro ⟨rest, rfl, hfile, hrest⟩
            cases rest with
            | nil =>
                rw [List.append_nil, hhere] at hfile
                cases hfile
            | cons name rest =>
                obtain ⟨hname, hrest⟩ := List.forall_mem_cons.1 hrest
                have hbelow : name ∈ disk.namesBelow (root ++ path) := by
                  refine mem_namesBelow.2 ⟨_, mem_of_file? hfile, rest, ?_⟩
                  simp only [List.append_assoc, List.singleton_append]
                exact ⟨name, (hentered name).2 ⟨hbelow, hname⟩,
                  (ih (hdeep name)).2 ⟨rest, List.append_cons path name rest, hfile, hrest⟩⟩

-- ================================================================ files

/-- A walk that is not cut short comes to the files below the directory to which no ignored name
leads, in their order. -/
theorem Tree.walk_eq (h : disk.Tree) (ignore : List String)
    (deep : ∀ item ∈ disk.items.map (·.1), item.length < root.length + depth) :
    disk.walk ignore root depth [] = (disk.filesBelow root).filter fun file =>
      file.1.shown.all fun name => !ignore.contains name := by
  refine eq_of_ascending (ascending_walk disk ignore root depth []) ?_ fun file => ?_
  · exact (h.toSound.ascending_filesBelow root).sublist (List.filter_sublist.map _)
  · obtain ⟨path, bytes⟩ := file
    rw [h.mem_walk (by rwa [List.append_nil]), List.mem_filter, h.toSound.mem_filesBelow]
    simp only [List.nil_append, exists_eq_left', List.all_eq_true, Bool.not_eq_true',
      ← Bool.not_eq_true, List.contains_iff_mem, DiskPath.shown, List.forall_mem_map]

/-- The texts of such a walk are those to load. -/
theorem Tree.textsWalked_eq (h : disk.Tree) (options : LoadOptions)
    (deep : ∀ item ∈ disk.items.map (·.1), item.length < root.length + depth) :
    disk.textsWalked options root depth = Project.textsBelow disk options root := by
  unfold textsWalked Project.textsBelow LoadOptions.admits
  rw [h.walk_eq options.ignore deep, List.filter_filter]
  simp only [Bool.and_comm]

section

variable {path : ProjectPath}

/-- The path of a file to load is read from what is written for it. -/
theorem Loads.parse?_write (h : disk.Tree) (hdirectory : disk.file? root = none)
    (hloads : disk.Loads options root path text) :
    ProjectPath.parse? (ProjectPath.write path) = some path := by
  have hitem : root ++ path.onDisk ∈ disk.items.map (·.1) := Disk.mem_of_file? hloads.1
  refine ProjectPath.Legible.parse?_write ?_ (fun hnil => ?_) fun name hn => ?_
  · rw [← path.shown_onDisk]
    exact DiskPath.legible_shown fun name hn =>
      h.legible _ hitem name (List.mem_append_right _ hn)
  · -- the directory itself is no file
    have hroot := hloads.1
    rw [hnil, show ProjectPath.onDisk [] = [] from rfl, List.append_nil, hdirectory] at hroot
    cases hroot
  · have hmem : NativeText.ofString name ∈ root ++ path.onDisk :=
      List.mem_append_right _ (List.mem_map_of_mem hn)
    exact ProjectPath.isName_of_ofString (h.legible _ hitem _ hmem).1 (h.named _ hitem _ hmem)

/-- No file to load stands on the way to another one. -/
theorem Loads.apart (h : disk.Tree) (hloads : disk.Loads options root path text)
    {other : ProjectPath} {otherText : String}
    (hother : disk.Loads options root other otherText) (hne : path ≠ other) :
    ¬ path <+: other := by
  rintro ⟨rest, rfl⟩
  have hbelow := hother.1
  rw [ProjectPath.onDisk_append, ← List.append_assoc] at hbelow
  have hnil := List.map_eq_nil_iff.1 (h.eq_nil_of_file? hloads.1 hbelow)
  exact hne (by rw [hnil, List.append_nil])

end

end Disk

namespace Project

variable {disk : Disk} {options : LoadOptions} {root : DiskPath} {path : ProjectPath}
  {text : String}

theorem mem_textsBelow_iff_loads (h : disk.Sound) (htext : disk.TextBelow root) :
    (path, text) ∈ textsBelow disk options root ↔ disk.Loads options root path text := by
  rw [mem_textsBelow h, Disk.Loads, ← htext.exists_onDisk_iff]
  unfold LoadOptions.admits
  simp only [Bool.and_eq_true, List.all_eq_true, Bool.not_eq_true', ← Bool.not_eq_true,
    List.contains_iff_mem, decide_eq_true_eq]
  constructor
  · rintro ⟨names, hnames, hfile, hadmits⟩
    exact ⟨⟨names, hnames, hfile⟩, hadmits⟩
  · rintro ⟨⟨names, hnames, hfile⟩, hadmits⟩
    exact ⟨names, hnames, hfile, hadmits⟩

/-- No two files that are loaded stand at one path. -/
theorem nodup_textsBelow (h : disk.Sound) (htext : disk.TextBelow root) (options : LoadOptions) :
    ((textsBelow disk options root).map (·.1)).Nodup := by
  have hfiles : (disk.filesBelow root).Pairwise fun file other => file.1.shown ≠ other.1.shown := by
    have hdistinct := List.pairwise_map.1 (nodup_keys_of_ascending (h.ascending_filesBelow root))
    refine hdistinct.imp_of_mem fun {file other} hm ho hne he => hne ?_
    have hnames : ∀ file ∈ disk.filesBelow root, file.1.shown.onDisk = file.1 := fun file hm =>
      DiskPath.onDisk_shown (htext _ (Disk.mem_of_file? (h.mem_filesBelow.1 hm)))
    rw [← hnames file hm, he, hnames other ho]
  refine List.pairwise_map.2 (List.pairwise_filterMap.2 ((hfiles.filter _).imp ?_))
  rintro file other hne _ hfile _ hother he
  obtain ⟨text, -, rfl⟩ := Option.map_eq_some_iff.1 hfile
  obtain ⟨otherText, -, rfl⟩ := Option.map_eq_some_iff.1 hother
  exact hne he

/-- The texts to load can be added in any order, none is refused, and there is nothing else in the
project then. -/
theorem exists_addAll (h : disk.Tree) (hdirectory : disk.file? root = none) (name : String)
    {files : List (ProjectPath × String)} (distinct : (files.map (·.1)).Nodup)
    (hfiles : ∀ path text, (path, text) ∈ files ↔ disk.Loads options root path text) :
    ∃ project, (empty name).addAll files = .ok project ∧ project.name = name ∧
      ∀ path document, project.document? path = some document ↔ ∃ text,
        document = { path := ProjectPath.write path, content := text } ∧
          disk.Loads options root path text := by
  have hloads : ∀ file ∈ files, disk.Loads options root file.1 file.2 :=
    fun file hm => (hfiles file.1 file.2).1 hm
  have hfree : files.Pairwise fun file other =>
      ProjectPath.conflicts file.1 other.1 = false := by
    refine (List.pairwise_map.1 distinct).imp_of_mem fun {file other} hm ho hne => ?_
    exact ProjectPath.conflicts_eq_false_iff.2
      ⟨(hloads file hm).apart h (hloads other ho) hne,
        (hloads other ho).apart h (hloads file hm) (Ne.symm hne)⟩
  obtain ⟨project, hadd, hname, hmem⟩ :=
    @addAll_eq_ok (empty name) files (fun file hm => (hloads file hm).parse?_write h hdirectory)
      hfree fun entry he => by cases he
  refine ⟨project, hadd, hname, fun path document => ?_⟩
  rw [← mem_files_iff, hmem]
  constructor
  · rintro (he | ⟨file, hm, he⟩)
    · cases he
    · obtain ⟨rfl, rfl⟩ := Prod.mk.inj he
      exact ⟨file.2, rfl, hloads _ hm⟩
  · rintro ⟨text, rfl, hload⟩
    exact .inr ⟨(path, text), (hfiles _ _).2 hload, rfl⟩

end Project

-- ========================================================= directories

namespace Snapshot

open Query (Below)

variable {S : Snapshot grammars} {path : ProjectPath} {place : Place}

/-- The root and the directories on the way to a file lie below the root. -/
theorem below_directory (arranged : ProjectPath.Arranged (S.texts.map (·.1)))
    (way : path = [] ∨ ∃ file ∈ S.texts.map (·.1), path <+: file ∧ path ≠ file) :
    Below S.forest (.directory []) (.directory path) := by
  induction path using List.reverseRecOn with
  | nil => exact .self
  | append_singleton above name ih =>
      obtain ⟨file, hm, hp, hne⟩ := way.resolve_left (by simp)
      have habove : above <+: file ∧ above ≠ file := by
        refine ⟨(List.prefix_append _ _).trans hp, ?_⟩
        rintro rfl
        simpa using hp.length_le
      have hentry : S.entry above name = .directory (above ++ [name]) := by
        rw [S.entry_eq, if_neg fun hfile => arranged.not_prefix hfile hm hne hp]
      refine (ih (.inr ⟨file, hm, habove⟩)).child (List.mem_map.2 ⟨name, ?_, hentry⟩)
      exact S.mem_namesBelow.2 ⟨file, hm, hp⟩

/-- The places of a tree are its files, the root and the directories on the way to a file. -/
theorem below_root_iff (arranged : ProjectPath.Arranged (S.texts.map (·.1))) :
    Below S.forest (.directory []) place ↔
      (∃ path ∈ S.texts.map (·.1), place = .file path) ∨ ∃ path, place = .directory path ∧
        (path = [] ∨ ∃ file ∈ S.texts.map (·.1), path <+: file ∧ path ≠ file) := by
  constructor
  · intro hbelow
    induction hbelow with
    | self => exact .inr ⟨[], rfl, .inl rfl⟩
    | child _ hc ih =>
        rcases ih with ⟨file, -, rfl⟩ | ⟨directory, rfl, -⟩
        · cases hc
        · obtain ⟨name, hn, rfl⟩ := List.mem_map.1 hc
          obtain ⟨file, hm, hp⟩ := S.mem_namesBelow.1 hn
          rw [S.entry_eq]
          split
          · rename_i hfile
            exact .inl ⟨_, hfile, rfl⟩
          · rename_i hno
            exact .inr ⟨_, rfl, .inr ⟨file, hm, hp, fun he => hno (he ▸ hm)⟩⟩
  · rintro (⟨path, hm, rfl⟩ | ⟨path, rfl, way⟩)
    · obtain ⟨above, name, rfl⟩ :=
        (List.eq_nil_or_concat path).resolve_left (arranged.named _ hm).1
      rw [List.concat_eq_append] at hm ⊢
      have hentry : S.entry above name = .file (above ++ [name]) := by
        rw [S.entry_eq, if_pos hm]
      have habove := below_directory arranged
        (.inr ⟨above ++ [name], hm, List.prefix_append _ _, by simp⟩)
      have hname : name ∈ S.namesBelow above :=
        S.mem_namesBelow.2 ⟨_, hm, List.prefix_refl _⟩
      exact habove.child (List.mem_map.2 ⟨name, hname, hentry⟩)
    · exact below_directory arranged way

end Snapshot

/-- The nodes of the tree of a workspace are the files of its project, the root and the directories
on the way to a file. -/
theorem Workspace.mem_descendantsOrSelf_root (w : Workspace grammars) {node : Node} :
    node ∈ ((Workspace.forest grammars).descendantsOrSelf (.directory []) w).1 ↔
      (∃ path ∈ w.project.paths, node = .file path) ∨ ∃ path, node = .directory path ∧
        (path = [] ∨ ∃ file ∈ w.project.paths, path <+: file ∧ path ≠ file) := by
  have hplain : List.Forall₂ (Act.Plain w.snapshot w)
      ((Workspace.forest grammars).descendantsOrSelf (.directory []) w).1
      (Query.preorder w.snapshot.forest (.directory [])) :=
    (Query.Comparison.alike_descendantsOrSelf (Act.forests_settled w.snapshot)
      (.directory [] rfl)).2
  have hunique : Relator.LeftUnique (Act.Plain w.snapshot w) := by
    rintro node place other (⟨path, -⟩ | ⟨path, -⟩) hother <;> cases hother <;> rfl
  rw [mem_iff_of_forall₂ hunique hplain, ← w.paths_snapshot]
  simp only [w.snapshot.founded.mem_preorder_iff,
    Snapshot.below_root_iff w.arranged_snapshot]
  constructor
  · rintro ⟨place, hplace, hnode⟩
    rcases hplace with ⟨path, hm, rfl⟩ | ⟨path, rfl, way⟩
    · cases hnode
      exact .inl ⟨path, hm, rfl⟩
    · cases hnode
      exact .inr ⟨path, rfl, way⟩
  · rintro (⟨path, hm, rfl⟩ | ⟨path, rfl, way⟩)
    · exact ⟨.file path, .inl ⟨path, hm, rfl⟩, .file path rfl⟩
    · exact ⟨.directory path, .inr ⟨path, rfl, way⟩, .directory path rfl⟩

-- =============================================================== loading

/-- A directory of a tree of files and directories can be loaded, whatever is to be left out. The
project has its name, and its files are those to which no ignored name leads and that are not too
large and hold a text, each with its text, and none changed since. The same project comes from the
texts that a walk through the directory comes to, in any order. In its tree there are these files,
the root and the directories on the way to one of them, and nothing else. -/
theorem Project.load_tree {disk : Disk} (h : disk.Tree) {directory : NativeText} {root : DiskPath}
    (hroot : disk.resolve directory = .ok root) (hdirectory : disk.file? root = none)
    (htext : disk.TextBelow root) (options : LoadOptions) :
    ∃ project, load disk options directory = .ok project ∧
      project.name = ((Disk.lastName? directory).map NativeText.shown).getD defaultName ∧
      (∀ path document, project.document? path = some document ↔ ∃ text,
        document = { path := ProjectPath.write path, content := text } ∧
          disk.Loads options root path text) ∧
      project.dirtyFiles = [] ∧
      (∀ depth, (∀ item ∈ disk.items.map (·.1), item.length < root.length + depth) →
        ∀ files, files.Perm (disk.textsWalked options root depth) →
          (empty project.name).addAll files = .ok project) ∧
      ∀ (grammars : Grammars) (w : Workspace grammars), w.project = project → ∀ node,
        node ∈ ((Workspace.forest grammars).descendantsOrSelf (.directory []) w).1 ↔
          (∃ path, (∃ text, disk.Loads options root path text) ∧ node = .file path) ∨
          ∃ path, node = .directory path ∧ (path = [] ∨
            ∃ file, (∃ text, disk.Loads options root file text) ∧ path <+: file ∧ path ≠ file) := by
  have hdistinct := nodup_textsBelow h.toSound htext options
  obtain ⟨project, hadd, hname, hdocument⟩ := exists_addAll h hdirectory
    (((Disk.lastName? directory).map NativeText.shown).getD defaultName) hdistinct
    fun path text => mem_textsBelow_iff_loads h.toSound htext
  have hpaths : ∀ path, path ∈ project.paths ↔ ∃ text, disk.Loads options root path text := by
    intro path
    rw [mem_paths_iff]
    constructor
    · rintro ⟨document, hd⟩
      obtain ⟨text, -, hloads⟩ := (hdocument path document).1 hd
      exact ⟨text, hloads⟩
    · rintro ⟨text, hloads⟩
      exact ⟨_, (hdocument path _).2 ⟨text, rfl, hloads⟩⟩
  refine ⟨project, ?_, hname, hdocument, ?_, fun depth deep files order => ?_, ?_⟩
  · unfold load
    rw [hroot]
    dsimp only
    rw [hadd]
    rfl
  · refine List.map_eq_nil_iff.2 (List.filter_eq_nil_iff.2 fun entry he hdirty => ?_)
    obtain ⟨text, hd, -⟩ := (hdocument entry.1 entry.2).1 (mem_files_iff.1 he)
    rw [hd] at hdirty
    cases hdirty
  · rw [h.textsWalked_eq options deep] at order
    obtain ⟨other, hother, hothername, hotherdocument⟩ := exists_addAll h hdirectory
      project.name ((order.map _).nodup_iff.2 hdistinct)
      fun path text => order.mem_iff.trans (mem_textsBelow_iff_loads h.toSound htext)
    rw [hother]
    refine congrArg Except.ok (eq_of_files hothername ?_)
    refine eq_of_lookup other.arranged.ascending project.arranged.ascending fun path => ?_
    exact Option.ext fun document =>
      (hotherdocument path document).trans (hdocument path document).symm
  · rintro grammars w rfl node
    rw [w.mem_descendantsOrSelf_root]
    simp only [hpaths]

/-- A disk with a directory of an ignored name, in which there is a file of each kind. -/
def Disk.mixed : Disk where
  items := [
    (ProjectPath.onDisk ["target", "a.txt"], .file "a".toUTF8),
    (ProjectPath.onDisk ["target", "src", "b.txt"], .file "b".toUTF8),
    (ProjectPath.onDisk ["target", "src", "target", "c.txt"], .file "c".toUTF8),
    (ProjectPath.onDisk ["target", "large.txt"], .file "large".toUTF8),
    (ProjectPath.onDisk ["target", "other", "blob"], .file ⟨#[0xff]⟩),
    (ProjectPath.onDisk ["target", "empty"], .directory)]

theorem Disk.tree_mixed : Disk.mixed.Tree := by
  have hsound : Disk.mixed.Sound := ⟨by decide, by decide⟩
  have hapart : ∀ path ∈ Disk.mixed.items.map (·.1), ∀ other ∈ Disk.mixed.items.map (·.1),
      path <+: other → other = path := by decide
  exact ⟨hsound, by decide, fun path bytes hfile other ho hp =>
    hapart path (mem_of_file? hfile) other ho hp⟩

theorem Disk.textBelow_mixed (root : DiskPath) : Disk.mixed.TextBelow root := by
  have hitems : ∀ path ∈ Disk.mixed.items.map (·.1), ∀ name ∈ path, name.IsText := by decide
  exact fun path hm name hn => hitems _ hm name (List.mem_append_right _ hn)

/-- What is ignored, too large or no text is left out. -/
theorem Disk.loads_mixed {path : ProjectPath} {text : String} :
    Disk.mixed.Loads ⟨["target"], 4⟩ (ProjectPath.onDisk ["target"]) path text ↔
      path = ["a.txt"] ∧ text = "a" ∨ path = ["src", "b.txt"] ∧ text = "b" := by
  constructor
  · rintro ⟨hfile, hignore, hsize⟩
    have hitem := Disk.tree_mixed.file?_eq_some_iff.1 hfile
    rw [← ProjectPath.onDisk_append] at hitem
    simp only [mixed, ProjectPath.onDisk_inj, List.cons_append, List.nil_append, List.mem_cons,
      Prod.mk.injEq, List.cons.injEq, true_and, DiskItem.file.injEq, reduceCtorEq, and_false,
      List.not_mem_nil, or_false] at hitem
    rcases hitem with ⟨rfl, ht⟩ | ⟨rfl, ht⟩ | ⟨rfl, -⟩ | ⟨rfl, ht⟩ | ⟨rfl, ht⟩
    · exact .inl ⟨rfl, String.toByteArray_inj.1 ht⟩
    · exact .inr ⟨rfl, String.toByteArray_inj.1 ht⟩
    · exact absurd List.mem_cons_self (hignore "target" (by decide))
    · rw [ht] at hsize
      exact absurd hsize (by decide)
    · have hbytes := fromUTF8?_eq_some_iff.2 ht.symm
      rw [show String.fromUTF8? ⟨#[0xff]⟩ = none by decide] at hbytes
      cases hbytes
  · rintro (⟨rfl, rfl⟩ | ⟨rfl, rfl⟩)
    · exact ⟨by rfl, by decide, by decide⟩
    · exact ⟨by rfl, by decide, by decide⟩

/-- The directory is loaded under its ignored name. Its files are the two that are not left out, and
the directories in which nothing was loaded are not in its tree. -/
theorem Project.load_tree_mixed :
    ∃ project, load Disk.mixed ⟨["target"], 4⟩ (.ofString "target") = .ok project ∧
      project.name = "target" ∧
      project.document? ["src", "b.txt"] = some { path := "src/b.txt", content := "b" } ∧
      project.document? ["src", "target", "c.txt"] = none ∧
      project.document? ["large.txt"] = none ∧
      Node.directory ["src"] ∈ ((Workspace.forest Session.blind).descendantsOrSelf (.directory [])
        { project }).1 ∧
      Node.directory ["other"] ∉ ((Workspace.forest Session.blind).descendantsOrSelf (.directory [])
        { project }).1 := by
  have hroot : Disk.mixed.resolve (.ofString "target") = .ok (ProjectPath.onDisk ["target"]) := by
    decide +kernel
  obtain ⟨project, hload, hname, hdocument, -, -, htree⟩ :=
    Project.load_tree Disk.tree_mixed hroot rfl (Disk.textBelow_mixed _) ⟨["target"], 4⟩
  have hnone : ∀ path, (∀ text,
      ¬ Disk.mixed.Loads ⟨["target"], 4⟩ (ProjectPath.onDisk ["target"]) path text) →
      project.document? path = none := by
    intro path hno
    refine Option.eq_none_iff_forall_ne_some.2 fun document hd => ?_
    obtain ⟨text, -, hloads⟩ := (hdocument path document).1 hd
    exact hno text hloads
  have hnodes := htree Session.blind { project } rfl
  refine ⟨project, hload, hname.trans (by decide +kernel),
    (hdocument _ _).2 ⟨"b", by decide +kernel, Disk.loads_mixed.2 (.inr ⟨rfl, rfl⟩)⟩,
    hnone _ fun text => ?_, hnone _ fun text => ?_, ?_, ?_⟩
  · rw [Disk.loads_mixed]
    simp
  · rw [Disk.loads_mixed]
    simp
  · exact (hnodes _).2 (.inr ⟨["src"], rfl, .inr ⟨["src", "b.txt"],
      ⟨"b", Disk.loads_mixed.2 (.inr ⟨rfl, rfl⟩)⟩, by decide, by decide⟩⟩)
  · rw [hnodes]
    simp only [Disk.loads_mixed]
    rintro (⟨path, -, he⟩ | ⟨path, he, way⟩)
    · cases he
    · obtain rfl := Node.directory.inj he
      rcases way with he | ⟨file, ⟨text, hloads⟩, hp, -⟩
      · cases he
      · rcases hloads with ⟨rfl, -⟩ | ⟨rfl, -⟩
        · exact absurd hp (by decide)
        · exact absurd hp (by decide)

end TreeQuery
