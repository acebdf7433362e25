/-
Climbing from a node to its parent, and on to the root of the project.

# Upwards

Every node but the root knows its parent, and the parent's address ends within the node's own. So
does that of the file, which stands in for the parent of a node in a view once that is gone. With
every step the depth of a node becomes less, although the project may have changed as often as you
like since the node was found: a step depends on the node, and on the view only for which of two
nodes above is taken. So the climb ends, and ends at the root (`climbs_ancestors`), and no address
comes twice on the way (`Climbs.chain`).

# Upwards and downwards

Where directories, files and members of views are there, the way up is the way down reversed
(`Linked`). The children of a node in a view are new nodes, and so is its parent; what they agree
in is their place.
-/
import TreeQuery.Proofs.View.Locations
import TreeQuery.Proofs.Workspace.Records

namespace TreeQuery

variable {grammars : Grammars}

-- =========================================================== addresses

/-- The address of a node goes on where that of another ends. -/
def Node.Under (node above : Node) : Prop :=
  ∃ rest, rest ≠ "" ∧ node.address = above.address ++ rest

theorem Node.Under.trans {node above top : Node} (h : node.Under above) (h' : above.Under top) :
    node.Under top := by
  obtain ⟨rest, -, hrest⟩ := h
  obtain ⟨more, hmore, habove⟩ := h'
  refine ⟨more ++ rest, fun he => hmore (String.append_eq_empty_iff.1 he).1, ?_⟩
  rw [hrest, habove, String.append_assoc]

theorem Node.Under.address_ne {node above : Node} (h : node.Under above) :
    node.address ≠ above.address := by
  obtain ⟨rest, hne, hrest⟩ := h
  intro he
  rw [hrest] at he
  exact hne (String.append_eq_left_iff.1 he)

theorem slash_append_ne (rest : String) : "/" ++ rest ≠ "" := fun he =>
  absurd (String.append_eq_empty_iff.1 he).1 (by decide)

/-- The address of an entry goes on where that of its directory ends. -/
theorem ProjectPath.address_concat (directory : ProjectPath) {name : String} (h : name ≠ "") :
    ∃ rest, rest ≠ "" ∧ address (directory ++ [name]) = address directory ++ rest := by
  unfold address write
  by_cases hd : directory = []
  · refine ⟨name, h, ?_⟩
    rw [hd, List.nil_append, String.intercalate_singleton, String.intercalate_nil,
      String.append_empty]
  · refine ⟨"/" ++ name, slash_append_ne name, ?_⟩
    rw [String.intercalate_append_of_ne_nil hd (List.cons_ne_nil _ _),
      String.intercalate_singleton]
    simp only [String.append_assoc]

/-- The address of a location goes on where that of the root ends. -/
theorem Location.exists_address (root : String) (location : Location) :
    ∃ rest, location.address root = root ++ rest := by
  refine ⟨String.ofList (location.flatMap Segment.write), ?_⟩
  unfold address
  rw [String.ofList_append, String.ofList_toList]

theorem Location.address_concat (root : String) (location : Location) (segment : Segment) :
    ∃ rest, rest ≠ "" ∧
      Location.address root (location ++ [segment]) = location.address root ++ rest := by
  refine ⟨String.ofList segment.write, fun he => ?_, ?_⟩
  · have hnil : segment.write = [] := String.ofList_injective he
    cases hnil
  · unfold address
    rw [List.flatMap_append, List.flatMap_singleton, ← List.append_assoc, String.ofList_append]

/-- What stands in a view of a file is under the file. -/
theorem MemberNode.under_file (node : MemberNode) : (Node.text (.member node)).Under
    (.file node.file) := by
  obtain ⟨rest, hrest⟩ :=
    Location.exists_address (viewAddress node.file node.language) node.location
  refine ⟨"/" ++ (node.language.viewType ++ "()" ++ rest), slash_append_ne _, ?_⟩
  show Location.address (viewAddress node.file node.language) node.location = _
  rw [hrest]
  unfold viewAddress
  simp only [String.append_assoc]
  rfl

theorem under_context (handle : Handle) (grammar : Microgrammar) (context : TextNode)
    (index : Nat) (born : Occurrence) :
    (Node.text (.occurrence handle grammar context index born)).Under (.text context) := by
  refine ⟨_, slash_append_ne (grammar.name ++ ("()" ++
    if index = 0 then "" else "[" ++ toString index ++ "]")), ?_⟩
  show TextNode.occurrenceAddress context.address grammar index = context.address ++ _
  unfold TextNode.occurrenceAddress
  simp only [String.append_assoc]

theorem under_occurrence (handle : Handle) (grammar : Microgrammar) (context : TextNode)
    (index : Nat) (born : Occurrence) (name : String) :
    (Node.text (.binding handle grammar context index born name)).Under
      (.text (.occurrence handle grammar context index born)) :=
  ⟨_, slash_append_ne name, String.append_assoc⟩

namespace Workspace

variable {w : Workspace grammars}

/-- The path of a file is made of names. -/
theorem named_file {path : ProjectPath} (h : (w.project.document? path).isSome) :
    path ≠ [] ∧ ∀ name ∈ path, name ≠ "" := by
  obtain ⟨document, hd⟩ := Option.isSome_iff_exists.1 h
  obtain ⟨hne, hnames⟩ := w.project.arranged.named path (Project.mem_paths_iff.2 ⟨document, hd⟩)
  refine ⟨hne, fun name hn he => ?_⟩
  have hname := hnames name hn
  rw [he] at hname
  exact absurd hname (by decide)

/-- And so is that of a directory. -/
theorem HasFolder.named {path : ProjectPath} (h : w.HasFolder path) : ∀ name ∈ path, name ≠ "" := by
  rcases h with rfl | ⟨file, hf, hp, -⟩
  · exact fun name hn => by cases hn
  · exact fun name hn => (named_file hf).2 name (hp.subset hn)

end Workspace

-- ============================================================= parents

namespace Act

open Record

variable {law : Law grammars} {r : Record grammars} {w : Workspace grammars} {node : Node}

theorem parent?_text (node : TextNode) (w : Workspace grammars) :
    parent? (.text node) w = (some (textParent node w).1, (textParent node w).2) := rfl

theorem parent?_directory (directory : ProjectPath) (name : String) (w : Workspace grammars) :
    parent? (.directory (directory ++ [name])) w = (some (.directory directory), w) := by
  unfold parent?
  simp only
  rw [if_neg (by simp), List.dropLast_concat]
  rfl

theorem parent?_file (directory : ProjectPath) (name : String) (w : Workspace grammars) :
    parent? (.file (directory ++ [name])) w = (some (.directory directory), w) := by
  show (some (Node.directory (directory ++ [name]).dropLast), w) = _
  rw [List.dropLast_concat]

theorem textParent_viewRoot {root : MemberNode} (h : root.location = []) (w : Workspace grammars) :
    textParent (.member root) w = (.file root.file, w) := by
  unfold textParent
  simp only
  rw [if_pos (by rw [h]; rfl)]
  rfl

/-- Above a node below the root of a view is a new one for the member above, or the file. -/
theorem textParent_member {node : MemberNode} {above : Location} {segment : Segment}
    (h : node.location = above ++ [segment]) (w : Workspace grammars) :
    textParent (.member node) w =
      (match (w.view node.file node.language).at? above with
        | some tree => do
          return .text (.member (← newMember node.file node.language above tree.label))
        | none => return .file node.file : Act grammars Node)
        (w.holdView node.file node.language) := by
  rw [← Workspace.view_holdView w node.file node.file node.language node.language,
    show above = node.location.dropLast by rw [h, List.dropLast_concat]]
  unfold textParent
  simp only
  rw [if_neg (by rw [h]; simp)]
  rfl

/-- A step upwards: the root knows no parent, and any other node one that is less deep and whose
address ends within the node's. -/
theorem parent?_of_knows (hn : r.Knows node) :
    (node = .directory [] ∧ parent? node r.workspace = (none, r.workspace)) ∨
      ∃ above v, parent? node r.workspace = (some above, v) ∧ above.depth < node.depth ∧
        node.Under above := by
  cases node with
  | detached tree => exact hn.elim
  | directory path =>
      rcases List.eq_nil_or_concat' path with rfl | ⟨directory, name, rfl⟩
      · exact .inl ⟨rfl, rfl⟩
      · have hname := Workspace.HasFolder.named hn name
          (List.mem_append_right _ List.mem_cons_self)
        refine .inr ⟨_, _, parent?_directory directory name r.workspace, ?_,
          ProjectPath.address_concat directory hname⟩
        show directory.length < (directory ++ [name]).length
        rw [List.length_append, List.length_singleton]
        exact Nat.lt_succ_self _
  | text node =>
      refine .inr ?_
      cases node with
      | file path =>
          obtain ⟨hne, hnames⟩ := Workspace.named_file hn.1.1
          obtain ⟨directory, name, rfl⟩ := (List.eq_nil_or_concat' path).resolve_left hne
          have hname := hnames name (List.mem_append_right _ List.mem_cons_self)
          refine ⟨_, _, parent?_file directory name r.workspace, ?_,
            ProjectPath.address_concat directory hname⟩
          show directory.length < (directory ++ [name]).length
          rw [List.length_append, List.length_singleton]
          exact Nat.lt_succ_self _
      | occurrence handle grammar context index born =>
          exact ⟨_, _, rfl, Nat.lt_succ_self _, under_context handle grammar context index born⟩
      | binding handle grammar context index born name =>
          exact ⟨_, _, rfl, Nat.lt_succ_self _,
            under_occurrence handle grammar context index born name⟩
      | member node =>
          refine ⟨_, _, parent?_text _ r.workspace, ?_⟩
          have hfile : (Node.file node.file).depth < (Node.text (.member node)).depth := by
            show node.file.length < node.file.length + node.location.length + 1
            omega
          rcases List.eq_nil_or_concat' node.location with hroot | ⟨above, segment, hlocation⟩
          · rw [textParent_viewRoot hroot]
            exact ⟨hfile, node.under_file⟩
          · rw [textParent_member hlocation]
            cases (r.workspace.view node.file node.language).at? above with
            | none => exact ⟨hfile, node.under_file⟩
            | some tree =>
                obtain ⟨rest, hne, hrest⟩ := Location.address_concat
                  (viewAddress node.file node.language) above segment
                refine ⟨?_, rest, hne, ?_⟩
                · show node.file.length + above.length + 1 <
                    node.file.length + node.location.length + 1
                  rw [hlocation, List.length_append, List.length_singleton]
                  omega
                · show Location.address _ node.location = _
                  rw [hlocation, hrest]
                  rfl

-- =============================================================== climbs

/-- Climbing from node to node until one knows no parent. Nothing bounds how often. -/
inductive Climbs : Workspace grammars → Node → List Node → Workspace grammars → Prop
  | top {w later : Workspace grammars} {node : Node} :
      parent? node w = (none, later) → Climbs w node [] later
  | up {w v later : Workspace grammars} {node above : Node} {nodes : List Node} :
      parent? node w = (some above, v) → Climbs v above nodes later →
      Climbs w node (above :: nodes) later

/-- With fuel for its depth a node climbs to the end. -/
theorem climbs_ancestorsWithin {fuel : Nat} (hr : r.Kept law) (hn : r.Knows node)
    (enough : node.depth ≤ fuel) :
    Climbs r.workspace node (ancestorsWithin fuel node r.workspace).1
      (ancestorsWithin fuel node r.workspace).2 := by
  induction fuel generalizing r node with
  | zero =>
      rcases parent?_of_knows hn with ⟨-, hnone⟩ | ⟨above, v, -, hdepth, -⟩
      · exact .top hnone
      · exact absurd (Nat.lt_of_lt_of_le hdepth enough) (Nat.not_lt_zero _)
  | succ fuel ih =>
      have hrun : ancestorsWithin (fuel + 1) node r.workspace =
          match parent? node r.workspace with
          | (none, v) => ([], v)
          | (some above, v) =>
            (above :: (ancestorsWithin fuel above v).1, (ancestorsWithin fuel above v).2) := by
        rw [ancestorsWithin, bind_apply]
        generalize parent? node r.workspace = result
        obtain ⟨found, v⟩ := result
        cases found with
        | none => rfl
        | some above => rfl
      rw [hrun]
      rcases parent?_of_knows hn with ⟨-, hnone⟩ | ⟨above, v, hsome, hdepth, -⟩
      · rw [hnone]
        exact .top hnone
      · obtain ⟨s, hs, -, -, hkept, hknows⟩ := lawful_parent? hn hr
        rw [hsome] at hs hknows ⊢
        obtain rfl : s.workspace = v := hs
        exact .up hsome (ih hkept (hknows above rfl) (by omega))

/-- So the ancestors of a node are those that it climbs to. -/
theorem climbs_ancestors (hr : r.Kept law) (hn : r.Knows node) :
    Climbs r.workspace node (ancestors node r.workspace).1 (ancestors node r.workspace).2 :=
  climbs_ancestorsWithin hr hn (Nat.le_refl node.depth)

/-- Every step of a climb leads to a parent, and the last one to the root. -/
theorem Climbs.chain {nodes : List Node} {later : Workspace grammars}
    (h : Climbs w node nodes later) (hr : r.Kept law) (hw : r.workspace = w) (hn : r.Knows node) :
    (node :: nodes).IsChain Node.Under ∧ (node :: nodes).getLast? = some (.directory []) := by
  induction h generalizing r with
  | top hnone =>
      subst hw
      rcases parent?_of_knows hn with ⟨rfl, -⟩ | ⟨above, v, hsome, -⟩
      · exact ⟨.singleton _, rfl⟩
      · rw [hsome] at hnone
        cases hnone
  | @up w v later node above nodes hsome _ ih =>
      subst hw
      rcases parent?_of_knows hn with ⟨-, hnone⟩ | ⟨other, u, hother, -, hunder⟩
      · rw [hsome] at hnone
        cases hnone
      · obtain ⟨rfl, rfl⟩ : above = other ∧ v = u := by
          rw [hsome] at hother
          exact ⟨Option.some.inj (Prod.mk.inj hother).1, (Prod.mk.inj hother).2⟩
        obtain ⟨s, hs, -, -, hkept, hknows⟩ := lawful_parent? hn hr
        rw [hsome] at hs hknows
        obtain ⟨hchain, hlast⟩ := ih hkept hs (hknows above rfl)
        refine ⟨.cons_cons hunder hchain, ?_⟩
        rw [List.getLast?_cons_cons]
        exact hlast

end Act

-- =============================================================== links

/-- The node and its neighbours agree on who stands above whom. Each child's parent has the node's
address, and the node's address is one of those of its parent's children; but the root of a view is
no child of its parent, the file. -/
structure Workspace.Linked (w : Workspace grammars) (node : Node) : Prop where
  below : ∀ child ∈ (Act.children node w).1, ∃ above later,
    Act.parent? child (Act.children node w).2 = (some above, later) ∧
      above.address = node.address
  above : ∀ above later, Act.parent? node w = (some above, later) →
    (∃ root : MemberNode, node = .text (.member root) ∧ root.location = [] ∧
      above = .file root.file) ∨
    node.address ∈ (Act.children above later).1.map Node.address

/-- Where a node stands in which view, if it does. -/
def Node.locus? : Node → Option (ProjectPath × Language × Location)
  | .text (.member node) => some (node.file, node.language, node.location)
  | _ => none

theorem Node.exists_of_locus? {node : Node} {file : ProjectPath} {language : Language}
    {location : Location} (h : node.locus? = some (file, language, location)) :
    ∃ member : MemberNode, node = .text (.member member) ∧ member.file = file ∧
      member.language = language ∧ member.location = location := by
  unfold locus? at h
  split at h
  · rename_i member
    simp only [Option.some.injEq, Prod.mk.injEq] at h
    exact ⟨member, rfl, h⟩
  · cases h

namespace Act

variable {law : Law grammars} {r : Record grammars} {w : Workspace grammars}

theorem map_mapM {ι α β : Type} {f : ι → Act grammars α} {g : α → β} {k : ι → β}
    (h : ∀ i w, g (f i w).1 = k i) (entries : List ι) (w : Workspace grammars) :
    (entries.mapM f w).1.map g = entries.map k := by
  induction entries generalizing w with
  | nil => rfl
  | cons i rest ih =>
      rw [List.mapM_cons, bind_apply, bind_apply]
      show g (f i w).1 :: (rest.mapM f (f i w).2).1.map g = k i :: rest.map k
      rw [h, ih]

/-- The children of a node whose member is there stand one segment below it each. -/
theorem map_locus?_memberChildren {node : MemberNode} {tree : View}
    (hresolved : w.resolve? node = some tree) :
    (memberChildren node w).1.map Node.locus? = tree.numberedChildren.map fun entry =>
      some (node.file, node.language, node.location ++ [entry.1]) := by
  rw [memberChildren_run, hresolved]
  exact map_mapM (g := Node.locus?) (k := fun entry : Segment × View =>
    some (node.file, node.language, node.location ++ [entry.1])) (fun _ _ => rfl) _ _

theorem map_locus?_children (hw : w.Coherent) {node : MemberNode} {tree : View}
    (present : (grammars.view node.language (w.content node.file)).at? node.location = some tree) :
    (children (.text (.member node)) w).1.map Node.locus? =
      tree.numberedChildren.map fun entry =>
        some (node.file, node.language, node.location ++ [entry.1]) := by
  refine map_locus?_memberChildren ?_
  unfold Workspace.resolve?
  rw [hw.view, present]

/-- An entry of a directory has the directory for its parent. -/
theorem parent?_entry (directory : ProjectPath) (name : String) (w v : Workspace grammars) :
    parent? (w.entry directory name) v = (some (.directory directory), v) := by
  unfold Workspace.entry
  simp only
  split
  · exact parent?_file directory name v
  · exact parent?_directory directory name v

/-- The entry on the way to a file is among the children of its directory. -/
theorem address_mem_children {directory file : ProjectPath} {name : String}
    (hf : (w.project.document? file).isSome) (hp : directory ++ [name] <+: file) :
    ProjectPath.address (directory ++ [name]) ∈
      (children (.directory directory) w).1.map Node.address := by
  obtain ⟨document, hd⟩ := Option.isSome_iff_exists.1 hf
  have hname : name ∈ w.project.namesBelow directory :=
    Project.mem_namesBelow.2 ⟨file, Project.mem_paths_iff.2 ⟨document, hd⟩, hp⟩
  have hentry : (w.entry directory name).address = ProjectPath.address (directory ++ [name]) := by
    unfold Workspace.entry
    simp only
    split <;> rfl
  rw [← hentry]
  exact List.mem_map_of_mem (List.mem_map_of_mem hname)

theorem linked_directory {path : ProjectPath} (hn : r.Knows (.directory path)) :
    r.workspace.Linked (.directory path) where
  below := by
    intro child hc
    obtain ⟨name, -, rfl⟩ := List.mem_map.1 hc
    exact ⟨_, _, parent?_entry path name _ _, rfl⟩
  above := by
    intro above later hparent
    rcases List.eq_nil_or_concat' path with rfl | ⟨directory, name, rfl⟩
    · cases hparent
    · rw [parent?_directory] at hparent
      cases hparent
      rcases hn with hroot | ⟨file, hf, hp, -⟩
      · cases directory <;> cases hroot
      · exact .inr (address_mem_children hf hp)

theorem linked_file {path : ProjectPath} (hn : r.Knows (.file path)) :
    r.workspace.Linked (.file path) where
  below := fun child hc => by cases hc
  above := by
    intro above later hparent
    obtain ⟨directory, name, rfl⟩ :=
      (List.eq_nil_or_concat' path).resolve_left (Workspace.named_file hn.1.1).1
    rw [parent?_file] at hparent
    cases hparent
    exact .inr (address_mem_children hn.1.1 (List.prefix_refl _))

/-- Where the view stands in later workspaces in which no text has changed. -/
theorem view_of_extends {s : Record grammars} (hrs : r.Extends s) (hs : s.workspace.Coherent)
    (file : ProjectPath) (language : Language) :
    s.workspace.view file language = grammars.view language (r.workspace.content file) := by
  rw [hs.view, Workspace.content_of_project hrs.onward.project]

theorem linked_member (hr : r.Kept law) {node : MemberNode} (hn : r.Knows (.text (.member node)))
    {part : View} (present : (grammars.view node.language
      (r.workspace.content node.file)).at? node.location = some part) :
    r.workspace.Linked (.text (.member node)) where
  below := by
    intro child hc
    obtain ⟨s, hs, -, hrs, hkept, -⟩ := lawful_children hn hr
    -- the child stands one segment below the node
    have hlocus := List.mem_map_of_mem (f := Node.locus?) hc
    rw [map_locus?_children hr.coherent present] at hlocus
    obtain ⟨⟨segment, tree⟩, -, hlocus⟩ := List.mem_map.1 hlocus
    obtain ⟨member, rfl, hfile, hlanguage, hlocation⟩ := Node.exists_of_locus? hlocus.symm
    refine ⟨_, _, parent?_text _ _, ?_⟩
    rw [textParent_member hlocation, hfile, hlanguage, ← hs,
      view_of_extends hrs hkept.coherent, present]
    rfl
  above := by
    intro above later hparent
    rcases List.eq_nil_or_concat' node.location with hroot | ⟨location, segment, hlocation⟩
    · rw [parent?_text, textParent_viewRoot hroot] at hparent
      cases hparent
      exact .inl ⟨node, rfl, hroot, rfl⟩
    · obtain ⟨s, hs, -, hrs, hkept, -⟩ := lawful_parent? hn hr
      rw [hparent] at hs
      -- the member above is there too, and has the node's member for a child
      rw [hlocation, View.at?_append] at present
      obtain ⟨tree, htree, hbelow⟩ := Option.bind_eq_some_iff.1 present
      rw [View.at?_cons_eq] at hbelow
      obtain ⟨child, hlookup, -⟩ := Option.bind_eq_some_iff.1 hbelow
      have hchild : (segment, child) ∈ tree.numberedChildren := mem_of_lookup_eq_some hlookup
      obtain ⟨parent, rfl, hfile, hlanguage, hplace⟩ : ∃ parent : MemberNode,
          above = .text (.member parent) ∧ parent.file = node.file ∧
            parent.language = node.language ∧ parent.location = location := by
        rw [parent?_text, textParent_member hlocation, hr.coherent.view, htree] at hparent
        exact ⟨_, (Option.some.inj (Prod.mk.inj hparent).1).symm, rfl, rfl, rfl⟩
      obtain rfl : s.workspace = later := hs
      have hthere : (grammars.view parent.language
          (s.workspace.content parent.file)).at? parent.location = some tree := by
        rw [hfile, hlanguage, hplace, Workspace.content_of_project hrs.onward.project, htree]
      have hlocus : some (parent.file, parent.language, parent.location ++ [segment]) ∈
          (children (.text (.member parent)) s.workspace).1.map Node.locus? := by
        rw [map_locus?_children hkept.coherent hthere]
        exact List.mem_map.2 ⟨_, hchild, rfl⟩
      obtain ⟨sibling, hsibling, hlocus⟩ := List.mem_map.1 hlocus
      obtain ⟨member, rfl, hfile', hlanguage', hlocation'⟩ := Node.exists_of_locus? hlocus
      refine .inr (List.mem_map.2 ⟨_, hsibling, ?_⟩)
      show Location.address (viewAddress member.file member.language) member.location =
        Location.address (viewAddress node.file node.language) node.location
      rw [hfile', hlanguage', hlocation', hfile, hlanguage, hplace, hlocation]

end Act

end TreeQuery
