/-
Each node of a workspace stands for a finite tree, and keeps standing for it.

# Twins

The nodes that are given for a member of a view are new ones with every question. Two of them at
one location are twins (`Node.Twin`): they have the same address, and as long as no text changes
their children are twins of each other (`twins_children`).

# Outlines

The addresses at and below a node make a tree, if below every node are those that are given for its
children (`Workspace.Outlines`). All of that is said of one workspace, since a question moves no
node: afterwards the tree is the same, for the node and for its twins. A tree like that is there
for each node (`exists_outline`), because what a node announces counts the nodes below it, or the
ways to them. So walks of a workspace are walks of a tree that keeps still (`steady`), and what is
said of those holds of every walk from a node (`descendantsOrSelf_eq`).
-/
import TreeQuery.Proofs.Query.Walk
import TreeQuery.Proofs.Session.Basic
import TreeQuery.Proofs.Snapshot.Listing
import TreeQuery.Proofs.Workspace.Walking

namespace TreeQuery

variable {grammars : Grammars}

-- ================================================================ twins

/-- The nodes are the same but for what tells apart members found at one location. -/
inductive Node.Twin : Node → Node → Prop
  | same (node : Node) : Twin node node
  | members {node twin : MemberNode} (file : twin.file = node.file)
      (language : twin.language = node.language) (location : twin.location = node.location) :
      Twin (.text (.member node)) (.text (.member twin))

theorem Node.Twin.address {node twin : Node} (h : node.Twin twin) :
    twin.address = node.address := by
  cases h with
  | same => rfl
  | members file language location =>
      show MemberNode.address _ = MemberNode.address _
      unfold MemberNode.address
      rw [file, language, location]

section

variable {ι : Type} {locus : ι → ProjectPath × Language × Location} {entries : List ι}
  {nodes twins : List Node}

theorem forall₂_locus? (h : nodes.map Node.locus? = entries.map fun entry => some (locus entry)) :
    List.Forall₂ (fun node entry => node.locus? = some (locus entry)) nodes entries := by
  rwa [← List.forall₂_eq_eq_eq, List.forall₂_map_left_iff, List.forall₂_map_right_iff] at h

/-- Nodes at the same locations, in the same order, are twins. -/
theorem twins_of_map_locus?
    (hnodes : nodes.map Node.locus? = entries.map fun entry => some (locus entry))
    (htwins : twins.map Node.locus? = entries.map fun entry => some (locus entry)) :
    List.Forall₂ Node.Twin nodes twins := by
  refine (forall₂_comp (forall₂_locus? hnodes) (forall₂_locus? htwins)).imp ?_
  rintro node twin ⟨entry, hnode, htwin⟩
  obtain ⟨member, rfl, hfile, hlanguage, hlocation⟩ := Node.exists_of_locus? hnode
  obtain ⟨other, rfl, hfile', hlanguage', hlocation'⟩ := Node.exists_of_locus? htwin
  exact .members (hfile'.trans hfile.symm) (hlanguage'.trans hlanguage.symm)
    (hlocation'.trans hlocation.symm)

theorem map_address_of_twins (h : List.Forall₂ Node.Twin nodes twins) :
    nodes.map Node.address = twins.map Node.address :=
  map_eq_of_forall₂ h fun _ _ ht => ht.address.symm

end

namespace Act

open Workspace

variable {w v : Workspace grammars} {node twin : Node}

/-- Asking a node for its children moves no node. -/
theorem unmoved_children (node : Node) (w : Workspace grammars) :
    w.Unmoved (children node w).2 := by
  cases node with
  | directory path => exact .refl w
  | detached tree => exact .refl w
  | text node =>
      cases node with
      | member node => exact (asks_memberChildren node w).1
      | file path => exact .refl w
      | occurrence handle grammar context index born => exact .refl w
      | binding handle grammar context index born name => exact .refl w

theorem twins_memberChildren {node twin : MemberNode} (file : twin.file = node.file)
    (language : twin.language = node.language) (location : twin.location = node.location)
    (h : w.Unmoved v) :
    List.Forall₂ Node.Twin (memberChildren node w).1 (memberChildren twin v).1 := by
  have hresolved : v.resolve? twin = w.resolve? node := by
    rw [h.resolve?]
    unfold Workspace.resolve?
    rw [file, language, location]
  cases htree : w.resolve? node with
  | none =>
      rw [memberChildren_run, memberChildren_run, hresolved, htree]
      exact .nil
  | some tree =>
      have htwin := map_locus?_memberChildren (hresolved.trans htree)
      rw [file, language, location] at htwin
      exact twins_of_map_locus? (map_locus?_memberChildren htree) htwin

/-- As long as no node is moved, twins have twins below them. -/
theorem twins_children (ht : node.Twin twin) (h : w.Unmoved v) :
    List.Forall₂ Node.Twin (children node w).1 (children twin v).1 := by
  cases ht with
  | members file language location => exact twins_memberChildren file language location h
  | same =>
      have hsame : ∀ nodes : List Node, List.Forall₂ Node.Twin nodes nodes := fun nodes =>
        List.forall₂_same.2 fun node _ => .same node
      cases node with
      | detached tree => exact hsame _
      | directory path =>
          have hchildren : (children (.directory path) v).1 = (children (.directory path) w).1 := by
            show (v.project.namesBelow path).map (v.entry path) =
              (w.project.namesBelow path).map (w.entry path)
            unfold Workspace.entry
            rw [h.project]
          rw [hchildren]
          exact hsame _
      | text node =>
          cases node with
          | member node => exact twins_memberChildren rfl rfl rfl h
          | file path => exact .nil
          | binding handle grammar context index born name => exact .nil
          | occurrence handle grammar context index born =>
              show List.Forall₂ Node.Twin ((w.found handle born).captures.map _)
                ((v.found handle born).captures.map _)
              rw [h.found]
              exact hsame _

end Act

-- ============================================================= outlines

namespace Workspace

variable {w v : Workspace grammars} {node twin : Node}

mutual

/-- The tree has the address of the node at its root and below it, in their order, what the nodes
right below have. -/
def Outlines (w : Workspace grammars) (node : Node) : Rose String → Prop
  | .node address trees => address = node.address ∧ OutlinesAll w (Act.children node w).1 trees

/-- The trees are those of the nodes, one for each. -/
def OutlinesAll (w : Workspace grammars) (nodes : List Node) : List (Rose String) → Prop
  | [] => nodes = []
  | tree :: trees => ∃ node rest, nodes = node :: rest ∧ Outlines w node tree ∧
      OutlinesAll w rest trees

end

theorem outlinesAll_iff {nodes : List Node} {trees : List (Rose String)} :
    w.OutlinesAll nodes trees ↔ List.Forall₂ w.Outlines nodes trees := by
  induction trees generalizing nodes with
  | nil => rw [OutlinesAll, List.forall₂_nil_right_iff]
  | cons tree trees ih =>
      rw [OutlinesAll, List.forall₂_cons_right_iff]
      constructor
      · rintro ⟨node, rest, rfl, hnode, hrest⟩
        exact ⟨node, rest, hnode, ih.1 hrest, rfl⟩
      · rintro ⟨node, rest, hnode, hrest, rfl⟩
        exact ⟨node, rest, rfl, hnode, ih.2 hrest⟩

theorem outlines_iff {tree : Rose String} : w.Outlines node tree ↔ tree.label = node.address ∧
    List.Forall₂ w.Outlines (Act.children node w).1 tree.children := by
  obtain ⟨address, trees⟩ := tree
  rw [Outlines, outlinesAll_iff]
  rfl

mutual

/-- A question leaves the tree of a node as it is, and twins have the same tree. -/
theorem Outlines.of_twin {node twin : Node} (ht : node.Twin twin) (h : w.Unmoved v)
    (tree : Rose String) (hnode : w.Outlines node tree) : v.Outlines twin tree := by
  match tree with
  | .node address trees =>
      rw [Outlines] at hnode ⊢
      exact ⟨hnode.1.trans ht.address.symm,
        OutlinesAll.of_twins (Act.twins_children ht h) h trees hnode.2⟩

theorem OutlinesAll.of_twins {nodes twins : List Node} (ht : List.Forall₂ Node.Twin nodes twins)
    (h : w.Unmoved v) (trees : List (Rose String)) (hnodes : w.OutlinesAll nodes trees) :
    v.OutlinesAll twins trees := by
  match trees with
  | [] =>
      rw [OutlinesAll] at hnodes ⊢
      subst hnodes
      exact List.forall₂_nil_left_iff.1 ht
  | tree :: trees =>
      rw [OutlinesAll] at hnodes ⊢
      obtain ⟨node, rest, rfl, hnode, hrest⟩ := hnodes
      obtain ⟨twin, others, htwin, hothers, rfl⟩ := List.forall₂_cons_left_iff.1 ht
      exact ⟨twin, others, rfl, Outlines.of_twin htwin h tree hnode,
        OutlinesAll.of_twins hothers h trees hrest⟩

end

theorem Outlines.later {tree : Rose String} (h : w.Unmoved v) (hnode : w.Outlines node tree) :
    v.Outlines node tree := hnode.of_twin (.same node) h tree

-- =============================================================== weights

/-- A number that is larger than those of the children of a node together. -/
def weight (w : Workspace grammars) : Node → Nat
  | .directory path => w.snapshot.size (.directory path)
  | .text node => w.bound (.text node)
  | .detached tree => w.bound (.detached tree)

theorem weight_le_bound (w : Workspace grammars) (node : Node) : w.weight node ≤ w.bound node := by
  cases node with
  | text node => exact Nat.le_refl _
  | detached tree => exact Nat.le_refl _
  | directory path =>
      refine (w.snapshot.size_directory_le path).trans (Nat.le_of_eq ?_)
      show (w.snapshot.texts.map (·.1)).foldr _ 1 = w.directoryBound
      rw [w.paths_snapshot]
      rfl

/-- The weight of a member is that of its location. -/
def weightAt (w : Workspace grammars) (locus : ProjectPath × Language × Location) : Nat :=
  (((w.view locus.1 locus.2.1).at? locus.2.2).map Rose.size).getD 1

theorem weightAt_of_at? {file : ProjectPath} {language : Language} {location : Location}
    {tree : View} (h : (w.view file language).at? location = some tree) :
    w.weightAt (file, language, location) = tree.size := by
  unfold weightAt
  rw [h]
  rfl

theorem map_weight_of_map_locus? {ι : Type} {locus : ι → ProjectPath × Language × Location}
    {entries : List ι} {nodes : List Node}
    (h : nodes.map Node.locus? = entries.map fun entry => some (locus entry)) :
    nodes.map w.weight = entries.map fun entry => w.weightAt (locus entry) := by
  refine map_eq_of_forall₂ (forall₂_locus? h) fun node entry hlocus => ?_
  obtain ⟨member, rfl, -⟩ := Node.exists_of_locus? hlocus
  exact congrArg w.weightAt (Option.some.inj hlocus)

theorem sum_weight_directory (path : ProjectPath) :
    ((Act.children (.directory path) w).1.map w.weight).sum < w.weight (.directory path) := by
  have hsame : ∀ node place, Act.Plain w.snapshot w node place →
      w.weight node = w.snapshot.size place := by
    rintro _ _ (⟨path, -⟩ | ⟨path, -⟩)
    · rfl
    · rfl
  have hweights : (Act.children (.directory path) w).1.map w.weight =
      (w.snapshot.children (.directory path)).map w.snapshot.size :=
    map_eq_of_forall₂ (Act.plain_children w path).2 hsame
  rw [hweights]
  exact w.snapshot.founded.below (.directory path)

theorem sum_weight_memberChildren (node : MemberNode) :
    ((Act.memberChildren node w).1.map w.weight).sum < w.weight (.text (.member node)) := by
  cases htree : w.resolve? node with
  | none =>
      rw [Act.memberChildren_run, htree]
      show 0 < ((w.resolve? node).map Rose.size).getD 1
      rw [htree]
      exact Nat.zero_lt_one
  | some tree =>
      have hweights := map_weight_of_map_locus? (w := w) (Act.map_locus?_memberChildren htree)
      have hsizes : ∀ entry ∈ tree.numberedChildren,
          w.weightAt (node.file, node.language, node.location ++ [entry.1]) = entry.2.size :=
        fun entry he => weightAt_of_at? (View.at?_child htree he)
      have hself : w.weight (.text (.member node)) = tree.size := weightAt_of_at? htree
      rw [hweights, List.map_congr_left hsizes, hself]
      exact View.sum_size_numberedChildren tree

theorem sum_weight_detached (w : Workspace grammars) (trees : List (Rose Detached)) :
    ((trees.map Node.detached).map w.weight).sum = Rose.sizeAll trees := by
  induction trees with
  | nil => rfl
  | cons tree trees ih =>
      rw [List.map_cons, List.map_cons, List.sum_cons, ih]
      rfl

/-- The children of a node weigh less than the node, together. -/
theorem sum_weight_children (w : Workspace grammars) (node : Node) :
    ((Act.children node w).1.map w.weight).sum < w.weight node := by
  cases node with
  | directory path => exact sum_weight_directory path
  | detached tree =>
      show ((tree.children.map Node.detached).map w.weight).sum < tree.size
      rw [sum_weight_detached, Rose.size_eq]
      exact Nat.lt_succ_self _
  | text node =>
      cases node with
      | file path => exact Nat.zero_lt_one
      | binding handle grammar context index born name => exact Nat.zero_lt_one
      | member node => exact sum_weight_memberChildren node
      | occurrence handle grammar context index born =>
          show (((w.found handle born).captures.map fun capture =>
            Node.text (.binding handle grammar context index born capture.1)).map w.weight).sum <
              (w.found handle born).captures.length + 1
          have hone : (w.weight ∘ fun capture : String × Text.Span =>
              Node.text (.binding handle grammar context index born capture.1)) = fun _ => 1 := rfl
          rw [List.map_map, hone, List.map_const', List.sum_replicate]
          simp

mutual

theorem Outlines.size_le {node : Node} (tree : Rose String) (hnode : w.Outlines node tree) :
    tree.size ≤ w.weight node := by
  match tree with
  | .node address trees =>
      rw [Outlines] at hnode
      exact Nat.lt_of_le_of_lt (OutlinesAll.size_le trees hnode.2) (w.sum_weight_children node)

theorem OutlinesAll.size_le {nodes : List Node} (trees : List (Rose String))
    (hnodes : w.OutlinesAll nodes trees) : Rose.sizeAll trees ≤ (nodes.map w.weight).sum := by
  match trees with
  | [] => exact Nat.zero_le _
  | tree :: trees =>
      rw [OutlinesAll] at hnodes
      obtain ⟨node, rest, rfl, hnode, hrest⟩ := hnodes
      exact Nat.add_le_add (Outlines.size_le tree hnode) (OutlinesAll.size_le trees hrest)

end

/-- For each node there is a tree. -/
theorem exists_outline (w : Workspace grammars) (node : Node) : ∃ tree, w.Outlines node tree := by
  induction hweight : w.weight node using Nat.strongRecOn generalizing node with
  | ind weight ih =>
      have hsum := w.sum_weight_children node
      have hall : ∀ nodes : List Node, (nodes.map w.weight).sum < weight →
          ∃ trees, w.OutlinesAll nodes trees := by
        intro nodes hlt
        induction nodes with
        | nil => exact ⟨[], rfl⟩
        | cons child nodes more =>
            rw [List.map_cons, List.sum_cons] at hlt
            obtain ⟨tree, htree⟩ := ih _ (by omega) child rfl
            obtain ⟨trees, htrees⟩ := more (by omega)
            exact ⟨tree :: trees, child, nodes, rfl, htree, htrees⟩
      obtain ⟨trees, htrees⟩ := hall _ (hweight ▸ hsum)
      exact ⟨.node node.address trees, rfl, htrees⟩

/-- In a workspace the trees of nodes keep still. -/
theorem steady : (Workspace.forest grammars).Steady Outlines where
  children {w node _} hnode :=
    (outlines_iff.1 hnode).2.imp fun _ _ hchild => hchild.later (Act.unmoved_children node w)
  lasting {w node _ _ _} _ hother := hother.later (Act.unmoved_children node w)
  extent {w node _} hnode :=
    ⟨w.bound node, rfl, (hnode.size_le _).trans (w.weight_le_bound node)⟩

/-- A walk comes to what is in the tree of the node, in pre-order. -/
theorem map_address_descendantsOrSelf {tree : Rose String} (h : w.Outlines node tree) :
    ((Workspace.forest grammars).descendantsOrSelf node w).1.map Node.address = tree.preorder := by
  obtain ⟨found, later, -, hself, hparts⟩ := steady.finish_self h
  rw [hself, ← Rose.map_label_parts]
  exact map_eq_of_forall₂ hparts fun _ _ hpart => (outlines_iff.1 hpart).1.symm

/-- Whatever node of whatever workspace a walk starts at, it ends and is the recursive listing. -/
theorem descendantsOrSelf_eq (w : Workspace grammars) (node : Node) :
    (Workspace.forest grammars).descendantsOrSelf node w = (do
      let children ← Act.children node
      let below ← children.mapM (Workspace.forest grammars).descendantsOrSelf
      return node :: below.flatten : Act grammars (List Node)) w := by
  obtain ⟨tree, htree⟩ := w.exists_outline node
  exact steady.descendantsOrSelf_eq htree

/-- A workspace with a file in a directory and another one beside it. -/
def shelved : Workspace Session.blind :=
  (((Session.start "p" .empty .empty).step (.addFile "a/b.txt" "")).step
    (.addFile "c.txt" "")).workspace

/-- The loop that walks it is done after as many turns as there are nodes, and has listed the
directory before its file and that before the other one. -/
theorem preorder_of_steady_shelved : ∃ tree found later,
    shelved.Outlines (.directory []) tree ∧ tree.preorder = ["/", "/a", "/a/b.txt", "/c.txt"] ∧
      found = [.directory [], .directory ["a"], .text (.file ["a", "b.txt"]),
        .text (.file ["c.txt"])] ∧
      (forest Session.blind).turns tree.size ⟨[], [.directory []]⟩ shelved =
        (⟨found, []⟩, later) ∧
      (do let children ← Act.children (.directory [])
          let below ← children.mapM (forest Session.blind).descendantsOrSelf
          return .directory [] :: below.flatten : Act Session.blind (List Node)) shelved =
        (found, later) ∧
      List.Forall₂ (fun position node => ∃ part,
        tree.part? position = some part ∧ later.Outlines node part) tree.positions found := by
  obtain ⟨tree, htree⟩ := shelved.exists_outline (.directory [])
  obtain ⟨found, later, hturns, hwalk, hrecursion, hparts, -⟩ :=
    Query.Forest.preorder_of_steady steady htree
  have haddresses : ((forest Session.blind).descendantsOrSelf (.directory []) shelved).1.map
      Node.address = ["/", "/a", "/a/b.txt", "/c.txt"] := by decide
  refine ⟨tree, found, later, htree, ?_, ?_, hturns 0, hrecursion, hparts⟩
  · rw [← map_address_descendantsOrSelf htree, haddresses]
  · exact (congrArg Prod.fst hwalk).symm.trans rfl

end Workspace

end TreeQuery
