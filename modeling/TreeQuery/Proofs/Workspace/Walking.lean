/-
A walk through a view follows its table.

A walk from the root of a view takes nodes off a stack and puts their children on it. What is on
the stack are nodes at locations of the view, and what it still has to list are the rows of the
subtrees there (`map_locus?_walk`): each step takes the first row of one of them and leaves those
of its children. A question does not move the nodes, so the view stays the same on the way, and
the fuel, the size of the view, is as much as there are rows.

With the facts about the table itself this makes a view a faithful picture of its syntax tree, in
pre-order (`faithful_project`).
-/
import TreeQuery.Proofs.View.Nesting
import TreeQuery.Proofs.Workspace.Asking
import TreeQuery.Proofs.Workspace.Climbing

namespace TreeQuery

-- ========================================================== locations

namespace View

/-- Where the parts of a tree stand, in the order of its table, if the tree stands at `location`. -/
def locationsFrom (location : Location) (tree : View) : List Location :=
  (entriesFrom none 0 location tree).map Entry.location

mutual

/-- Where the rows are in the table does not matter for the locations. -/
theorem map_location_entriesFrom (parent : Option Nat) (index : Nat) (location : Location)
    (tree : View) : (entriesFrom parent index location tree).map Entry.location =
      locationsFrom location tree := by
  match tree with
  | .node member children =>
      rw [locationsFrom, entriesFrom, entriesFrom, List.map_cons, List.map_cons,
        map_location_entriesOfAll, map_location_entriesOfAll]

theorem map_location_entriesOfAll (parent index : Nat) (location : Location)
    (earlier : List String) (trees : List View) :
    (entriesOfAll parent index location earlier trees).map Entry.location =
      (numberedAfter earlier trees).flatMap fun entry =>
        locationsFrom (location ++ [entry.1]) entry.2 := by
  match trees with
  | [] => rfl
  | tree :: rest =>
      rw [entriesOfAll, List.map_append, map_location_entriesFrom, map_location_entriesOfAll,
        numberedAfter, List.flatMap_cons]

end

/-- The location of a tree comes before those of its children. -/
theorem locationsFrom_eq (location : Location) (tree : View) :
    locationsFrom location tree = location :: tree.numberedChildren.flatMap fun entry =>
      locationsFrom (location ++ [entry.1]) entry.2 := by
  cases tree with
  | node member children =>
      rw [locationsFrom, entriesFrom, List.map_cons, map_location_entriesOfAll]
      rfl

/-- The children of a tree are smaller than it, together. -/
theorem sum_size_numberedChildren (tree : View) :
    ((tree.numberedChildren.map fun entry => entry.2.size).sum) < tree.size := by
  have hall : ∀ (earlier : List String) (trees : List View),
      ((numberedAfter earlier trees).map fun entry => entry.2.size).sum = Rose.sizeAll trees := by
    intro earlier trees
    induction trees generalizing earlier with
    | nil => rfl
    | cons first rest ih =>
        rw [numberedAfter, List.map_cons, List.sum_cons, ih, Rose.sizeAll]
  cases tree with
  | node member children =>
      rw [numberedChildren, hall, Rose.size]
      exact Nat.lt_succ_self _

end View

-- ================================================================ walks

namespace Act

variable {grammars : Grammars} {file : ProjectPath} {language : Language} {view : View}

/-- A walk lists what is below the nodes on its stack, one subtree after the other. -/
theorem map_locus?_walk (fuel : Nat) (places : List (Location × View)) (stack : List Node)
    {w : Workspace grammars} (hview : w.view file language = view)
    (hplaces : ∀ place ∈ places, view.at? place.1 = some place.2)
    (hstack : stack.map Node.locus? = places.map fun place => some (file, language, place.1))
    (enough : (places.map fun place => place.2.size).sum ≤ fuel) :
    ((Workspace.forest grammars).walk fuel stack w).1.map Node.locus? =
      (places.flatMap fun place => View.locationsFrom place.1 place.2).map fun location =>
        some (file, language, location) := by
  induction fuel generalizing places stack w with
  | zero =>
      cases places with
      | nil => rfl
      | cons place places =>
          have hpos := place.2.size_pos
          rw [List.map_cons, List.sum_cons] at enough
          omega
  | succ fuel ih =>
      cases places with
      | nil =>
          obtain rfl := List.map_eq_nil_iff.1 hstack
          rfl
      | cons place places =>
          obtain ⟨location, tree⟩ := place
          obtain ⟨node, stack, rfl, hnode, hbehind⟩ := List.map_eq_cons_iff.1 hstack
          obtain ⟨member, rfl, rfl, rfl, rfl⟩ := Node.exists_of_locus? hnode
          obtain ⟨hat, hothers⟩ := List.forall_mem_cons.1 hplaces
          have hresolved : w.resolve? member = some tree := by
            rw [Workspace.resolve?, hview]
            exact hat
          have hlater : (children (.text (.member member)) w).2.view member.file
              member.language = view :=
            ((asks_memberChildren member w).1.view _ _).trans hview
          have hrest := ih ((tree.numberedChildren.map fun entry =>
              (member.location ++ [entry.1], entry.2)) ++ places)
            ((children (.text (.member member)) w).1 ++ stack) hlater ?_ ?_ ?_
          · rw [List.flatMap_cons, View.locationsFrom_eq, List.cons_append, List.map_cons]
            refine (List.map_cons).trans (congrArg _ (hrest.trans ?_))
            rw [List.flatMap_append, List.flatMap_map]
          · intro place hp
            rcases List.mem_append.1 hp with hp | hp
            · obtain ⟨⟨segment, child⟩, hc, rfl⟩ := List.mem_map.1 hp
              exact View.at?_child hat hc
            · exact hothers place hp
          · have hchildren : (children (.text (.member member)) w).1.map Node.locus? = _ :=
              map_locus?_memberChildren hresolved
            rw [List.map_append, List.map_append, hchildren, hbehind, List.map_map]
            rfl
          · have hlt := tree.sum_size_numberedChildren
            have hboth : tree.size + (places.map fun place => place.2.size).sum ≤ fuel + 1 := enough
            rw [List.map_append, List.sum_append, List.map_map]
            show (tree.numberedChildren.map fun entry => entry.2.size).sum + _ ≤ fuel
            omega

/-- A walk from the root of a view comes to each row of the table, in their order. -/
theorem map_locus?_descendantsOrSelf {root : MemberNode} {w : Workspace grammars}
    (hr : root.location = []) (hview : w.view root.file root.language = view) :
    ((Workspace.forest grammars).descendantsOrSelf (.text (.member root)) w).1.map Node.locus? =
      view.entries.map fun entry => some (root.file, root.language, entry.location) := by
  have hbound : w.bound (.text (.member root)) = view.size := by
    show ((w.resolve? root).map Rose.size).getD 1 = _
    rw [Workspace.resolve?, hview, hr]
    rfl
  have hwalk := map_locus?_walk view.size [([], view)] [.text (.member root)] hview
    (fun place hp => ?_) ?_ ?_
  · show ((Workspace.forest grammars).walk (w.bound (.text (.member root))) _ w).1.map _ = _
    rw [hbound, hwalk, List.flatMap_singleton, View.locationsFrom, List.map_map]
    rfl
  · obtain rfl := List.mem_singleton.1 hp
    rfl
  · show [some (root.file, root.language, root.location)] = _
    rw [hr]
    rfl
  · exact Nat.le_of_eq List.sum_singleton

end Act

-- ========================================================== projections

namespace View

/-- The view of a source is a faithful picture of its syntax tree, listed in pre-order. The links
of its table agree, and a walk from the root comes to each row once, in their order. The rows of a
program stand for the named nodes that have only named ones above them, in the order of the tree,
and if the spans of the tree nest, then those of the table do. -/
theorem faithful_project (language : Language) (source : String) (tree : SyntaxTree) :
    let view := project language source tree
    let table := view.entries
    Arranged table ∧
    (∀ {grammars : Grammars} (w : Workspace grammars) (root : MemberNode), root.location = [] →
      w.view root.file root.language = view →
      ((Workspace.forest grammars).descendantsOrSelf (.text (.member root)) w).1.map
          Node.locus? =
        table.map fun entry => some (root.file, root.language, entry.location)) ∧
    (table.map Entry.location).Nodup ∧
    (language ≠ .yaml →
      (table.tail.map fun entry => (entry.member.name, entry.member.kind, entry.member.span)) =
        tree.namedThroughout.map fun node => (node.kind, node.kind, node.span)) ∧
    (tree.NestedIn source → ∀ {i j : Nat} {above below : Entry}, table[i]? = some above →
      table[j]? = some below → below.parent = some i →
        below.member.span.within above.member.span ∧
        ∀ {j' : Nat} {below' : Entry}, table[j']? = some below' → below'.parent = some i →
          j < j' → below.member.span.stop ≤ below'.member.span.start) := by
  intro view table
  refine ⟨arranged_entries view, fun w root hr hview => ?_, nodup_locations_entriesFrom _ _ _ _,
    fun hl => ?_, fun hn i j above below ha hb hp => ?_⟩
  · exact Act.map_locus?_descendantsOrSelf hr hview
  · exact map_tail_entries_project (fun member => (member.name, member.kind, member.span))
      (fun node => (node.kind, node.kind, node.span)) (fun _ => rfl) hl tree
  · have hnested := nested_project language hn
    exact ⟨within_parent hnested ha hb hp, fun hb' hp' hlt =>
      ordered_siblings hnested hb hb' hp hp' hlt⟩

-- ============================================================ a sample

/-- An item of a list, made of a dash and a letter. -/
def letterItem (start : Nat) : SyntaxTree :=
  plainNode "block_sequence_item" start (start + 3)
    [tokenNode "-" start, plainNode "flow_node" (start + 2) (start + 3)
      [plainNode "plain_scalar" (start + 2) (start + 3)
        [plainNode "string_scalar" (start + 2) (start + 3) []]]]

/-- The tree of a list of two letters. -/
def listing : SyntaxTree :=
  plainNode "stream" 0 8 [plainNode "document" 0 8 [plainNode "block_node" 0 8
    [plainNode "block_sequence" 0 8 [letterItem 0, letterItem 4]]]]

/-- A parser for which every source is such a list. -/
def listings : Grammars where
  parse _ _ := listing
  find _ _ _ := some []

/-- A workspace with a file in which the list stands. -/
def listed : Workspace listings :=
  (Act.addFile "a.yml" "- a\n- b\n" { project := .empty "p" }).2

theorem content_listed : listed.content ["a.yml"] = "- a\n- b\n" := by decide

theorem view_listed (language : Language) : listed.view ["a.yml"] language =
    project language "- a\n- b\n" listing := by
  show listings.view language (listed.content ["a.yml"]) = _
  rw [content_listed]
  rfl

theorem nestedIn_listing : listing.NestedIn "- a\n- b\n" := ⟨by decide, by decide⟩

/-- The root of the view of the file. -/
def listedRoot (language : Language) : MemberNode :=
  ⟨0, ["a.yml"], language, [],
    { member := rootMember language "- a\n- b\n" listing, text := "- a\n- b\n" }⟩

/-- The row of a letter in the view of the list. -/
def letterRow (letter : String) (ordinal : Nat) (span : Text.Span) : Entry :=
  ⟨⟨"item", "plain_scalar", ["YamlString", "YamlNode"], span, [("value", letter)]⟩, some 0, [],
    [⟨"item", ordinal⟩]⟩

theorem entries_listing : (project .yaml "- a\n- b\n" listing).entries =
    [⟨rootMember .yaml "- a\n- b\n" listing, none, [1, 2], []⟩, letterRow "a" 0 ⟨2, 3⟩,
      letterRow "b" 1 ⟨6, 7⟩] := by
  decide +kernel

/-- The list seen as YAML, where its two items are walked to and stand one after the other, and as
a program, where all its nodes but the dashes are members. -/
theorem faithful_project_listing :
    (((Workspace.forest listings).descendantsOrSelf (.text (.member (listedRoot .yaml)))
      listed).1.map Node.locus? =
        [some (["a.yml"], .yaml, []), some (["a.yml"], .yaml, [⟨"item", 0⟩]),
          some (["a.yml"], .yaml, [⟨"item", 1⟩])]) ∧
    ((letterRow "a" 0 ⟨2, 3⟩).member.span.within (rootMember .yaml "- a\n- b\n" listing).span ∧
      (letterRow "a" 0 ⟨2, 3⟩).member.span.stop ≤ (letterRow "b" 1 ⟨6, 7⟩).member.span.start) ∧
    ((project .rust "- a\n- b\n" listing).entries.tail.map fun entry =>
        (entry.member.name, entry.member.kind, entry.member.span)) =
      listing.namedThroughout.map fun node => (node.kind, node.kind, node.span) := by
  obtain ⟨-, hwalk, -, -, hspans⟩ := faithful_project .yaml "- a\n- b\n" listing
  obtain ⟨-, -, -, hnamed, -⟩ := faithful_project .rust "- a\n- b\n" listing
  rw [entries_listing] at hwalk hspans
  have hsecond := hspans nestedIn_listing (i := 0) (j := 1) rfl rfl rfl
  refine ⟨hwalk listed (listedRoot .yaml) rfl (view_listed .yaml), ⟨hsecond.1, ?_⟩,
    hnamed (by decide)⟩
  have hnext : [⟨rootMember .yaml "- a\n- b\n" listing, none, [1, 2], []⟩,
      letterRow "a" 0 ⟨2, 3⟩, letterRow "b" 1 ⟨6, 7⟩][2]? = some (letterRow "b" 1 ⟨6, 7⟩) := rfl
  exact hsecond.2 hnext rfl (by decide)

end View

end TreeQuery
