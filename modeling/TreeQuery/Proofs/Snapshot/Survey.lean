/-
Every question a query asks, answered in a workspace as in its snapshot.

The lemmas go through the questions in the order of the model: looking, new nodes, children,
names, tags and properties, values, extents, types. Each says what the answer is and leaves a
correct ledger behind. Two of them remember something under a handle, the value and the
extent of a node in a view: the first changes neither of the two things a standing node is
asked about, the second puts into the node's extent what is right (`agrees_remember`).

The evaluation of an expression from the root and a look at all it finds agree with the
snapshot as a consequence (`survey_eq`).
-/
import TreeQuery.Proofs.Snapshot.Agreement

namespace TreeQuery

open Text (Span)
open Query (Comparison)

variable {grammars : Grammars}

namespace Act

open Ledger

variable {α β : Type} {S : Snapshot grammars} {L : Ledger grammars}

-- ============================================================ looking

theorem agrees_consult {file : ProjectPath} (language : Language)
    (hf : (L.workspace.project.document? file).isSome) :
    Agrees S L (fun _ _ _ => True) (consult file language) () :=
  agrees_of_keeps (keeps_consult language hf)
    (L.workspace.holdView_fields file language).2 fun _ _ _ => trivial

theorem agrees_look {node : Node} {place : Place} (hs : L.Shows node place) :
    Agrees S L (fun _ _ _ => True) (look node) () := by
  match node, place, hs with
  | .directory _, .directory _, _ => exact agrees_pure trivial
  | .text (.file _), .text _, _ => exact agrees_pure trivial
  | .text (.member node), .text _, hs => exact agrees_consult node.language hs.2.1.1
  | .text (.occurrence ..), .text _, _ => exact agrees_pure trivial
  | .text (.binding ..), .text _, _ => exact agrees_pure trivial

/-- Looking at a node first, and then asking the workspace. -/
theorem agrees_look_then {node : Node} {place : Place} (hs : L.Shows node place)
    {f : Workspace grammars → α} {y : α}
    (h : ∀ M, L.Extends M → M.Correct S → f M.workspace = y) :
    Agrees S L (agreeing S).Same (do look node; return f (← get)) y := by
  refine (agrees_look hs).bind fun M _ hM _ => agrees_of_correct fun hMc => agrees_get ?_
  exact agrees_pure (h M hM hMc)

-- ========================================================== new nodes

theorem agrees_newHandle :
    Agrees S L (fun M handle _ => M.since ≤ handle ∧ handle < M.workspace.nextHandle)
      newHandle () := by
  refine agrees_of_correct fun hL => agrees_of_keeps keeps_newHandle ⟨rfl, rfl⟩ fun M hM hlt => ?_
  exact ⟨hM.since ▸ hL.since, hlt⟩

theorem newMember_eq (file : ProjectPath) (language : Language) (location : Location)
    (member : Member) (w : Workspace grammars) :
    newMember file language location member w =
      ({ handle := w.nextHandle, file, language, location, born := w.observe file member },
        { w with nextHandle := w.nextHandle + 1 }) := rfl

/-- A new node is written down under its handle. -/
theorem agrees_newMember {file : ProjectPath} {language : Language} {location : Location}
    (member : Member) (hf : (L.workspace.project.document? file).isSome)
    (ht : (S.tree? file language location).isSome) :
    Agrees S L (fun M node place => M.ShowsText (.member node) place)
      (newMember file language location member) (.member file language location) := by
  intro hL
  obtain ⟨hc, hon, hk⟩ := keeps_newMember language location member hf hL.coherent
  rw [newMember_eq] at hc hon hk ⊢
  let node : MemberNode :=
    ⟨L.workspace.nextHandle, file, language, location, L.workspace.observe file member⟩
  let later : Workspace grammars := { L.workspace with nextHandle := L.workspace.nextHandle + 1 }
  have hborn : later.memory node = node.born := by
    show (L.workspace.memories.lookup L.workspace.nextHandle).getD node.born = _
    rw [hL.coherent.memories _ (Nat.le_refl _)]
    rfl
  have hstand : later.Standing node := by
    refine ⟨hk, ?_, by rw [hborn]; rfl, ?_⟩
    · rw [hon.snapshot, hL.snapshot]
      exact ht
    · rw [hborn]
      exact Slot.sound_empty
  have hmoved : (L.moved later).Correct S := hL.moved hc hon
    (fun handle n hn => (hL.standing handle n hn).onward hon rfl rfl) rfl
  have hnew : L.issued node.handle = none := by
    cases hn : L.issued node.handle with
    | none => rfl
    | some n =>
        have hlt := (hL.standing _ n hn).known.2 n.handle List.mem_cons_self
        rw [hL.handle _ n hn] at hlt
        exact absurd hlt (Nat.lt_irrefl _)
  exact ⟨(L.moved later).issue node, rfl, (extends_moved hon).trans (extends_issue hnew),
    hmoved.issue hstand, rfl, hk, if_pos rfl⟩

theorem agrees_viewRoot {file : ProjectPath} (language : Language)
    (hf : (L.workspace.project.document? file).isSome) :
    Agrees S L (fun M node place => M.ShowsText (.member node) place)
      (viewRoot file language) (.member file language []) := by
  refine (agrees_consult language hf).bind fun M _ hM _ => agrees_get ?_
  exact agrees_newMember _ (hM.onward.project ▸ hf) rfl

-- =========================================================== children

/-- Below a node that shows a place come nodes that show the places below it. -/
theorem agrees_children {node : Node} {place : Place} (hs : L.Shows node place) :
    Agrees S L (fun M => List.Forall₂ M.Shows) (children node) (S.children place) := by
  refine agrees_of_correct fun hL => ?_
  match node, place, hs with
  | .directory path, .directory _, rfl =>
      refine agrees_get (agrees_pure ?_)
      show List.Forall₂ _ ((L.workspace.project.namesBelow path).map _)
        (((S.texts.map (·.1)).filterMap (ProjectPath.nextName? path)).eraseDups.map _)
      rw [← hL.snapshot, L.workspace.paths_snapshot, List.forall₂_map_left_iff,
        List.forall₂_map_right_iff]
      refine List.forall₂_same.2 fun name _ => ?_
      unfold Workspace.entry Snapshot.entry
      simp only
      rw [Workspace.lookup_snapshot, Option.isSome_map]
      split
      · rename_i hf
        exact ⟨rfl, ⟨hf, fun h hm => by cases hm⟩, trivial⟩
      · exact rfl
  | .text (.file path), .text _, ⟨rfl, _, _⟩ => exact agrees_pure .nil
  | .text (.binding ..), .text _, ⟨rfl, _, _⟩ => exact agrees_pure .nil
  | .text (.occurrence handle grammar context index born), .text _, ⟨rfl, hk, hi⟩ =>
      refine agrees_get (agrees_pure ?_)
      rw [hL.found hi.1]
      show List.Forall₂ _ (born.captures.map _) (born.captures.map _)
      rw [List.forall₂_map_left_iff, List.forall₂_map_right_iff]
      exact List.forall₂_same.2 fun capture _ => ⟨rfl, hk, hi⟩
  | .text (.member node), .text _, ⟨rfl, hk, hi⟩ =>
      obtain ⟨tree, -, ht, -⟩ := (hL.standing _ _ hi).tree hL.coherent
      rw [hL.snapshot] at ht
      refine (agrees_consult node.language hk.1).bind fun M _ hM _ =>
        agrees_of_correct fun hMc => agrees_get ?_
      simp only [hMc.coherent.resolve?_eq, hMc.snapshot, ht, Snapshot.children, TextNode.place]
      refine agrees_mapM (fun M N x y hMN => hMN.shows) fun child hchild N hN => ?_
      obtain ⟨segment, child⟩ := child
      have hbelow : (S.tree? node.file node.language (node.location ++ [segment])).isSome := by
        unfold Snapshot.tree? at ht ⊢
        rw [View.at?_child ht hchild]
        rfl
      refine (agrees_newMember child.label ((hM.trans hN).onward.project ▸ hk.1) hbelow).bind
        fun N n _ hn => ?_
      exact agrees_pure hn

-- ============================================ names, tags, properties

/-- What a node that shows a place is called and how it is tagged. -/
theorem name_of_shows (hL : L.Correct S) {node : Node} {place : Place}
    (hs : L.Shows node place) :
    L.workspace.name node = S.nameOf place ∧ L.workspace.tags node = S.tags place := by
  match node, place, hs with
  | .directory path, .directory _, rfl =>
      rw [← hL.snapshot]
      exact ⟨rfl, rfl⟩
  | .text (.file path), .text _, ⟨rfl, _, _⟩ => exact ⟨rfl, rfl⟩
  | .text (.occurrence ..), .text _, ⟨rfl, _, _⟩ => exact ⟨rfl, rfl⟩
  | .text (.binding ..), .text _, ⟨rfl, _, _⟩ => exact ⟨rfl, rfl⟩
  | .text (.member node), .text _, ⟨rfl, _, hi⟩ =>
      have hm := (hL.standing _ _ hi).member hL.coherent
      rw [hL.snapshot] at hm
      exact ⟨congrArg Member.name hm, congrArg Member.tags hm⟩

theorem property_of_shows (hL : L.Correct S) {node : Node} {place : Place}
    (hs : L.Shows node place) (key : String) :
    L.workspace.property node key = S.property place key := by
  match node, place, hs with
  | .directory path, .directory _, rfl =>
      rw [← hL.snapshot]
      rfl
  | .text (.file path), .text _, ⟨rfl, _, _⟩ => rfl
  | .text (.member node), .text _, ⟨rfl, _, hi⟩ =>
      have hm := (hL.standing _ _ hi).member hL.coherent
      rw [hL.snapshot] at hm
      exact congrArg (Workspace.memberProperty · key) hm
  | .text (.occurrence handle grammar context index born), .text _, ⟨rfl, _, hi⟩ =>
      unfold Workspace.property
      simp only
      rw [hL.found hi.1]
      rfl
  | .text (.binding handle grammar context index born name), .text _, ⟨rfl, _, hi⟩ =>
      unfold Workspace.property
      simp only
      rw [hL.found hi.1]
      rfl

theorem bound_of_shows (hL : L.Correct S) {node : Node} {place : Place}
    (hs : L.Shows node place) : L.workspace.bound node = S.bound place := by
  match node, place, hs with
  | .directory path, .directory _, rfl =>
      show L.workspace.directoryBound = (S.texts.map (·.1)).foldr _ 1
      rw [← hL.snapshot, L.workspace.paths_snapshot]
      rfl
  | .text (.file path), .text _, ⟨rfl, _, _⟩ => rfl
  | .text (.binding ..), .text _, ⟨rfl, _, _⟩ => rfl
  | .text (.member node), .text _, ⟨rfl, _, hi⟩ =>
      show ((L.workspace.resolve? node).map Rose.size).getD 1 = _
      rw [hL.coherent.resolve?_eq, hL.snapshot]
      rfl
  | .text (.occurrence handle grammar context index born), .text _, ⟨rfl, _, hi⟩ =>
      show (L.workspace.found handle born).captures.length + 1 = _
      rw [hL.found hi.1]
      rfl

-- ========================================================= remembering

/-- A node written down may remember something else, as long as it pins nothing and what it
remembers of its extent is right. -/
theorem correct_remember (hL : L.Correct S) {node : MemberNode}
    (hi : L.issued node.handle = some node) {memory : Memory} (hp : memory.pinned = none)
    (he : memory.extent.Sound (L.workspace.document node.file).generation
      (· = .ofSpan (L.workspace.content node.file)
        (S.member node.file node.language node.location).span)) :
    (L.moved (L.workspace.remember node memory)).Correct S := by
  have hs := hL.standing _ _ hi
  have hon : L.workspace.Onward (L.workspace.remember node memory) := ⟨rfl, Nat.le_refl _⟩
  refine hL.moved (hL.coherent.remember memory (hs.known.2 _ List.mem_cons_self)) hon
    (fun handle other ho => ?_) rfl
  have hso := hL.standing _ _ ho
  by_cases heq : other.handle = node.handle
  · obtain rfl := hL.eq_of_handle hi ho heq
    have hmem : (L.workspace.remember other memory).memory other = memory := by
      rw [Workspace.memory_remember, if_pos rfl]
    refine ⟨hs.known, hs.resolved, by rw [hmem, hp], ?_⟩
    rw [hmem, hon.snapshot, hL.snapshot]
    exact he
  · have hmem : (L.workspace.remember node memory).memory other = L.workspace.memory other := by
      rw [Workspace.memory_remember, if_neg heq]
    exact hso.onward hon (by rw [hmem]) (by rw [hmem])

theorem agrees_remember {node : MemberNode} (hi : L.issued node.handle = some node)
    {memory : Memory} (hp : memory.pinned = none)
    (he : memory.extent.Sound (L.workspace.document node.file).generation
      (· = .ofSpan (L.workspace.content node.file)
        (S.member node.file node.language node.location).span)) :
    Agrees S L (fun _ _ _ => True) (set (L.workspace.remember node memory)) () :=
  fun hL => ⟨L.moved _, rfl, extends_moved ⟨rfl, Nat.le_refl _⟩, correct_remember hL hi hp he,
    trivial⟩

-- ============================================================== values

/-- What a standing node answers when it is asked for its text, and what that leaves behind. -/
theorem memberValue_of_standing {w : Workspace grammars} (hc : w.Coherent) {node : MemberNode}
    (hs : w.Standing node) :
    ∃ memory : Memory, memory.pinned = (w.memory node).pinned ∧
      memory.extent = (w.memory node).extent ∧
      w.memberValue node =
        ((Text.slice? (w.content node.file)
            (w.snapshot.member node.file node.language node.location).span).getD "",
          (w.holdView node.file node.language).remember node memory) := by
  have hon := w.onward_holdView node.file node.language
  have hv : (w.holdView node.file node.language).Coherent := hc.holdView _ hs.known.1
  have hmem := Workspace.memory_eq (w.holdView_fields node.file node.language).2.1 node
  obtain ⟨tree, -, ht, hm⟩ := hs.tree hc
  unfold Workspace.memberValue
  rw [hs.pinned?]
  simp only [Option.bind_none]
  rw [hv.resolve?_eq, hon.snapshot, ht]
  unfold Workspace.observe
  simp only
  rw [hon.content, hm, hmem]
  refine ⟨_, ?_, ?_, rfl⟩
  · rfl
  · rfl

/-- A node that shows a place has its text. -/
theorem agrees_value {node : TextNode} {place : TextPlace} (hs : L.ShowsText node place) :
    Agrees S L (agreeing S).Same (value node) (S.value place) := by
  intro hL
  match node, hs with
  | .file path, ⟨rfl, _, _⟩ =>
      refine ⟨L, rfl, .refl L, hL, ?_⟩
      rw [← hL.snapshot]
      exact (L.workspace.content_snapshot path).symm
  | .occurrence handle grammar context index born, ⟨rfl, _, hi⟩ =>
      refine ⟨L, rfl, .refl L, hL, ?_⟩
      show (L.workspace.found handle born).text = born.text
      rw [hL.found hi.1]
  | .binding handle grammar context index born name, ⟨rfl, _, hi⟩ =>
      refine ⟨L, rfl, .refl L, hL, ?_⟩
      show ((L.workspace.found handle born).capture? name).getD "" = _
      rw [hL.found hi.1]
      rfl
  | .member node, ⟨rfl, hk, hi⟩ =>
      have hst := hL.standing _ _ hi
      have hon := L.workspace.onward_holdView node.file node.language
      have hmems := (L.workspace.holdView_fields node.file node.language).2
      have hheld : (L.moved (L.workspace.holdView node.file node.language)).Correct S :=
        hL.moved (hL.coherent.holdView node.language hk.1) hon (fun handle other ho => by
          have hmem := Workspace.memory_eq hmems.1 other
          exact (hL.standing _ _ ho).onward hon (by rw [hmem]) (by rw [hmem])) hmems.2
      obtain ⟨memory, hp, he, hval⟩ := memberValue_of_standing hL.coherent hst
      refine ⟨(L.moved (L.workspace.holdView node.file node.language)).moved
        ((L.workspace.holdView node.file node.language).remember node memory), ?_, ?_, ?_, ?_⟩
      · exact (congrArg Prod.snd hval).symm
      · exact extends_moved ⟨hon.project, hon.handles⟩
      · refine correct_remember hheld hi (hp.trans hst.unpinned) ?_
        show Slot.Sound _ ((L.workspace.holdView node.file node.language).document
          node.file).generation (· = Layout.Extent.ofSpan
            ((L.workspace.holdView node.file node.language).content node.file) _)
        rw [he, hon.document, hon.content, ← hL.snapshot]
        exact hst.extent
      · refine (congrArg Prod.fst hval).trans ?_
        rw [hL.snapshot, ← L.workspace.content_snapshot, hL.snapshot]
        rfl

-- ============================================================== layout

theorem agrees_span? {node : MemberNode} (hi : L.issued node.handle = some node) :
    Agrees S L (agreeing S).Same (span? node)
      (some (S.member node.file node.language node.location).span) := by
  refine agrees_of_correct fun hL => agrees_get ?_
  have hs := hL.standing _ _ hi
  rw [hs.pinned?]
  refine (agrees_consult node.language hs.known.1).bind fun M _ hM _ =>
    agrees_of_correct fun hMc => agrees_get (agrees_pure ?_)
  have hspan := (hMc.standing _ _ (hM.issued _ _ hi)).span? hMc.coherent
  rw [hMc.snapshot] at hspan
  exact hspan

theorem agrees_memberExtent {node : MemberNode} (hi : L.issued node.handle = some node) :
    Agrees S L (agreeing S).Same (memberExtent node)
      (.ofSpan (S.content node.file) (S.member node.file node.language node.location).span) := by
  refine agrees_of_correct fun hL => agrees_get (agrees_get ?_)
  have hs := hL.standing _ _ hi
  have hext := hs.extent
  rw [← L.workspace.content_snapshot, hL.snapshot] at hext
  cases hget : (L.workspace.memory node).extent.get?
      (L.workspace.document node.file).generation with
  | some extent => exact agrees_pure (hext.get? hget)
  | none =>
      refine (agrees_span? hi).bind fun M span hM hspan => agrees_of_correct fun hMc => ?_
      obtain rfl : span = _ := hspan
      have hcontent : M.workspace.content node.file = S.content node.file := by
        rw [← M.workspace.content_snapshot, hMc.snapshot]
      refine agrees_get ?_
      refine Agrees.bind (agrees_remember (hM.issued _ _ hi) ?_ ?_)
        fun N _ _ _ => agrees_pure ?_
      · exact (hMc.standing _ _ (hM.issued _ _ hi)).unpinned
      · rw [Option.getD_some, hM.onward.document]
        exact Slot.sound_put rfl
      · show Layout.Extent.ofSpan (M.workspace.content node.file) _ = _
        rw [hcontent, Option.getD_some]

/-- An occurrence that shows a place stands in its context as the place does. -/
theorem agrees_occurrenceExtent {handle : Handle} {grammar : Microgrammar} {context : TextNode}
    {place : TextPlace} {born : Occurrence}
    {contextExtent : Act grammars (Option Layout.Extent)} (hle : L.since ≤ handle)
    (hs : L.ShowsText context place)
    (hc : Agrees S L (agreeing S).Same contextExtent (S.extent place)) :
    Agrees S L (agreeing S).Same
      (occurrenceExtent handle grammar context born contextExtent)
      ((S.extent place).bind fun base => (grammar.locate? born (S.value place)).map
        (.within base.start (S.value place))) := by
  refine hc.bind fun M base hM hbase => ?_
  obtain rfl : base = _ := hbase
  cases S.extent place with
  | none => exact agrees_pure rfl
  | some base =>
      refine (agrees_value (hM.showsText hs)).bind fun N whole hN hwhole =>
        agrees_of_correct fun hNc => agrees_get (agrees_pure ?_)
      obtain rfl : whole = _ := hwhole
      rw [hNc.found ((hM.trans hN).since ▸ hle)]
      rfl

/-- A node that shows a place starts and stops where the place does. -/
theorem agrees_extent {node : TextNode} {place : TextPlace} (hs : L.ShowsText node place) :
    Agrees S L (agreeing S).Same (extent node) (S.extent place) := by
  obtain ⟨rfl, hk, hi⟩ := hs
  induction node with
  | file path =>
      refine agrees_of_correct fun hL => agrees_get (agrees_pure ?_)
      rw [← L.workspace.content_snapshot, hL.snapshot]
      rfl
  | member node =>
      refine (agrees_memberExtent hi).bind fun M extent _ hextent => agrees_pure ?_
      exact congrArg some hextent
  | occurrence handle grammar context index born ih =>
      have hcontext : L.workspace.KnowsText context :=
        ⟨hk.1, fun h hm => hk.2 h (List.mem_cons_of_mem _ hm)⟩
      exact agrees_occurrenceExtent hi.1 ⟨rfl, hcontext, hi.2⟩ (ih hcontext hi.2)
  | binding handle grammar context index born name ih =>
      have hcontext : L.workspace.KnowsText context :=
        ⟨hk.1, fun h hm => hk.2 h (List.mem_cons_of_mem _ hm)⟩
      refine (agrees_occurrenceExtent hi.1 ⟨rfl, hcontext, hi.2⟩ (ih hcontext hi.2)).bind
        fun M base hM hbase => ?_
      have hplace : S.extent (TextNode.binding handle grammar context index born name).place =
          base.bind fun base => (born.captures.lookup name).map (.within base.start born.text) := by
        rw [show base = _ from hbase]
        rfl
      rw [hplace]
      cases base with
      | none => exact agrees_pure rfl
      | some base =>
          refine agrees_of_correct fun hMc => agrees_get (agrees_pure ?_)
          rw [hMc.found (hM.since ▸ hi.1)]
          rfl

-- ============================================================== types

open NodeType

/-- What a type finds from a node that shows a place shows what it finds from the place. -/
abbrev Found (S : Snapshot grammars) : Ledger grammars → Except NodeError (List Node) →
    Except NodeError (List Place) → Prop :=
  (agreeing S).Outcome ((agreeing S).Each Ledger.Shows)

theorem found_nil : Found S L (.ok []) (.ok []) := List.Forall₂.nil

theorem agrees_find_ofLanguage (language : Language) {node : Node} {place : Place}
    (hs : L.Shows node place) :
    Agrees S L (Found S) ((ofLanguage language).find node)
      (S.find (.language language) place) := by
  match node, place, hs with
  | .directory _, .directory _, _ => exact agrees_pure found_nil
  | .text (.member _), .text _, ⟨rfl, _, _⟩ => exact agrees_pure found_nil
  | .text (.occurrence ..), .text _, ⟨rfl, _, _⟩ => exact agrees_pure found_nil
  | .text (.binding ..), .text _, ⟨rfl, _, _⟩ => exact agrees_pure found_nil
  | .text (.file path), .text _, ⟨rfl, hk, _⟩ =>
      show Agrees S L (Found S) (do
          if Language.ofPath? (ProjectPath.write path) = some language then
            return .ok [.text (.member (← Act.viewRoot path language))]
          else return .ok [] : Act grammars (Except NodeError (List Node)))
        (if Language.ofPath? (ProjectPath.write path) = some language then
          .ok [.text (.member path language [])] else .ok [])
      by_cases hp : Language.ofPath? (ProjectPath.write path) = some language
      · rw [if_pos hp, if_pos hp]
        refine (agrees_viewRoot language hk.1).bind fun M root _ hroot => agrees_pure ?_
        exact List.Forall₂.cons hroot .nil
      · rw [if_neg hp, if_neg hp]
        exact agrees_pure found_nil

/-- The scope of a pattern is the location it is in the snapshot. -/
theorem agrees_patternScope (language : Language) {node : Node} {place : Place}
    (hs : L.Shows node place) :
    Agrees S L (fun M scope found => Option.Rel (fun n at_ =>
        M.ShowsText (.member n) (.member at_.1 at_.2.1 at_.2.2)) scope found)
      (patternScope language node) (Snapshot.patternScope language place) := by
  match node, place, hs with
  | .directory _, .directory _, _ => exact agrees_pure .none
  | .text (.occurrence ..), .text _, ⟨rfl, _, _⟩ => exact agrees_pure .none
  | .text (.binding ..), .text _, ⟨rfl, _, _⟩ => exact agrees_pure .none
  | .text (.member node), .text _, ⟨rfl, hk, hi⟩ =>
      show Agrees S L _ (pure (if node.language = language then some node else none))
        (if node.language = language then some (node.file, node.language, node.location)
          else none)
      refine agrees_pure ?_
      split
      · exact .some ⟨rfl, hk, hi⟩
      · exact .none
  | .text (.file path), .text _, ⟨rfl, hk, _⟩ =>
      show Agrees S L _ (do
          if Language.ofPath? (ProjectPath.write path) = some language then
            return some (← Act.viewRoot path language)
          else return none : Act grammars (Option MemberNode))
        (if Language.ofPath? (ProjectPath.write path) = some language then
          some (path, language, []) else none)
      by_cases hp : Language.ofPath? (ProjectPath.write path) = some language
      · rw [if_pos hp, if_pos hp]
        refine (agrees_viewRoot language hk.1).bind fun M root _ hroot => agrees_pure ?_
        exact .some hroot
      · rw [if_neg hp, if_neg hp]
        exact agrees_pure .none

theorem agrees_findPattern (pattern : StructuralPattern) (source : String) :
    Agrees S L (agreeing S).Same (NodeType.findPattern pattern source)
      (grammars.find pattern.language pattern.text source) := by
  refine agrees_of_keeps (keeps_findPattern pattern source) ?_ fun M _ _ => ?_
  · rw [findPattern_eq]
    exact ⟨rfl, rfl⟩
  · rw [findPattern_eq]
    rfl

theorem agrees_find_ofPattern (name : String) (pattern : StructuralPattern) {node : Node}
    {place : Place} (hs : L.Shows node place) :
    Agrees S L (Found S) ((ofPattern name pattern).find node)
      (S.find (.pattern name pattern) place) := by
  refine (agrees_patternScope pattern.language hs).bind fun M scope hM hscope => ?_
  unfold Snapshot.find
  simp only
  generalize Snapshot.patternScope pattern.language place = found at hscope
  cases hscope with
  | none => exact agrees_pure found_nil
  | @some node at_ hshow =>
      obtain ⟨file, language, location⟩ := at_
      obtain ⟨hplace, hk, hi⟩ := hshow
      obtain ⟨rfl, rfl, rfl⟩ := TextPlace.member.inj hplace
      refine agrees_of_correct fun hMc => ?_
      obtain ⟨tree, -, ht, hm⟩ := (hMc.standing _ _ hi).tree hMc.coherent
      rw [hMc.snapshot] at ht hm
      unfold Snapshot.findPattern
      simp only [ht]
      refine (agrees_span? hi).bind fun N span hN hspan => ?_
      obtain rfl : span = _ := hspan
      rw [hm]
      refine (agrees_consult node.language (hN.onward.project ▸ hk.1)).bind
        fun O _ hO _ => agrees_of_correct fun hOc => agrees_get ?_
      have hNO := hN.trans hO
      have hcontent : O.workspace.content node.file = S.content node.file := by
        rw [← O.workspace.content_snapshot, hOc.snapshot]
      rw [hcontent]
      refine (agrees_findPattern pattern _).bind fun P matched hP hmatched => ?_
      obtain rfl : matched = _ := hmatched
      cases grammars.find pattern.language pattern.text (S.content node.file) with
      | none => exact agrees_pure rfl
      | some matched =>
          simp only
          rw [hOc.coherent.view_snapshot, hOc.snapshot]
          refine Agrees.bind (R := fun M => List.Forall₂ M.Shows) (agrees_mapM
            (fun M N x y hMN => hMN.shows) fun entry he Q hQ => ?_)
            fun Q nodes _ hnodes => agrees_pure hnodes
          obtain ⟨m, -, hfound⟩ := List.mem_filterMap.1 he
          obtain ⟨⟨index, found⟩, hf, rfl⟩ := Option.map_eq_some_iff.1 hfound
          obtain ⟨part, hpart, -⟩ :=
            View.at?_of_mem_entries (View.mem_entries_of_findBySpan? hf).1
          have hres : (S.tree? node.file node.language found.location).isSome := by
            unfold Snapshot.tree?
            rw [hpart]
            rfl
          refine (agrees_newMember found.member
            ((hNO.trans (hP.trans hQ)).onward.project ▸ hk.1) hres).bind fun Q n _ hn => ?_
          exact agrees_pure hn

theorem agrees_find_ofMicrogrammar (grammar : Microgrammar) {node : Node} {place : Place}
    (hs : L.Shows node place) :
    Agrees S L (Found S) ((ofMicrogrammar grammar).find node)
      (S.find (.microgrammar grammar) place) := by
  match node, place, hs with
  | .directory _, .directory _, _ => exact agrees_pure found_nil
  | .text context, .text place, hs =>
      refine (agrees_value hs).bind fun M text hM htext => ?_
      obtain rfl : text = _ := htext
      refine Agrees.bind (R := fun M => List.Forall₂ M.Shows) (agrees_mapM
        (g := fun entry : Occurrence × Nat =>
          Place.text (.occurrence grammar place entry.2 entry.1))
        (fun M N x y hMN => hMN.shows) fun entry _ N hN => ?_)
        fun N nodes _ hnodes => agrees_pure hnodes
      obtain ⟨seen, index⟩ := entry
      refine agrees_newHandle.bind fun N handle hNN hhandle => agrees_pure ?_
      obtain ⟨rfl, hk, hi⟩ := (hM.trans (hN.trans hNN)).showsText hs
      refine ⟨rfl, ⟨hk.1, fun h hm => ?_⟩, hhandle.1, hi⟩
      rcases List.mem_cons.1 hm with rfl | hm
      · exact hhandle.2
      · exact hk.2 h hm

-- ========================================================= evaluation

/-- A workspace answers the questions of queries as its snapshot does. -/
theorem forests_agreeing (S : Snapshot grammars) :
    (agreeing S).Forests Ledger.Shows (Workspace.forest grammars) S.forest where
  persistent M N x y hMN hs := hMN.shows hs
  address {L x y} hs := by
    match x, y, hs with
    | .directory _, .directory _, rfl => rfl
    | .text node, .text _, ⟨rfl, _, _⟩ => exact (TextNode.address_place node).symm
  name hs := agrees_look_then hs fun M hM hMc => (name_of_shows hMc (hM.shows hs)).1
  tags hs := agrees_look_then hs fun M hM hMc => (name_of_shows hMc (hM.shows hs)).2
  property key hs := agrees_look_then hs fun M hM hMc => property_of_shows hMc (hM.shows hs) key
  children hs := agrees_children hs
  extent hs := agrees_of_correct fun hL => agrees_get (agrees_pure (bound_of_shows hL hs))

/-- The library's types find in a workspace what they find in its snapshot. -/
theorem types_agreeing (S : Snapshot grammars) (type : BuiltIn) :
    (agreeing S).Types Ledger.Shows type.provider (S.provider type) := by
  intro L x y hs
  cases type with
  | language l => exact agrees_find_ofLanguage l hs
  | pattern name p => exact agrees_find_ofPattern name p hs
  | microgrammar g => exact agrees_find_ofMicrogrammar g hs

theorem registries_agreeing (S : Snapshot grammars) (types : Query.Registry BuiltIn) :
    (agreeing S).Registries Ledger.Shows (types.map BuiltIn.provider)
      (types.map S.provider) :=
  Comparison.registries_map (types_agreeing S) types

theorem agrees_program (expression : String) :
    Agrees S L (agreeing S).Same (Engine.program expression).run
      ((Expression.compile expression).mapError EngineError.parse) := by
  refine agrees_of_keeps (Engine.keeps_program expression) ?_ fun M _ hp => hp
  rw [Engine.program_eq]
  exact ⟨rfl, rfl⟩

/-- An expression finds in a workspace what it finds in its snapshot. -/
theorem agrees_evaluate (types : Query.Registry BuiltIn) (dedupe : Bool) (expression : String)
    {root : Node} {place : Place} (hs : L.Shows root place) :
    Agrees S L ((agreeing S).Outcome ((agreeing S).Each Ledger.Shows))
      ((Engine.ofTypes grammars types dedupe).evaluate expression root).run
      (S.evaluate types dedupe expression place) := by
  rw [Engine.evaluate_run]
  refine (agrees_program expression).bind fun M result hM hresult => ?_
  obtain rfl : result = _ := hresult
  unfold Snapshot.evaluate
  cases Expression.compile expression with
  | error e => exact agrees_pure rfl
  | ok program =>
      have hfound := Comparison.alike_evaluate (forests_agreeing S) (registries_agreeing S types)
        dedupe program (hM.shows hs)
      refine Agrees.bind hfound fun N found _ hout => ?_
      simp only
      generalize (Query.evaluate S.forest (types.map S.provider) dedupe program place).run =
        answer at hout
      match found, answer, hout with
      | .error failure, .error _, rfl => exact agrees_pure rfl
      | .ok found, .ok answer, hout => exact agrees_pure hout

-- ============================================================= sights

/-- A node that shows a place looks like it. -/
theorem agrees_sight {node : Node} {place : Place} (hs : L.Shows node place) :
    Agrees S L (agreeing S).Same (sight node) (S.sight place) := by
  refine Agrees.bind ((forests_agreeing S).name hs) fun M name hM hname => ?_
  refine Agrees.bind ((forests_agreeing S).tags (hM.shows hs)) fun N tags hN htags => ?_
  refine agrees_of_correct fun hNc => agrees_get ?_
  have hsN := hN.shows (hM.shows hs)
  have hproperty : (fun key => ((Workspace.forest grammars).property node key N.workspace).1) =
      S.property place := by
    funext key
    obtain ⟨_, -, -, -, h⟩ := (forests_agreeing S).property key hsN hNc
    exact h
  have haddress : node.address = place.address := (forests_agreeing S).address hsN
  obtain rfl : name = _ := hname
  obtain rfl : tags = _ := htags
  rw [hproperty, haddress]
  match node, place, hsN with
  | .directory _, .directory _, _ => exact agrees_pure rfl
  | .text node, .text place, hsN =>
      refine (agrees_value hsN).bind fun O value hO hvalue => ?_
      refine (agrees_extent (hO.showsText hsN)).bind fun P extent hP hextent => agrees_pure ?_
      obtain rfl : value = _ := hvalue
      obtain rfl : extent = _ := hextent
      rfl

theorem agrees_survey (types : Query.Registry BuiltIn) (dedupe : Bool) (expression : String) :
    Agrees S L (agreeing S).Same
      ((Engine.ofTypes grammars types dedupe).survey expression).run
      (S.survey types dedupe expression) := by
  unfold Engine.survey Snapshot.survey
  rw [ExceptT.run_bind]
  refine (@agrees_evaluate grammars S L types dedupe expression (.directory []) (.directory [])
    rfl).bind fun M found hM hfound => ?_
  generalize S.evaluate types dedupe expression (.directory []) = answer at hfound
  match found, answer, hfound with
  | .error e, .error _, rfl => exact agrees_pure rfl
  | .ok nodes, .ok places, hfound =>
      have hsights : Agrees S M (agreeing S).Same (nodes.mapM sight) (places.map S.sight) := by
        have hfound : List.Forall₂ M.Shows nodes places := hfound
        clear * -hfound
        induction nodes generalizing M places with
        | nil =>
            cases hfound
            rw [List.mapM_nil]
            exact agrees_pure rfl
        | cons node nodes ih =>
            cases hfound with
            | @cons _ place _ places hs hrest =>
                rw [List.mapM_cons]
                refine (agrees_sight hs).bind fun N seen hN hseen => ?_
                refine (ih _ _ (hrest.imp fun x y => hN.shows)).bind fun O sights _ hsights => ?_
                obtain rfl : seen = _ := hseen
                obtain rfl : sights = _ := hsights
                exact agrees_pure rfl
      show Agrees S M (agreeing S).Same ((Except.ok <$> nodes.mapM sight : Act grammars _))
        (.ok (places.map S.sight))
      rw [map_eq_pure_bind]
      refine hsights.bind fun N sights _ h => agrees_pure ?_
      exact congrArg Except.ok h

end Act

/-- With nothing found yet there is nothing to remember. -/
theorem Workspace.Coherent.correct {w : Workspace grammars} (hw : w.Coherent) :
    (⟨w, w.nextHandle, fun _ => none⟩ : Ledger grammars).Correct w.snapshot :=
  ⟨hw, rfl, Nat.le_refl _, by rintro _ _ ⟨⟩, by rintro _ _ ⟨⟩, hw.occurrences⟩

/-- What a coherent workspace shows is what its snapshot shows. -/
theorem Workspace.Coherent.survey_eq {w : Workspace grammars} (hw : w.Coherent)
    (types : Query.Registry BuiltIn) (dedupe : Bool) (expression : String) :
    (((Engine.ofTypes grammars types dedupe).survey expression).run w).1 =
      w.snapshot.survey types dedupe expression := by
  obtain ⟨_, -, -, -, h⟩ := Act.agrees_survey types dedupe expression hw.correct
  exact h

end TreeQuery
