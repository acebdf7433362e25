/-
What a question leaves alone.

A question may hold views, give out handles and let nodes remember what they have seen. None of
that moves a node: the texts are the same afterwards, and with them the views; occurrences are
what they were; and no node has pinned another span. `Workspace.Unmoved` says so of two
workspaces, and whatever a node's place is worked out from can be carried over
(`Unmoved.span?`, `Unmoved.found`).

# Genuine nodes

Nodes are data, and not all data that have the type of a node come from a question. A node in a
view is found without a span of its own: it pins one when it writes, and that is remembered in the
workspace. And an occurrence is found with captures that are ranges of its text. `Node.Genuine`
asks for both, of a node and of all those it was found in.

# The contract

`Act.Asks` is the contract of one computation: from whatever workspace it starts, it leaves the
nodes unmoved, and what it returns has a property. It goes along `bind`; there is a lemma for each
question, and through a comparison of evaluations with themselves (`asking`) one for evaluations.
Unlike `Act.Keeps` it needs to know nothing of the workspace.
-/
import TreeQuery.Proofs.Microgrammar.Captures
import TreeQuery.Proofs.Workspace.Records
import TreeQuery.Proofs.Workspace.Splicing

namespace TreeQuery

open Text (Span)

variable {grammars : Grammars}

-- ============================================================== nodes

namespace TextNode

/-- The node can have been found: a node in a view has no span of its own from birth, and
occurrences capture ranges of their texts. -/
def Genuine : TextNode → Prop
  | .file _ => True
  | .member node => node.born.pinned = none
  | .occurrence _ _ context _ born => context.Genuine ∧ born.Sliceable
  | .binding _ _ context _ born _ => context.Genuine ∧ born.Sliceable

end TextNode

/-- The node can have been found. -/
def Node.Genuine : Node → Prop
  | .text node => node.Genuine
  | _ => True

-- =========================================================== workspaces

namespace Workspace

variable {w v later : Workspace grammars}

/-- What has been written under a handle, if nothing has been seen there since birth but that. -/
def pin (w : Workspace grammars) (handle : Handle) : Option (Generation × Span) :=
  (w.memories.lookup handle).bind Memory.pinned

/-- All nodes stand where they stood. -/
structure Unmoved (w later : Workspace grammars) : Prop where
  project : later.project = w.project
  occurrences : later.occurrences = w.occurrences
  view : ∀ file language, later.view file language = w.view file language
  pin : ∀ handle, later.pin handle = w.pin handle

theorem Unmoved.refl (w : Workspace grammars) : w.Unmoved w :=
  ⟨rfl, rfl, fun _ _ => rfl, fun _ => rfl⟩

theorem Unmoved.trans (h : w.Unmoved v) (h' : v.Unmoved later) : w.Unmoved later where
  project := h'.project.trans h.project
  occurrences := h'.occurrences.trans h.occurrences
  view file language := (h'.view file language).trans (h.view file language)
  pin handle := (h'.pin handle).trans (h.pin handle)

theorem Unmoved.document (h : w.Unmoved later) (file : ProjectPath) :
    later.document file = w.document file :=
  document_of_project h.project file

theorem Unmoved.content (h : w.Unmoved later) (file : ProjectPath) :
    later.content file = w.content file :=
  content_of_project h.project file

theorem Unmoved.found (h : w.Unmoved later) (handle : Handle) (born : Occurrence) :
    later.found handle born = w.found handle born := by
  unfold Workspace.found
  rw [h.occurrences]

/-- A node without a span from birth has the one that is remembered. -/
theorem memory_pinned {node : MemberNode} (hn : node.born.pinned = none) :
    (w.memory node).pinned = w.pin node.handle := by
  unfold memory Workspace.pin
  cases w.memories.lookup node.handle with
  | none => exact hn
  | some memory => rfl

theorem Unmoved.pinned? (h : w.Unmoved later) {node : MemberNode}
    (hn : node.born.pinned = none) : later.pinned? node = w.pinned? node := by
  refine pinned?_congr node h.project ?_
  rw [memory_pinned hn, memory_pinned hn, h.pin]

theorem Unmoved.resolve? (h : w.Unmoved later) (node : MemberNode) :
    later.resolve? node = w.resolve? node := by
  unfold Workspace.resolve?
  rw [h.view]

theorem Unmoved.span? (h : w.Unmoved later) {node : MemberNode} (hn : node.born.pinned = none) :
    later.span? node = w.span? node := by
  unfold Workspace.span?
  rw [h.pinned? hn, h.resolve?]

theorem unmoved_holdView (w : Workspace grammars) (file : ProjectPath) (language : Language) :
    w.Unmoved (w.holdView file language) := by
  obtain ⟨hproject, hmemories, hoccurrences⟩ := w.holdView_fields file language
  refine ⟨hproject, hoccurrences, fun other language' => w.view_holdView file other _ _,
    fun handle => ?_⟩
  unfold Workspace.pin
  rw [hmemories]

/-- A node that remembers something else but the span. -/
theorem unmoved_remember {node : MemberNode} {memory : Memory} (hn : node.born.pinned = none)
    (h : memory.pinned = (w.memory node).pinned) : w.Unmoved (w.remember node memory) := by
  refine ⟨rfl, rfl, fun file language => rfl, fun handle => ?_⟩
  show (List.lookup handle ((node.handle, memory) :: _)).bind Memory.pinned = _
  rw [lookup_cons_filter]
  by_cases he : handle = node.handle
  · rw [if_pos he, he, Option.bind_some, h, memory_pinned hn]
  · rw [if_neg he]
    rfl

theorem unmoved_memberValue {node : MemberNode} (hn : node.born.pinned = none) :
    w.Unmoved (w.memberValue node).2 := by
  have hheld := w.unmoved_holdView node.file node.language
  rcases w.memberValue_cases node with h | ⟨-, h⟩ | ⟨-, memory, hpin, h⟩
  · rw [h]
    exact .refl w
  · rw [h]
    exact hheld
  · rw [h]
    refine hheld.trans (unmoved_remember hn ?_)
    rw [hpin, memory_pinned hn, memory_pinned hn, hheld.pin]

end Workspace

-- ============================================================ contracts

namespace Act

open Workspace

variable {α β : Type} {w : Workspace grammars} {P : α → Prop} {Q : β → Prop}

/-- The computation moves no node, and returns what has the property. -/
def Asks (a : Act grammars α) (P : α → Prop) : Prop := ∀ w, w.Unmoved (a w).2 ∧ P (a w).1

theorem asks_pure {x : α} (h : P x) : Asks (pure x : Act grammars α) P :=
  fun w => ⟨.refl w, h⟩

theorem Asks.bind {a : Act grammars α} {f : α → Act grammars β} (ha : Asks a P)
    (hf : ∀ x, P x → Asks (f x) Q) : Asks (a >>= f) Q := by
  intro w
  obtain ⟨hv, hx⟩ := ha w
  obtain ⟨hlater, hy⟩ := hf _ hx (a w).2
  exact ⟨hv.trans hlater, hy⟩

theorem asks_get {f : Workspace grammars → Act grammars β} (h : ∀ w, Asks (f w) Q) :
    Asks (get >>= f) Q := fun w => h w w

/-- One question for each entry of a list. -/
theorem asks_mapM {ι : Type} {f : ι → Act grammars α} {entries : List ι}
    (h : ∀ i ∈ entries, Asks (f i) P) : Asks (entries.mapM f) fun xs => ∀ x ∈ xs, P x := by
  induction entries with
  | nil =>
      rw [List.mapM_nil]
      exact asks_pure fun x hx => by cases hx
  | cons i rest ih =>
      rw [List.mapM_cons]
      refine (h i List.mem_cons_self).bind fun x hx => ?_
      refine (ih fun j hj => h j (List.mem_cons_of_mem _ hj)).bind fun xs hxs => ?_
      exact asks_pure (List.forall_mem_cons.2 ⟨hx, hxs⟩)

-- ============================================================== looking

theorem asks_consult (file : ProjectPath) (language : Language) :
    Asks (consult file language : Act grammars Unit) fun _ => True :=
  fun w => ⟨w.unmoved_holdView file language, trivial⟩

theorem asks_look (node : Node) : Asks (look node : Act grammars Unit) fun _ => True := by
  cases node with
  | directory path => exact asks_pure trivial
  | detached tree => exact asks_pure trivial
  | text node =>
      cases node with
      | member node => exact asks_consult node.file node.language
      | file path => exact asks_pure trivial
      | occurrence handle grammar context index born => exact asks_pure trivial
      | binding handle grammar context index born name => exact asks_pure trivial

theorem asks_newHandle : Asks (newHandle : Act grammars Handle) fun _ => True :=
  fun _ => ⟨⟨rfl, rfl, fun _ _ => rfl, fun _ => rfl⟩, trivial⟩

theorem asks_newMember (file : ProjectPath) (language : Language) (location : Location)
    (member : Member) : Asks (newMember file language location member : Act grammars MemberNode)
      fun node => node.born.pinned = none :=
  asks_newHandle.bind fun _ _ => asks_get fun _ => asks_pure rfl

theorem asks_viewRoot (file : ProjectPath) (language : Language) :
    Asks (viewRoot file language : Act grammars MemberNode) fun node => node.born.pinned = none :=
  (asks_consult file language).bind fun _ _ => asks_get fun _ => asks_newMember _ _ _ _

-- ============================================================== walking

theorem asks_memberChildren (node : MemberNode) :
    Asks (memberChildren node : Act grammars (List Node)) fun nodes => ∀ n ∈ nodes, n.Genuine := by
  refine (asks_consult node.file node.language).bind fun _ _ => asks_get fun w => ?_
  cases w.resolve? node with
  | none => exact asks_pure fun n hn => by cases hn
  | some tree =>
      refine asks_mapM fun i _ => ?_
      obtain ⟨segment, child⟩ := i
      exact (asks_newMember _ _ _ _).bind fun n hn => asks_pure hn

theorem asks_children {node : Node} (hn : node.Genuine) :
    Asks (children node : Act grammars (List Node)) fun nodes => ∀ n ∈ nodes, n.Genuine := by
  cases node with
  | directory path =>
      refine asks_get fun _ => asks_pure fun n hm => ?_
      obtain ⟨name, -, rfl⟩ := List.mem_map.1 hm
      unfold Workspace.entry
      dsimp only
      split
      · trivial
      · trivial
  | detached tree =>
      refine asks_pure fun n hm => ?_
      obtain ⟨child, -, rfl⟩ := List.mem_map.1 hm
      trivial
  | text node =>
      cases node with
      | file path => exact asks_pure fun n hm => by cases hm
      | member node => exact asks_memberChildren node
      | binding handle grammar context index born name => exact asks_pure fun n hm => by cases hm
      | occurrence handle grammar context index born =>
          refine asks_get fun _ => asks_pure fun n hm => ?_
          obtain ⟨⟨name, span⟩, -, rfl⟩ := List.mem_map.1 hm
          exact hn

theorem asks_textParent {node : TextNode} (hn : node.Genuine) :
    Asks (textParent node : Act grammars Node) Node.Genuine := by
  cases node with
  | file path => exact asks_pure trivial
  | occurrence handle grammar context index born => exact asks_pure hn.1
  | binding handle grammar context index born name => exact asks_pure hn
  | member node =>
      unfold textParent
      dsimp only
      split
      · exact asks_pure trivial
      · refine (asks_consult node.file node.language).bind fun _ _ => asks_get fun w => ?_
        cases (w.view node.file node.language).at? node.location.dropLast with
        | none => exact asks_pure trivial
        | some tree => exact (asks_newMember _ _ _ _).bind fun n hn => asks_pure hn

theorem asks_parent? {node : Node} (hn : node.Genuine) :
    Asks (parent? node : Act grammars (Option Node)) fun above => ∀ n ∈ above, n.Genuine := by
  cases node with
  | directory path =>
      refine asks_pure fun n hm => ?_
      split at hm
      · cases hm
      · obtain rfl := Option.mem_some_iff.1 hm
        trivial
  | detached tree => exact asks_pure fun n hm => by cases hm
  | text node =>
      refine (asks_textParent hn).bind fun above ha => asks_pure fun n hm => ?_
      obtain rfl := Option.mem_some_iff.1 hm
      exact ha

theorem asks_ancestorsWithin (fuel : Nat) {node : Node} (hn : node.Genuine) :
    Asks (ancestorsWithin fuel node : Act grammars (List Node))
      fun nodes => ∀ n ∈ nodes, n.Genuine := by
  induction fuel generalizing node with
  | zero => exact asks_pure fun n hm => by cases hm
  | succ fuel ih =>
      refine (asks_parent? hn).bind fun above ha => ?_
      cases above with
      | none => exact asks_pure fun n hm => by cases hm
      | some above =>
          have habove := ha above rfl
          exact (ih habove).bind fun nodes hns => asks_pure (List.forall_mem_cons.2 ⟨habove, hns⟩)

-- ======================================================= values, layout

theorem asks_value {node : TextNode} (hn : node.Genuine) :
    Asks (value node : Act grammars String) fun _ => True := by
  cases node with
  | file path => exact fun w => ⟨.refl w, trivial⟩
  | occurrence handle grammar context index born => exact fun w => ⟨.refl w, trivial⟩
  | binding handle grammar context index born name => exact fun w => ⟨.refl w, trivial⟩
  | member node => exact fun w => ⟨unmoved_memberValue hn, trivial⟩

theorem asks_span? (node : MemberNode) :
    Asks (span? node : Act grammars (Option Span)) fun _ => True := by
  refine asks_get fun w => ?_
  by_cases hp : (w.pinned? node).isNone = true
  · rw [if_pos hp]
    exact (asks_consult node.file node.language).bind fun _ _ => asks_get fun _ => asks_pure trivial
  · rw [if_neg hp]
    exact asks_get fun _ => asks_pure trivial

theorem asks_memberExtent {node : MemberNode} (hn : node.born.pinned = none) :
    Asks (memberExtent node : Act grammars Layout.Extent) fun _ => True := by
  intro w
  obtain ⟨hasked, -⟩ := asks_span? node w
  refine ⟨?_, trivial⟩
  rcases memberExtent_snd node w with h | ⟨slot, h⟩
  · rw [h]
    exact .refl w
  · rw [h]
    exact hasked.trans (unmoved_remember hn rfl)

theorem asks_occurrenceExtent {handle : Handle} {grammar : Microgrammar} {context : TextNode}
    {born : Occurrence} {contextExtent : Act grammars (Option Layout.Extent)}
    (hn : context.Genuine) (hc : Asks contextExtent fun _ => True) :
    Asks (occurrenceExtent handle grammar context born contextExtent) fun _ => True := by
  refine hc.bind fun base _ => ?_
  cases base with
  | none => exact asks_pure trivial
  | some base =>
      exact (asks_value hn).bind fun whole _ => asks_get fun _ => asks_pure trivial

theorem asks_extent {node : TextNode} (hn : node.Genuine) :
    Asks (extent node : Act grammars (Option Layout.Extent)) fun _ => True := by
  induction node with
  | file path => exact asks_get fun _ => asks_pure trivial
  | member node => exact (asks_memberExtent hn).bind fun extent _ => asks_pure trivial
  | occurrence handle grammar context index born ih =>
      exact asks_occurrenceExtent hn.1 (ih hn.1)
  | binding handle grammar context index born name ih =>
      refine (asks_occurrenceExtent hn.1 (ih hn.1)).bind fun base _ => ?_
      cases base with
      | none => exact asks_pure trivial
      | some base => exact asks_get fun _ => asks_pure trivial

-- ================================================================ types

open NodeType

theorem asks_findPattern (pattern : StructuralPattern) (source : String) :
    Asks (findPattern pattern source : Act grammars (Option (List PatternMatch)))
      fun _ => True := by
  intro w
  rw [findPattern_eq]
  exact ⟨⟨rfl, rfl, fun _ _ => rfl, fun _ => rfl⟩, trivial⟩

theorem asks_patternScope (language : Language) (node : Node) :
    Asks (patternScope language node : Act grammars (Option MemberNode)) fun _ => True := by
  unfold patternScope
  split
  · exact asks_pure trivial
  · split
    · exact (asks_viewRoot _ _).bind fun n _ => asks_pure trivial
    · exact asks_pure trivial
  · exact asks_pure trivial

/-- What a type answers with: nodes that have been found, or an error. -/
def FindsGenuine (found : Except NodeError (List Node)) : Prop :=
  ∀ nodes, found = .ok nodes → ∀ n ∈ nodes, n.Genuine

theorem findsGenuine_ok {nodes : List Node} (h : ∀ n ∈ nodes, n.Genuine) :
    FindsGenuine (.ok nodes) := by
  intro others he
  obtain rfl := Except.ok.inj he
  exact h

theorem findsGenuine_nil : FindsGenuine (.ok []) :=
  findsGenuine_ok fun n hn => by cases hn

theorem asks_find_ofLanguage (language : Language) (node : Node) :
    Asks ((ofLanguage language : NodeType grammars).find node) FindsGenuine := by
  unfold ofLanguage
  dsimp only
  cases node.asFile? with
  | none => exact asks_pure findsGenuine_nil
  | some path =>
      dsimp only
      split
      · refine (asks_viewRoot path language).bind fun root hroot =>
          asks_pure (findsGenuine_ok fun n hn => ?_)
        obtain rfl := List.mem_singleton.1 hn
        exact hroot
      · exact asks_pure findsGenuine_nil

theorem asks_find_ofPattern (name : String) (pattern : StructuralPattern) (node : Node) :
    Asks ((ofPattern name pattern : NodeType grammars).find node) FindsGenuine := by
  refine (asks_patternScope pattern.language node).bind fun scope _ => ?_
  cases scope with
  | none => exact asks_pure findsGenuine_nil
  | some scope =>
      refine (asks_span? scope).bind fun span _ => ?_
      cases span with
      | none => exact asks_pure findsGenuine_nil
      | some span =>
          refine (asks_consult scope.file scope.language).bind fun _ _ => asks_get fun w => ?_
          refine (asks_findPattern pattern _).bind fun matched _ => ?_
          cases matched with
          | none => exact asks_pure fun nodes he => by cases he
          | some matched =>
              refine Asks.bind (P := fun nodes => ∀ n ∈ nodes, n.Genuine) ?_ fun nodes hnodes =>
                asks_pure (findsGenuine_ok hnodes)
              refine asks_mapM fun entry _ => ?_
              exact (asks_newMember _ _ _ _).bind fun n hn => asks_pure hn

theorem asks_find_ofMicrogrammar (grammar : Microgrammar) {node : Node} (hn : node.Genuine) :
    Asks ((ofMicrogrammar grammar : NodeType grammars).find node) FindsGenuine := by
  cases node with
  | directory path => exact asks_pure findsGenuine_nil
  | detached tree => exact asks_pure findsGenuine_nil
  | text context =>
      refine (asks_value hn).bind fun text _ => ?_
      refine Asks.bind (P := fun nodes => ∀ n ∈ nodes, n.Genuine) ?_ fun nodes hnodes =>
        asks_pure (findsGenuine_ok hnodes)
      refine asks_mapM fun entry hentry => asks_newHandle.bind fun handle _ => asks_pure ?_
      exact ⟨hn, Microgrammar.sliceable_of_mem_scan (List.fst_mem_of_mem_zipIdx hentry)⟩

/-- The library's types find genuine nodes. -/
theorem asks_find (type : BuiltIn) {node : Node} (hn : node.Genuine) :
    Asks ((type.provider : NodeType grammars).find node) FindsGenuine := by
  cases type with
  | language l => exact asks_find_ofLanguage l node
  | pattern name p => exact asks_find_ofPattern name p node
  | microgrammar g => exact asks_find_ofMicrogrammar g hn

end Act

-- ========================================================== evaluation

open Query (Comparison)

/-- Each computation compared with itself: it moves no node, and answers with genuine nodes. There
is nothing to be known of the workspace it starts from, so there is one world only. -/
def asking (grammars : Grammars) : Comparison (Act grammars) (Act grammars) where
  World := Unit
  le _ _ := True
  refl _ := trivial
  trans _ _ := trivial
  Alike _ R a b := ∀ w, (b w).2 = (a w).2 ∧ w.Unmoved (a w).2 ∧ R () (a w).1 (b w).1
  pure h := fun w => ⟨rfl, .refl w, h⟩
  bind {α β γ δ W R Q a b f g} ha hf := by
    intro w
    obtain ⟨hst, hv, hx⟩ := ha w
    obtain ⟨hst', hlater, hy⟩ := hf () _ _ trivial hx (a w).2
    show ((g (b w).1) (b w).2).2 = ((f (a w).1) (a w).2).2 ∧
      w.Unmoved ((f (a w).1) (a w).2).2 ∧
        Q () ((f (a w).1) (a w).2).1 ((g (b w).1) (b w).2).1
    rw [hst]
    exact ⟨hst', hv.trans hlater, hy⟩

namespace Act

variable {α : Type}

/-- A question is alike with itself. -/
theorem Asks.alike {R : Unit → α → α → Prop} {a : Act grammars α} (h : a.Asks fun x => R () x x) :
    (asking grammars).Alike () R a a := fun w => ⟨rfl, h w⟩

/-- What evaluations find is genuine. -/
def SameGenuine (_ : Unit) (x y : Node) : Prop := x = y ∧ x.Genuine

theorem each_sameGenuine {xs ys : List Node} :
    (asking grammars).Each SameGenuine () xs ys ↔ xs = ys ∧ ∀ x ∈ xs, x.Genuine :=
  Comparison.each_same_iff

theorem asks_look_then (node : Node) (f : Workspace grammars → α) :
    Asks (do Act.look node; return f (← get)) fun _ => True :=
  (asks_look node).bind fun _ _ => asks_get fun _ => asks_pure trivial

theorem Asks.imp {a : Act grammars α} {P P' : α → Prop} (h : a.Asks P) (hP : ∀ x, P x → P' x) :
    a.Asks P' := fun w => ⟨(h w).1, hP _ (h w).2⟩

/-- The forest answers with genuine nodes. -/
theorem forests_asking : (asking grammars).Forests SameGenuine (Workspace.forest grammars)
    (Workspace.forest grammars) where
  persistent _ _ _ _ _ h := h
  address := by
    intro _ x y ⟨heq, _⟩
    rw [heq]
  name := by
    intro _ x y ⟨heq, _⟩
    subst heq
    exact ((asks_look_then x fun w => w.name x).imp fun _ _ => rfl).alike
  tags := by
    intro _ x y ⟨heq, _⟩
    subst heq
    exact ((asks_look_then x fun w => w.tags x).imp fun _ _ => rfl).alike
  property := by
    intro _ x y key ⟨heq, _⟩
    subst heq
    exact ((asks_look_then x fun w => w.property x key).imp fun _ _ => rfl).alike
  children := by
    intro _ x y ⟨heq, hx⟩
    subst heq
    exact ((asks_children hx).imp fun _ h => each_sameGenuine.2 ⟨rfl, h⟩).alike
  extent := by
    intro _ x y ⟨heq, _⟩
    subst heq
    exact fun w => ⟨rfl, .refl w, rfl⟩

/-- The library's types answer with genuine nodes. -/
theorem types_asking (type : BuiltIn) :
    (asking grammars).Types SameGenuine type.provider type.provider := by
  intro _ x y ⟨heq, hx⟩
  subst heq
  refine ((asks_find type hx).imp fun found h => ?_).alike
  cases found with
  | error e => exact rfl
  | ok nodes => exact (@each_sameGenuine grammars _ _).2 ⟨rfl, h nodes rfl⟩

theorem registries_asking (types : Query.Registry BuiltIn) :
    (asking grammars).Registries SameGenuine (types.map BuiltIn.provider)
      (types.map BuiltIn.provider) :=
  Comparison.registries_map types_asking types

end Act

namespace Engine

open Act

theorem asks_program (expression : String) :
    Asks (program expression : ExceptT EngineError (Act grammars) _).run fun _ => True := by
  intro w
  rw [program_eq]
  exact ⟨⟨rfl, rfl, fun _ _ => rfl, fun _ => rfl⟩, trivial⟩

/-- Whatever an expression finds is genuine, and evaluating it moves nothing. -/
theorem asks_evaluate (types : Query.Registry BuiltIn) (dedupe : Bool) (expression : String)
    {root : Node} (hr : root.Genuine) :
    Asks ((ofTypes grammars types dedupe).evaluate expression root).run
      fun result => ∀ nodes, result = .ok nodes → ∀ n ∈ nodes, n.Genuine := by
  rw [evaluate_run]
  refine (asks_program expression).bind fun result _ => ?_
  cases result with
  | error e => exact asks_pure fun nodes he => by cases he
  | ok program =>
      have hfound := Comparison.alike_evaluate (@forests_asking grammars) (registries_asking types)
        dedupe program (show SameGenuine () root root from ⟨rfl, hr⟩)
      refine Asks.bind (P := fun found => ∀ nodes, found = .ok nodes → ∀ n ∈ nodes, n.Genuine)
        (fun w => ?_) fun found hf => ?_
      · obtain ⟨-, hunmoved, hout⟩ := hfound w
        refine ⟨hunmoved, fun nodes hok => ?_⟩
        have hout : (asking grammars).Outcome ((asking grammars).Each SameGenuine) () (.ok nodes)
            (.ok nodes) := hok ▸ hout
        exact ((@each_sameGenuine grammars _ _).1 hout).2
      · cases found with
        | error failure => exact asks_pure fun nodes he => by cases he
        | ok found =>
            refine asks_pure fun nodes he => ?_
            obtain rfl := Except.ok.inj he
            exact hf _ rfl

end Engine

end TreeQuery
