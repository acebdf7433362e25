/-
What looking keeps. A question put to a workspace may hold views, give out handles and let
nodes remember what they have seen, but it changes no document, leaves the workspace coherent,
and answers only with nodes the workspace knows.

# The contract

`Act.Keeps` is the contract of one computation from one workspace: if the workspace is
coherent, the one after it is coherent too and lies onward of it, and what is returned has a
property there. The contract goes along `bind` (`Keeps.bind`), since what is known stays known
(`Onward.knows`). One lemma for each operation says what it returns.

# Evaluations

Contracts of computations make a comparison of evaluations, that of each with itself
(`keeping`): with it the contract of evaluation follows from those of the forest and of the
types (`keeps_evaluate`).
-/
import TreeQuery.Proofs.Engine.Types
import TreeQuery.Proofs.Query.Comparison
import TreeQuery.Proofs.Workspace.Coherent

namespace TreeQuery

open Text (Span)

-- ======================================================= nodes known

namespace Workspace

variable {grammars : Grammars} {w v later : Workspace grammars}

/-- The node's file is there, and its handles have been given out. -/
def KnowsText (w : Workspace grammars) (node : TextNode) : Prop :=
  (w.project.document? node.owner).isSome ∧ ∀ handle ∈ node.handles, handle < w.nextHandle

/-- The node is one the workspace can have answered with. -/
def Knows (w : Workspace grammars) : Node → Prop
  | .text node => w.KnowsText node
  | _ => True

/-- The same project, with more handles given out. -/
structure Onward (w later : Workspace grammars) : Prop where
  project : later.project = w.project
  handles : w.nextHandle ≤ later.nextHandle

theorem Onward.refl (w : Workspace grammars) : w.Onward w := ⟨rfl, Nat.le_refl _⟩

theorem Onward.trans (h : w.Onward v) (h' : v.Onward later) : w.Onward later :=
  ⟨h'.project.trans h.project, Nat.le_trans h.handles h'.handles⟩

theorem Onward.knowsText (h : w.Onward later) {node : TextNode} (hn : w.KnowsText node) :
    later.KnowsText node :=
  ⟨h.project ▸ hn.1, fun handle hm => Nat.lt_of_lt_of_le (hn.2 handle hm) h.handles⟩

/-- What is known stays known. -/
theorem Onward.knows (h : w.Onward later) {node : Node} (hn : w.Knows node) :
    later.Knows node := by
  cases node with
  | text node => exact h.knowsText hn
  | directory path => trivial
  | detached tree => trivial

theorem onward_holdView (w : Workspace grammars) (file : ProjectPath) (language : Language) :
    w.Onward (w.holdView file language) := by
  unfold holdView
  simp only
  split
  · exact .refl w
  · exact ⟨rfl, Nat.le_refl _⟩

/-- A name below a directory leads to a file or to another directory. -/
theorem knows_entry (w : Workspace grammars) (directory : ProjectPath) (name : String) :
    w.Knows (w.entry directory name) := by
  unfold entry
  simp only
  split
  · rename_i h
    exact ⟨h, fun handle hm => by cases hm⟩
  · trivial

end Workspace

-- ============================================================ contracts

namespace Act

variable {grammars : Grammars} {α β : Type} {w : Workspace grammars}
  {P : Workspace grammars → α → Prop} {Q : Workspace grammars → β → Prop}

/-- From `w`, the computation keeps the workspace coherent, changes no document, and returns
what has the property. -/
def Keeps (a : Act grammars α) (w : Workspace grammars) (P : Workspace grammars → α → Prop) :
    Prop :=
  w.Coherent → (a w).2.Coherent ∧ w.Onward (a w).2 ∧ P (a w).2 (a w).1

theorem keeps_pure {x : α} (h : P w x) : Keeps (pure x) w P := fun hw => ⟨hw, .refl w, h⟩

theorem Keeps.bind {a : Act grammars α} {f : α → Act grammars β} (ha : Keeps a w P)
    (hf : ∀ v x, w.Onward v → P v x → Keeps (f x) v Q) : Keeps (a >>= f) w Q := by
  intro hw
  obtain ⟨hv, hwv, hx⟩ := ha hw
  obtain ⟨hc, hon, hy⟩ := hf _ _ hwv hx hv
  exact ⟨hc, hwv.trans hon, hy⟩

theorem Keeps.imp {a : Act grammars α} {P' : Workspace grammars → α → Prop}
    (ha : Keeps a w P) (h : ∀ v x, w.Onward v → P v x → P' v x) : Keeps a w P' := by
  intro hw
  obtain ⟨hv, hwv, hx⟩ := ha hw
  exact ⟨hv, hwv, h _ _ hwv hx⟩

/-- Asking for the workspace. -/
theorem keeps_get {f : Workspace grammars → Act grammars β} (h : Keeps (f w) w Q) :
    Keeps (get >>= f) w Q := h

/-- One computation for each entry of a list. -/
theorem keeps_mapM {ι : Type} {f : ι → Act grammars α} {entries : List ι}
    (stays : ∀ v later x, v.Onward later → P v x → P later x)
    (h : ∀ i ∈ entries, ∀ v, w.Onward v → Keeps (f i) v P) :
    Keeps (entries.mapM f) w fun v xs => ∀ x ∈ xs, P v x := by
  induction entries generalizing w with
  | nil =>
      rw [List.mapM_nil]
      exact keeps_pure fun x hx => by cases hx
  | cons i rest ih =>
      rw [List.mapM_cons]
      refine (h i List.mem_cons_self w (.refl w)).bind fun v x hv hx => ?_
      refine (ih fun j hj u hu => h j (List.mem_cons_of_mem _ hj) u (hv.trans hu)).bind
        fun u xs hu hxs => ?_
      refine keeps_pure fun y hy => ?_
      rcases List.mem_cons.1 hy with rfl | hy
      · exact stays v u y hu hx
      · exact hxs y hy

-- ============================================================ looking

theorem keeps_consult {file : ProjectPath} (language : Language)
    (hf : (w.project.document? file).isSome) :
    Keeps (consult file language) w fun _ _ => True :=
  fun hw => ⟨hw.holdView language hf, w.onward_holdView file language, trivial⟩

theorem keeps_look {node : Node} (hn : w.Knows node) : Keeps (look node) w fun _ _ => True := by
  cases node with
  | directory path => exact keeps_pure trivial
  | detached tree => exact keeps_pure trivial
  | text node =>
      cases node with
      | file path => exact keeps_pure trivial
      | member node => exact keeps_consult node.language hn.1
      | occurrence handle grammar context index born => exact keeps_pure trivial
      | binding handle grammar context index born name => exact keeps_pure trivial

theorem keeps_newHandle : Keeps newHandle w fun v handle => handle < v.nextHandle :=
  fun hw => ⟨hw.nextHandle, ⟨rfl, Nat.le_succ _⟩, Nat.lt_succ_self _⟩

/-- A new node in a file that is there is known. -/
theorem keeps_newMember {file : ProjectPath} (language : Language) (location : Location)
    (member : Member) (hf : (w.project.document? file).isSome) :
    Keeps (newMember file language location member) w
      fun v node => v.KnowsText (.member node) := by
  refine keeps_newHandle.bind fun v handle hv hh => ?_
  refine keeps_get (keeps_pure ⟨?_, fun h hm => ?_⟩)
  · exact hv.project ▸ hf
  · rw [List.mem_singleton.1 hm]
    exact hh

theorem keeps_viewRoot {file : ProjectPath} (language : Language)
    (hf : (w.project.document? file).isSome) :
    Keeps (viewRoot file language) w fun v node => v.KnowsText (.member node) := by
  refine (keeps_consult language hf).bind fun v _ hv _ => ?_
  exact keeps_get (keeps_newMember language [] _ (hv.project ▸ hf))

theorem keeps_memberChildren {node : MemberNode} (hn : w.KnowsText (.member node)) :
    Keeps (memberChildren node) w fun v nodes => ∀ n ∈ nodes, v.Knows n := by
  refine (keeps_consult node.language hn.1).bind fun v _ hv _ => keeps_get ?_
  cases v.resolve? node with
  | none => exact keeps_pure fun n hm => by cases hm
  | some tree =>
      refine keeps_mapM (fun v later n hon => hon.knows) fun i _ u hu => ?_
      obtain ⟨segment, child⟩ := i
      refine (keeps_newMember node.language _ child.label
        ((hv.trans hu).project ▸ hn.1)).bind fun v n _ hn => ?_
      exact keeps_pure hn

theorem keeps_children {node : Node} (hn : w.Knows node) :
    Keeps (children node) w fun v nodes => ∀ n ∈ nodes, v.Knows n := by
  cases node with
  | directory path =>
      refine keeps_get (keeps_pure fun n hm => ?_)
      obtain ⟨name, -, rfl⟩ := List.mem_map.1 hm
      exact w.knows_entry path name
  | detached tree =>
      refine keeps_pure fun n hm => ?_
      obtain ⟨child, -, rfl⟩ := List.mem_map.1 hm
      trivial
  | text node =>
      cases node with
      | file path => exact keeps_pure fun n hm => by cases hm
      | member node => exact keeps_memberChildren hn
      | binding handle grammar context index born name =>
          exact keeps_pure fun n hm => by cases hm
      | occurrence handle grammar context index born =>
          refine keeps_get (keeps_pure fun n hm => ?_)
          obtain ⟨⟨name, span⟩, -, rfl⟩ := List.mem_map.1 hm
          exact hn

theorem keeps_textParent {node : TextNode} (hn : w.KnowsText node) :
    Keeps (textParent node) w fun v above => v.Knows above := by
  cases node with
  | file path => exact keeps_pure trivial
  | occurrence handle grammar context index born =>
      exact keeps_pure ⟨hn.1, fun h hm => hn.2 h (List.mem_cons_of_mem _ hm)⟩
  | binding handle grammar context index born name => exact keeps_pure hn
  | member node =>
      have hfile : ∀ {v : Workspace grammars}, w.Onward v → v.Knows (.file node.file) :=
        fun hv => ⟨hv.project ▸ hn.1, fun h hm => by cases hm⟩
      unfold textParent
      simp only
      split
      · exact keeps_pure (hfile (.refl w))
      · refine (keeps_consult node.language hn.1).bind fun v _ hv _ => keeps_get ?_
        cases (v.view node.file node.language).at? node.location.dropLast with
        | none => exact keeps_pure (hfile hv)
        | some tree =>
            refine (keeps_newMember node.language _ tree.label (hv.project ▸ hn.1)).bind
              fun v n _ hn => ?_
            exact keeps_pure hn

theorem keeps_parent? {node : Node} (hn : w.Knows node) :
    Keeps (parent? node) w fun v above => ∀ n ∈ above, v.Knows n := by
  cases node with
  | directory path =>
      refine keeps_pure fun n hm => ?_
      split at hm
      · cases hm
      · obtain rfl := Option.mem_some_iff.1 hm
        trivial
  | detached tree => exact keeps_pure fun n hm => by cases hm
  | text node =>
      refine (keeps_textParent hn).bind fun v above _ ha => ?_
      refine keeps_pure fun n hm => ?_
      obtain rfl := Option.mem_some_iff.1 hm
      exact ha

theorem keeps_ancestorsWithin (fuel : Nat) {node : Node} (hn : w.Knows node) :
    Keeps (ancestorsWithin fuel node) w fun v nodes => ∀ n ∈ nodes, v.Knows n := by
  induction fuel generalizing w node with
  | zero => exact keeps_pure fun n hm => by cases hm
  | succ fuel ih =>
      refine (keeps_parent? hn).bind fun v above hv ha => ?_
      cases above with
      | none => exact keeps_pure fun n hm => by cases hm
      | some above =>
          have habove : v.Knows above := ha above rfl
          refine (ih habove).bind fun u nodes hu hns => ?_
          refine keeps_pure fun n hm => ?_
          rcases List.mem_cons.1 hm with rfl | hm
          · exact hu.knows habove
          · exact hns n hm

-- ====================================================== values, layout

theorem keeps_value {node : TextNode} (hn : w.KnowsText node) :
    Keeps (value node) w fun _ _ => True := by
  cases node with
  | file path => exact fun hw => ⟨hw, .refl w, trivial⟩
  | occurrence handle grammar context index born => exact fun hw => ⟨hw, .refl w, trivial⟩
  | binding handle grammar context index born name => exact fun hw => ⟨hw, .refl w, trivial⟩
  | member node =>
      intro hw
      show (w.memberValue node).2.Coherent ∧ w.Onward (w.memberValue node).2 ∧ True
      have hv := hw.holdView node.language hn.1
      have hon := w.onward_holdView node.file node.language
      unfold Workspace.memberValue
      split
      · exact ⟨hw, .refl w, trivial⟩
      · simp only
        split
        · refine ⟨hv.remember _ ?_, ⟨hon.project, hon.handles⟩, trivial⟩
          exact Nat.lt_of_lt_of_le (hn.2 _ List.mem_cons_self) hon.handles
        · exact ⟨hv, hon, trivial⟩

theorem keeps_span? {node : MemberNode} (hn : w.KnowsText (.member node)) :
    Keeps (span? node) w fun _ _ => True := by
  refine keeps_get ?_
  by_cases hp : (w.pinned? node).isNone = true
  · rw [if_pos hp]
    refine (keeps_consult node.language hn.1).bind fun v _ hv _ => ?_
    exact keeps_get (keeps_pure trivial)
  · rw [if_neg hp]
    exact keeps_get (keeps_pure trivial)

theorem keeps_memberExtent {node : MemberNode} (hn : w.KnowsText (.member node)) :
    Keeps (memberExtent node) w fun _ _ => True := by
  refine keeps_get (keeps_get ?_)
  cases (w.memory node).extent.get? (w.document node.file).generation with
  | some extent => exact keeps_pure trivial
  | none =>
      refine (keeps_span? hn).bind fun v span hv _ => keeps_get ?_
      intro hc
      refine ⟨hc.remember _ ?_, ⟨rfl, Nat.le_refl _⟩, trivial⟩
      exact (hv.knowsText hn).2 _ List.mem_cons_self

theorem keeps_occurrenceExtent {handle : Handle} {grammar : Microgrammar} {context : TextNode}
    {born : Occurrence} {contextExtent : Act grammars (Option Layout.Extent)}
    (hn : w.KnowsText context) (hc : Keeps contextExtent w fun _ _ => True) :
    Keeps (occurrenceExtent handle grammar context born contextExtent) w fun _ _ => True := by
  refine hc.bind fun v base hv _ => ?_
  cases base with
  | none => exact keeps_pure trivial
  | some base =>
      refine (keeps_value (hv.knowsText hn)).bind fun u whole hu _ => ?_
      exact keeps_get (keeps_pure trivial)

theorem keeps_extent {node : TextNode} (hn : w.KnowsText node) :
    Keeps (extent node) w fun _ _ => True := by
  induction node with
  | file path => exact keeps_get (keeps_pure trivial)
  | member node => exact (keeps_memberExtent hn).bind fun v extent _ _ => keeps_pure trivial
  | occurrence handle grammar context index born ih =>
      have hcontext : w.KnowsText context :=
        ⟨hn.1, fun h hm => hn.2 h (List.mem_cons_of_mem _ hm)⟩
      exact keeps_occurrenceExtent hcontext (ih hcontext)
  | binding handle grammar context index born name ih =>
      have hcontext : w.KnowsText context :=
        ⟨hn.1, fun h hm => hn.2 h (List.mem_cons_of_mem _ hm)⟩
      refine (keeps_occurrenceExtent hcontext (ih hcontext)).bind fun v base _ _ => ?_
      cases base with
      | none => exact keeps_pure trivial
      | some base => exact keeps_get (keeps_pure trivial)

-- ============================================================== types

open NodeType

/-- A pattern finds what the parsers say, whatever has been read of patterns before. -/
theorem findPattern_eq (pattern : StructuralPattern) (source : String)
    (w : Workspace grammars) :
    findPattern pattern source w = (grammars.find pattern.language pattern.text source,
      { w with patterns := (w.patterns.fetch pattern).2 }) := by
  have hfetch : w.patterns.fetch pattern =
      (.ok (grammars.find pattern.language pattern.text), (w.patterns.fetch pattern).2) :=
    Prod.ext (Cache.fetch_fst StructuralPattern.key_injective w.patterns pattern) rfl
  unfold findPattern
  rw [get_bind_apply, hfetch]
  rfl

theorem keeps_findPattern (pattern : StructuralPattern) (source : String) :
    Keeps (findPattern pattern source) w fun _ _ => True := by
  intro hw
  rw [findPattern_eq]
  exact ⟨⟨hw.views, hw.present, hw.memories, hw.occurrences⟩, ⟨rfl, Nat.le_refl _⟩, trivial⟩

/-- The scope of a pattern is a node in a view. -/
theorem keeps_patternScope (language : Language) {node : Node} (hn : w.Knows node) :
    Keeps (patternScope language node) w
      fun v scope => ∀ n ∈ scope, v.KnowsText (.member n) := by
  cases node with
  | directory path => exact keeps_pure fun n hm => by cases hm
  | detached tree => exact keeps_pure fun n hm => by cases hm
  | text node =>
      cases node with
      | occurrence handle grammar context index born =>
          exact keeps_pure fun n hm => by cases hm
      | binding handle grammar context index born name =>
          exact keeps_pure fun n hm => by cases hm
      | member node =>
          refine keeps_pure fun n hm => ?_
          split at hm
          · obtain rfl := Option.mem_some_iff.1 hm
            exact hn
          · cases hm
      | file path =>
          unfold patternScope
          simp only
          split
          · refine (keeps_viewRoot language hn.1).bind fun v n _ hroot => ?_
            refine keeps_pure fun m hm => ?_
            obtain rfl := Option.mem_some_iff.1 hm
            exact hroot
          · exact keeps_pure fun n hm => by cases hm

/-- What a type answers with: nodes the workspace knows, or an error. -/
def Finds (v : Workspace grammars) (found : Except NodeError (List Node)) : Prop :=
  ∀ nodes, found = .ok nodes → ∀ n ∈ nodes, v.Knows n

theorem finds_nil : Finds w (.ok []) := by
  rintro nodes ⟨⟩ n hm
  cases hm

theorem keeps_find_ofLanguage (language : Language) {node : Node} (hn : w.Knows node) :
    Keeps ((ofLanguage language).find node) w Finds := by
  unfold ofLanguage
  dsimp only
  cases hf : node.asFile? with
  | none => exact keeps_pure finds_nil
  | some path =>
      obtain rfl : node = .file path := by
        unfold Node.asFile? at hf
        split at hf
        · cases hf
          rfl
        · cases hf
      simp only
      split
      · refine (keeps_viewRoot language hn.1).bind fun v root _ hroot => keeps_pure ?_
        rintro nodes ⟨⟩ n hm
        obtain rfl := List.mem_singleton.1 hm
        exact hroot
      · exact keeps_pure finds_nil

theorem keeps_find_ofPattern (name : String) (pattern : StructuralPattern) {node : Node}
    (hn : w.Knows node) : Keeps ((ofPattern name pattern).find node) w Finds := by
  refine (keeps_patternScope pattern.language hn).bind fun v scope _ hscope => ?_
  cases scope with
  | none => exact keeps_pure finds_nil
  | some scope =>
      have hs := hscope scope rfl
      refine (keeps_span? hs).bind fun u span hu _ => ?_
      cases span with
      | none => exact keeps_pure finds_nil
      | some span =>
          refine (keeps_consult scope.language (hu.knowsText hs).1).bind fun t _ ht _ => ?_
          refine keeps_get ((keeps_findPattern pattern _).bind fun r matched hr _ => ?_)
          have hrs := hr.knowsText (ht.knowsText (hu.knowsText hs))
          cases matched with
          | none =>
              refine keeps_pure ?_
              rintro nodes ⟨⟩
          | some matched =>
              refine (keeps_mapM (P := fun v n => v.Knows n) (fun v later n hon => hon.knows)
                fun entry _ q hq => ?_).bind fun q nodes _ hnodes => keeps_pure ?_
              · refine (keeps_newMember _ _ _ (hq.knowsText hrs).1).bind fun q n _ hn => ?_
                exact keeps_pure hn
              · rintro _ ⟨⟩
                exact hnodes

theorem keeps_find_ofMicrogrammar (grammar : Microgrammar) {node : Node} (hn : w.Knows node) :
    Keeps ((ofMicrogrammar grammar).find node) w Finds := by
  cases node with
  | directory path => exact keeps_pure finds_nil
  | detached tree => exact keeps_pure finds_nil
  | text context =>
      refine (keeps_value hn).bind fun v text hv _ => ?_
      refine (keeps_mapM (P := fun v n => v.Knows n) (fun v later n hon => hon.knows)
        fun entry _ q hq => ?_).bind fun q nodes _ hnodes => keeps_pure ?_
      · refine keeps_newHandle.bind fun q handle hqq hlt => keeps_pure ?_
        have hc := (hqq.knowsText (hq.knowsText (hv.knowsText hn)))
        refine ⟨hc.1, fun h hm => ?_⟩
        rcases List.mem_cons.1 hm with rfl | hm
        · exact hlt
        · exact hc.2 h hm
      · rintro _ ⟨⟩
        exact hnodes

/-- The library's types find what is known. -/
theorem keeps_find (type : BuiltIn) {node : Node} (hn : w.Knows node) :
    Keeps (type.provider.find node) w Finds := by
  cases type with
  | language l => exact keeps_find_ofLanguage l hn
  | pattern name p => exact keeps_find_ofPattern name p hn
  | microgrammar g => exact keeps_find_ofMicrogrammar g hn

end Act

-- ========================================================== evaluation

open Query (Comparison)

namespace Query.Comparison

variable {m n : Type → Type} [Monad m] [Monad n] [LawfulMonad m] [LawfulMonad n]
  {c : Comparison m n}

/-- Registries made alike of one registry. -/
theorem registries_map {τ α β ε : Type} {R : c.World → α → β → Prop} {f : τ → Provider m α ε}
    {g : τ → Provider n β ε} (h : ∀ type, c.Types R (f type) (g type)) (types : Registry τ) :
    c.Registries R (types.map f) (types.map g) where
  tags := rfl
  types := by
    show List.Forall₂ _ (types.types.map _) (types.types.map _)
    rw [List.forall₂_map_left_iff, List.forall₂_map_right_iff]
    exact List.forall₂_same.2 fun entry _ => ⟨rfl, h entry.2⟩

end Query.Comparison

variable {grammars : Grammars}

/-- Each computation compared with itself: it keeps the workspace coherent and answers with what
is known. -/
def keeping (grammars : Grammars) : Comparison (Act grammars) (Act grammars) where
  World := Workspace grammars
  le := Workspace.Onward
  refl := .refl
  trans := .trans
  Alike w R a b := w.Coherent → (b w).2 = (a w).2 ∧ (a w).2.Coherent ∧ w.Onward (a w).2 ∧
    R (a w).2 (a w).1 (b w).1
  pure h := fun hw => ⟨rfl, hw, .refl _, h⟩
  bind {α β γ δ W R Q a b f g} ha hf := by
    intro hw
    obtain ⟨hst, hv, hwv, hx⟩ := ha hw
    obtain ⟨hst', hc, hon, hy⟩ := hf _ _ _ hwv hx hv
    show ((g (b W).1) (b W).2).2 = ((f (a W).1) (a W).2).2 ∧ ((f (a W).1) (a W).2).2.Coherent ∧
      W.Onward ((f (a W).1) (a W).2).2 ∧
        Q ((f (a W).1) (a W).2).2 ((f (a W).1) (a W).2).1 ((g (b W).1) (b W).2).1
    rw [hst]
    exact ⟨hst', hc, hwv.trans hon, hy⟩

namespace Act

variable {w : Workspace grammars} {α : Type}

/-- A computation that keeps its contract is alike with itself. -/
theorem Keeps.alike {R : Workspace grammars → α → α → Prop} {a : Act grammars α}
    (h : a.Keeps w fun v x => R v x x) : (keeping grammars).Alike w R a a :=
  fun hw => ⟨rfl, h hw⟩

/-- What evaluations find is known. -/
def SameKnown (v : Workspace grammars) (x y : Node) : Prop := x = y ∧ v.Knows x

theorem each_sameKnown {v : Workspace grammars} {xs ys : List Node} :
    (keeping grammars).Each SameKnown v xs ys ↔ xs = ys ∧ ∀ x ∈ xs, v.Knows x :=
  Comparison.each_same_iff

theorem keeps_look_then {node : Node} (hn : w.Knows node) (f : Workspace grammars → α) :
    Keeps (do Act.look node; return f (← get)) w fun _ _ => True :=
  (keeps_look hn).bind fun _ _ _ _ => keeps_get (keeps_pure trivial)

/-- The forest answers with what is known. -/
theorem forests_keeping : (keeping grammars).Forests SameKnown (Workspace.forest grammars)
    (Workspace.forest grammars) where
  persistent := by
    rintro v later x y hon ⟨rfl, hx⟩
    exact ⟨rfl, hon.knows hx⟩
  address := by
    rintro v x y ⟨rfl, hx⟩
    rfl
  name := by
    rintro v x y ⟨rfl, hx⟩
    exact ((keeps_look_then hx fun w => w.name x).imp fun _ _ _ _ => rfl).alike
  tags := by
    rintro v x y ⟨rfl, hx⟩
    exact ((keeps_look_then hx fun w => w.tags x).imp fun _ _ _ _ => rfl).alike
  property := by
    rintro v x y key ⟨rfl, hx⟩
    exact ((keeps_look_then hx fun w => w.property x key).imp fun _ _ _ _ => rfl).alike
  children := by
    rintro v x y ⟨rfl, hx⟩
    exact ((keeps_children hx).imp fun _ _ _ h => each_sameKnown.2 ⟨rfl, h⟩).alike
  extent := by
    rintro v x y ⟨rfl, hx⟩
    exact fun hv => ⟨rfl, hv, .refl v, rfl⟩

/-- The library's types answer with what is known. -/
theorem types_keeping (type : BuiltIn) :
    (keeping grammars).Types SameKnown type.provider type.provider := by
  rintro v x y ⟨rfl, hx⟩
  refine ((keeps_find type hx).imp fun u found _ h => ?_).alike
  cases found with
  | error e => exact rfl
  | ok nodes => exact each_sameKnown.2 ⟨rfl, h nodes rfl⟩

theorem registries_keeping (types : Query.Registry BuiltIn) :
    (keeping grammars).Registries SameKnown (types.map BuiltIn.provider)
      (types.map BuiltIn.provider) :=
  Comparison.registries_map types_keeping types

end Act

namespace Engine

open Act

variable {w : Workspace grammars}

/-- An expression has its program, whatever has been compiled before. -/
theorem program_eq (expression : String) (w : Workspace grammars) :
    (program expression).run w = ((Expression.compile expression).mapError EngineError.parse,
      { w with programs := (w.programs.fetch expression).2 }) := by
  have hfetch : w.programs.fetch expression =
      (Expression.compile expression, (w.programs.fetch expression).2) :=
    Prod.ext (Cache.fetch_fst (fun _ _ h => h) w.programs expression) rfl
  unfold program
  rw [Act.run_get_bind, hfetch]
  cases Expression.compile expression with
  | ok program => rfl
  | error e => rfl

theorem keeps_program (expression : String) :
    Keeps (program expression).run w fun _ result =>
      result = (Expression.compile expression).mapError EngineError.parse := by
  intro hw
  rw [program_eq]
  exact ⟨⟨hw.views, hw.present, hw.memories, hw.occurrences⟩, ⟨rfl, Nat.le_refl _⟩, rfl⟩

/-- Evaluation goes on with the program there is, or ends. -/
theorem evaluate_run (engine : Engine grammars) (expression : String) (root : Node) :
    (engine.evaluate expression root).run = (program expression).run >>= fun
      | .error e => pure (.error e)
      | .ok program => (Query.evaluate (Workspace.forest grammars) engine.registry engine.dedupe
          program root).run >>= fun
        | .error failure => pure (.error (.ofFailure failure))
        | .ok found => pure (.ok found) := by
  unfold evaluate
  rw [ExceptT.run_bind]
  refine bind_congr fun result => ?_
  cases result with
  | error e => rfl
  | ok program =>
      refine (Act.run_lift_bind _ _).trans (bind_congr fun outcome => ?_)
      cases outcome with
      | error failure => rfl
      | ok found => rfl

/-- Whatever an expression finds is known. -/
theorem keeps_evaluate (types : Query.Registry BuiltIn) (dedupe : Bool) (expression : String)
    {root : Node} (hr : w.Knows root) :
    Keeps ((ofTypes grammars types dedupe).evaluate expression root).run w
      fun v result => ∀ nodes, result = .ok nodes → ∀ n ∈ nodes, v.Knows n := by
  rw [evaluate_run]
  refine (keeps_program expression).bind fun v result hv hres => ?_
  cases result with
  | error e =>
      refine keeps_pure ?_
      rintro nodes ⟨⟩
  | ok program =>
      have hfound := Comparison.alike_evaluate forests_keeping (registries_keeping types) dedupe
        program (show SameKnown v root root from ⟨rfl, hv.knows hr⟩)
      refine Keeps.bind (P := fun v found => ∀ nodes, found = .ok nodes → ∀ n ∈ nodes,
        v.Knows n) (fun hc => ?_) fun u found _ hf => ?_
      · obtain ⟨-, hcoh, hon, hout⟩ := hfound hc
        refine ⟨hcoh, hon, fun nodes hok => ?_⟩
        have hout : (keeping grammars).Outcome ((keeping grammars).Each SameKnown) _ (.ok nodes)
            (.ok nodes) := hok ▸ hout
        exact (each_sameKnown.1 hout).2
      · cases found with
        | error failure =>
            refine keeps_pure ?_
            rintro nodes ⟨⟩
        | ok found =>
            refine keeps_pure ?_
            rintro nodes ⟨⟩
            exact hf found rfl

end Engine

end TreeQuery
