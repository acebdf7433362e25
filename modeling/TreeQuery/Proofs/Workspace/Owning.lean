/-
Which grammar the occurrences under a handle are of.

# Owners

What an occurrence is now is recorded under its handle, and a handle says nothing of the grammar.
But a handle is given out once, and then passed on from an occurrence to its bindings and back. So
whoever keeps an account of which grammar each handle was given out for (`Owners`) can go by it for
ever: the account only grows (`Owners.Extends`), every occurrence that a node is or was found in is
in it (`Owners.Owns`), and what is recorded under a handle is well formed for the grammar of the
handle (`Owners.Records`).

# The contract

`Act.Owning` is the contract of one computation: from an account of the workspace it leads to a
larger one, which is that of the workspace it leaves behind, and in which what it returns has a
property. Most questions give out handles for nodes in views at most and leave the records alone
(`Act.Passing`); the one that finds occurrences enters them into the account
(`owning_find_ofMicrogrammar`). An update records what it has written, by the grammar of the node
it is done to (`records_update`).
-/
import TreeQuery.Proofs.Microgrammar.Formed
import TreeQuery.Proofs.Workspace.Records

namespace TreeQuery

open Text (Span)
open Query (Comparison)

variable {grammars : Grammars}

-- =============================================================== nodes

/-- The occurrences that the node is or was found in: their handles, grammars, and what they were
found as. -/
def TextNode.occurrences : TextNode → List (Handle × Microgrammar × Occurrence)
  | .file _ | .member _ => []
  | .occurrence handle grammar context _ born | .binding handle grammar context _ born _ =>
    (handle, grammar, born) :: context.occurrences

/-- The occurrences that the node is or was found in. -/
def Node.occurrences : Node → List (Handle × Microgrammar × Occurrence)
  | .text node => node.occurrences
  | _ => []

/-- Which grammar each handle was given out for, if for an occurrence. -/
abbrev Owners := Handle → Option Microgrammar

namespace Owners

variable {o p q : Owners} {w later : Workspace grammars}

/-- More handles have been given out. -/
def Extends (o p : Owners) : Prop :=
  ∀ handle grammar, o handle = some grammar → p handle = some grammar

theorem Extends.refl (o : Owners) : o.Extends o := fun _ _ h => h

theorem Extends.trans (h : o.Extends p) (h' : p.Extends q) : o.Extends q :=
  fun handle grammar ho => h' handle grammar (h handle grammar ho)

/-- The occurrences that the node is or was found in are accounted for, and were well formed. -/
def Owns (o : Owners) (node : Node) : Prop :=
  ∀ entry ∈ node.occurrences, o entry.1 = some entry.2.1 ∧ entry.2.2.Formed entry.2.1

theorem owns_nil {node : Node} (h : node.occurrences = []) : o.Owns node := by
  intro entry he
  rw [h] at he
  cases he

theorem Extends.owns (h : o.Extends p) {node : Node} (hn : o.Owns node) : p.Owns node :=
  fun entry he => ⟨h _ _ (hn entry he).1, (hn entry he).2⟩

/-- The account is that of the workspace: none of its handles is still to be given out, and what is
recorded of occurrences is well formed. -/
structure Records (o : Owners) (w : Workspace grammars) : Prop where
  issued : ∀ handle grammar, o handle = some grammar → handle < w.nextHandle
  formed : ∀ entry ∈ w.occurrences, ∃ grammar, o entry.1 = some grammar ∧ entry.2.Formed grammar

/-- What is recorded under the handle of an occurrence is well formed. -/
theorem Records.found (h : o.Records w) {handle : Handle} {grammar : Microgrammar}
    {born : Occurrence} (ho : o handle = some grammar) (hb : born.Formed grammar) :
    (w.found handle born).Formed grammar := by
  unfold Workspace.found
  cases hl : w.occurrences.lookup handle with
  | none => exact hb
  | some occurrence =>
      obtain ⟨other, hother, hformed⟩ := h.formed _ (mem_of_lookup_eq_some hl)
      obtain rfl := Option.some.inj (hother.symm.trans ho)
      exact hformed

theorem Records.setFound (h : o.Records w) {handle : Handle} {grammar : Microgrammar}
    {occurrence : Occurrence} (ho : o handle = some grammar) (hf : occurrence.Formed grammar) :
    o.Records (w.setFound handle occurrence) := by
  refine ⟨h.issued, fun entry hm => ?_⟩
  rcases List.mem_cons.1 hm with rfl | hm
  · exact ⟨grammar, ho, hf⟩
  · exact h.formed entry (List.mem_filter.1 hm).1

/-- The account with one more handle. -/
def issue (o : Owners) (handle : Handle) (grammar : Microgrammar) : Owners :=
  fun other => if other = handle then some grammar else o other

/-- The next handle is new to the account. -/
theorem Records.issue (h : o.Records w) (grammar : Microgrammar) :
    o.Extends (o.issue w.nextHandle grammar) ∧
      (o.issue w.nextHandle grammar).Records { w with nextHandle := w.nextHandle + 1 } := by
  have hextends : o.Extends (o.issue w.nextHandle grammar) := by
    intro handle other ho
    unfold Owners.issue
    rw [if_neg (Nat.ne_of_lt (h.issued handle other ho))]
    exact ho
  refine ⟨hextends, fun handle other ho => ?_, fun entry hm => ?_⟩
  · unfold Owners.issue at ho
    split at ho
    · rename_i he
      exact he ▸ Nat.lt_succ_self _
    · exact Nat.lt_succ_of_lt (h.issued handle other ho)
  · obtain ⟨other, ho, hformed⟩ := h.formed entry hm
    exact ⟨other, hextends _ _ ho, hformed⟩

end Owners

-- =========================================================== workspaces

namespace Workspace

variable {w v later : Workspace grammars}

/-- The records of occurrences are the same, and no handle has been taken back. -/
structure Passes (w later : Workspace grammars) : Prop where
  occurrences : later.occurrences = w.occurrences
  handles : w.nextHandle ≤ later.nextHandle

theorem Passes.refl (w : Workspace grammars) : w.Passes w := ⟨rfl, Nat.le_refl _⟩

theorem Passes.trans (h : w.Passes v) (h' : v.Passes later) : w.Passes later :=
  ⟨h'.occurrences.trans h.occurrences, Nat.le_trans h.handles h'.handles⟩

theorem Passes.records (h : w.Passes later) {o : Owners} (hw : o.Records w) : o.Records later where
  issued handle grammar ho := Nat.lt_of_lt_of_le (hw.issued handle grammar ho) h.handles
  formed := h.occurrences ▸ hw.formed

theorem passes_holdView (w : Workspace grammars) (file : ProjectPath) (language : Language) :
    w.Passes (w.holdView file language) :=
  ⟨(w.holdView_fields file language).2.2, (w.onward_holdView file language).handles⟩

end Workspace

-- ============================================================ contracts

namespace Act

open Workspace Owners

variable {α β : Type} {o : Owners} {P : Owners → α → Prop} {Q : Owners → β → Prop}

/-- The computation leaves the records of occurrences alone. -/
def Passing (a : Act grammars α) : Prop := ∀ w : Workspace grammars, w.Passes (a w).2

theorem passing_pure (x : α) : Passing (pure x : Act grammars α) := fun w => .refl w

theorem Passing.bind {a : Act grammars α} {f : α → Act grammars β} (ha : Passing a)
    (hf : ∀ x, Passing (f x)) : Passing (a >>= f) := fun w => (ha w).trans (hf _ _)

theorem passing_get {f : Workspace grammars → Act grammars β} (h : ∀ w, Passing (f w)) :
    Passing (get >>= f) := fun w => h w w

/-- From an account of the workspace the computation leads to a larger one, in which what it
returns has the property. -/
def Owning (o : Owners) (a : Act grammars α) (P : Owners → α → Prop) : Prop :=
  ∀ w, o.Records w → ∃ p : Owners, o.Extends p ∧ p.Records (a w).2 ∧ P p (a w).1

theorem owning_pure {x : α} (h : P o x) : Owning o (pure x : Act grammars α) P :=
  fun _ hw => ⟨o, .refl o, hw, h⟩

theorem Owning.bind {a : Act grammars α} {f : α → Act grammars β} (ha : Owning o a P)
    (hf : ∀ p x, o.Extends p → P p x → Owning p (f x) Q) : Owning o (a >>= f) Q := by
  intro w hw
  obtain ⟨p, hp, hv, hx⟩ := ha w hw
  obtain ⟨q, hq, hlater, hy⟩ := hf p _ hp hx _ hv
  exact ⟨q, hp.trans hq, hlater, hy⟩

theorem Owning.imp {a : Act grammars α} {P' : Owners → α → Prop} (ha : Owning o a P)
    (h : ∀ p x, P p x → P' p x) : Owning o a P' := by
  intro w hw
  obtain ⟨p, hp, hv, hx⟩ := ha w hw
  exact ⟨p, hp, hv, h p _ hx⟩

theorem owning_get {f : Workspace grammars → Act grammars β} (h : ∀ w, Owning o (f w) Q) :
    Owning o (get >>= f) Q := fun w => h w w

/-- Whatever leaves the records alone needs no more handles in the account. -/
theorem Passing.owning {a : Act grammars α} (ha : Passing a) : Owning o a fun _ _ => True :=
  fun w hw => ⟨o, .refl o, (ha w).records hw, trivial⟩

/-- One computation for each entry of a list. -/
theorem owning_mapM {ι : Type} {f : ι → Act grammars α} {entries : List ι}
    (stays : ∀ p q x, p.Extends q → P p x → P q x)
    (h : ∀ i ∈ entries, ∀ p, o.Extends p → Owning p (f i) P) :
    Owning o (entries.mapM f) fun p xs => ∀ x ∈ xs, P p x := by
  induction entries generalizing o with
  | nil =>
      rw [List.mapM_nil]
      exact owning_pure fun x hx => by cases hx
  | cons i rest ih =>
      rw [List.mapM_cons]
      refine (h i List.mem_cons_self o (.refl o)).bind fun p x hp hx => ?_
      refine (ih fun j hj q hq => h j (List.mem_cons_of_mem _ hj) q (hp.trans hq)).bind
        fun q xs hq hxs => ?_
      exact owning_pure (List.forall_mem_cons.2 ⟨stays p q x hq hx, hxs⟩)

-- ============================================================== looking

theorem passing_consult (file : ProjectPath) (language : Language) :
    Passing (consult file language : Act grammars Unit) := fun w => w.passes_holdView file language

theorem passing_look (node : Node) : Passing (look node : Act grammars Unit) := by
  cases node with
  | directory path => exact passing_pure ()
  | detached tree => exact passing_pure ()
  | text node =>
      cases node with
      | member node => exact passing_consult node.file node.language
      | file path => exact passing_pure ()
      | occurrence handle grammar context index born => exact passing_pure ()
      | binding handle grammar context index born name => exact passing_pure ()

theorem passing_newMember (file : ProjectPath) (language : Language) (location : Location)
    (member : Member) :
    Passing (newMember file language location member : Act grammars MemberNode) :=
  fun _ => ⟨rfl, Nat.le_succ _⟩

theorem passing_viewRoot (file : ProjectPath) (language : Language) :
    Passing (viewRoot file language : Act grammars MemberNode) :=
  (passing_consult file language).bind fun _ => passing_get fun _ => passing_newMember _ _ _ _

/-- A new node in a view is no occurrence, nor was it found in one. -/
theorem owning_member {ι : Type} (entries : List ι) (file : ProjectPath) (language : Language)
    (location : ι → Location) (member : ι → Member) :
    Owning o (entries.mapM fun i => do
      let node ← newMember file language (location i) (member i)
      return .text (.member node) : Act grammars (List Node))
      fun p nodes => ∀ n ∈ nodes, p.Owns n :=
  owning_mapM (fun _ _ _ hpq => hpq.owns) fun _ _ _ _ =>
    (passing_newMember _ _ _ _).owning.bind fun _ _ _ _ => owning_pure (owns_nil rfl)

-- ============================================================== walking

theorem owning_memberChildren (node : MemberNode) :
    Owning o (memberChildren node : Act grammars (List Node))
      fun p nodes => ∀ n ∈ nodes, p.Owns n := by
  refine (passing_consult node.file node.language).owning.bind fun p _ _ _ =>
    owning_get fun w => ?_
  cases w.resolve? node with
  | none => exact owning_pure fun n hn => by cases hn
  | some tree => exact owning_member tree.numberedChildren _ _ _ _

theorem owns_entry (w : Workspace grammars) (directory : ProjectPath) (name : String) :
    o.Owns (w.entry directory name) := by
  unfold Workspace.entry
  dsimp only
  split <;> exact owns_nil rfl

theorem owning_children {node : Node} (hn : o.Owns node) :
    Owning o (children node : Act grammars (List Node)) fun p nodes => ∀ n ∈ nodes, p.Owns n := by
  cases node with
  | directory path =>
      refine owning_get fun w => owning_pure fun n hm => ?_
      obtain ⟨name, -, rfl⟩ := List.mem_map.1 hm
      exact owns_entry w path name
  | detached tree =>
      refine owning_pure fun n hm => ?_
      obtain ⟨child, -, rfl⟩ := List.mem_map.1 hm
      exact owns_nil rfl
  | text node =>
      cases node with
      | file path => exact owning_pure fun n hm => by cases hm
      | member node => exact owning_memberChildren node
      | binding handle grammar context index born name =>
          exact owning_pure fun n hm => by cases hm
      | occurrence handle grammar context index born =>
          refine owning_get fun _ => owning_pure fun n hm => ?_
          obtain ⟨⟨name, span⟩, -, rfl⟩ := List.mem_map.1 hm
          exact hn

theorem owning_textParent {node : TextNode} (hn : o.Owns (.text node)) :
    Owning o (textParent node : Act grammars Node) fun p n => p.Owns n := by
  cases node with
  | file path => exact owning_pure (owns_nil rfl)
  | occurrence handle grammar context index born =>
      exact owning_pure fun entry he => hn entry (List.mem_cons_of_mem _ he)
  | binding handle grammar context index born name => exact owning_pure hn
  | member node =>
      unfold textParent
      dsimp only
      split
      · exact owning_pure (owns_nil rfl)
      · refine (passing_consult node.file node.language).owning.bind fun p _ _ _ =>
          owning_get fun w => ?_
        cases (w.view node.file node.language).at? node.location.dropLast with
        | none => exact owning_pure (owns_nil rfl)
        | some tree =>
            exact (passing_newMember _ _ _ _).owning.bind fun _ _ _ _ =>
              owning_pure (owns_nil rfl)

theorem owning_parent? {node : Node} (hn : o.Owns node) :
    Owning o (parent? node : Act grammars (Option Node)) fun p above => ∀ n ∈ above, p.Owns n := by
  cases node with
  | directory path =>
      refine owning_pure fun n hm => ?_
      split at hm
      · cases hm
      · obtain rfl := Option.mem_some_iff.1 hm
        exact owns_nil rfl
  | detached tree => exact owning_pure fun n hm => by cases hm
  | text node =>
      refine (owning_textParent hn).bind fun p above _ ha => owning_pure fun n hm => ?_
      obtain rfl := Option.mem_some_iff.1 hm
      exact ha

theorem owning_ancestorsWithin (fuel : Nat) {node : Node} (hn : o.Owns node) :
    Owning o (ancestorsWithin fuel node : Act grammars (List Node))
      fun p nodes => ∀ n ∈ nodes, p.Owns n := by
  induction fuel generalizing o node with
  | zero => exact owning_pure fun n hm => by cases hm
  | succ fuel ih =>
      refine (owning_parent? hn).bind fun p above _ ha => ?_
      cases above with
      | none => exact owning_pure fun n hm => by cases hm
      | some above =>
          have habove := ha above rfl
          exact (ih habove).bind fun q nodes hq hns =>
            owning_pure (List.forall_mem_cons.2 ⟨hq.owns habove, hns⟩)

-- ======================================================= values, layout

theorem passing_value (node : TextNode) : Passing (value node : Act grammars String) := by
  cases node with
  | file path => exact fun w => .refl w
  | occurrence handle grammar context index born => exact fun w => .refl w
  | binding handle grammar context index born name => exact fun w => .refl w
  | member node =>
      intro w
      have hheld := w.passes_holdView node.file node.language
      show w.Passes (w.memberValue node).2
      rcases w.memberValue_cases node with h | ⟨-, h⟩ | ⟨-, memory, -, h⟩
      · rw [h]
        exact .refl w
      · rw [h]
        exact hheld
      · rw [h]
        exact ⟨hheld.occurrences, hheld.handles⟩

theorem passing_span? (node : MemberNode) : Passing (span? node : Act grammars (Option Span)) := by
  refine passing_get fun w => ?_
  by_cases hp : (w.pinned? node).isNone = true
  · rw [if_pos hp]
    exact (passing_consult _ _).bind fun _ => passing_get fun _ => passing_pure _
  · rw [if_neg hp]
    exact passing_get fun _ => passing_pure _

theorem passing_memberExtent (node : MemberNode) :
    Passing (memberExtent node : Act grammars Layout.Extent) := by
  intro w
  rcases memberExtent_snd node w with h | ⟨slot, h⟩
  · rw [h]
    exact .refl w
  · rw [h]
    exact ⟨(passing_span? node w).occurrences, (passing_span? node w).handles⟩

theorem passing_occurrenceExtent {handle : Handle} {grammar : Microgrammar} {context : TextNode}
    {born : Occurrence} {contextExtent : Act grammars (Option Layout.Extent)}
    (hc : Passing contextExtent) :
    Passing (occurrenceExtent handle grammar context born contextExtent) := by
  refine hc.bind fun base => ?_
  cases base with
  | none => exact passing_pure none
  | some base => exact (passing_value context).bind fun _ => passing_get fun _ => passing_pure _

theorem passing_extent (node : TextNode) :
    Passing (extent node : Act grammars (Option Layout.Extent)) := by
  induction node with
  | file path => exact passing_get fun _ => passing_pure _
  | member node => exact (passing_memberExtent node).bind fun _ => passing_pure _
  | occurrence handle grammar context index born ih => exact passing_occurrenceExtent ih
  | binding handle grammar context index born name ih =>
      refine (passing_occurrenceExtent ih).bind fun base => ?_
      cases base with
      | none => exact passing_pure none
      | some base => exact passing_get fun _ => passing_pure _

-- ================================================================ types

open NodeType

theorem passing_findPattern (pattern : StructuralPattern) (source : String) :
    Passing (findPattern pattern source : Act grammars (Option (List PatternMatch))) := by
  intro w
  rw [findPattern_eq]
  exact ⟨rfl, Nat.le_refl _⟩

theorem passing_patternScope (language : Language) (node : Node) :
    Passing (patternScope language node : Act grammars (Option MemberNode)) := by
  unfold patternScope
  split
  · exact passing_pure _
  · split
    · exact (passing_viewRoot _ _).bind fun _ => passing_pure _
    · exact passing_pure _
  · exact passing_pure _

/-- What a type answers with: nodes in the account, or an error. -/
def FindsOwned (p : Owners) (found : Except NodeError (List Node)) : Prop :=
  ∀ nodes, found = .ok nodes → ∀ n ∈ nodes, p.Owns n

theorem findsOwned_ok {nodes : List Node} (h : ∀ n ∈ nodes, o.Owns n) :
    FindsOwned o (.ok nodes) := by
  rintro _ ⟨⟩
  exact h

theorem findsOwned_nil : FindsOwned o (.ok []) := findsOwned_ok fun n hn => by cases hn

theorem owning_find_ofLanguage (language : Language) (node : Node) :
    Owning o ((ofLanguage language : NodeType grammars).find node) FindsOwned := by
  unfold ofLanguage
  dsimp only
  cases node.asFile? with
  | none => exact owning_pure findsOwned_nil
  | some path =>
      dsimp only
      split
      · exact (passing_viewRoot path language).owning.bind fun _ _ _ _ =>
          owning_pure (findsOwned_ok (List.forall_mem_singleton.2 (owns_nil rfl)))
      · exact owning_pure findsOwned_nil

theorem owning_find_ofPattern (name : String) (pattern : StructuralPattern) (node : Node) :
    Owning o ((ofPattern name pattern : NodeType grammars).find node) FindsOwned := by
  refine (passing_patternScope pattern.language node).owning.bind fun _ scope _ _ => ?_
  cases scope with
  | none => exact owning_pure findsOwned_nil
  | some scope =>
      refine (passing_span? scope).owning.bind fun _ span _ _ => ?_
      cases span with
      | none => exact owning_pure findsOwned_nil
      | some span =>
          refine (passing_consult scope.file scope.language).owning.bind fun _ _ _ _ =>
            owning_get fun w => ?_
          refine (passing_findPattern pattern _).owning.bind fun _ matched _ _ => ?_
          cases matched with
          | none => exact owning_pure fun nodes he => by cases he
          | some matched =>
              exact (owning_member _ _ _ _ _).bind fun _ _ _ hnodes =>
                owning_pure (findsOwned_ok hnodes)

/-- A new occurrence is entered into the account. -/
theorem owning_newOccurrence {context : TextNode} (hn : o.Owns (.text context))
    {grammar : Microgrammar} (index : Nat) {born : Occurrence} (hb : born.Formed grammar) :
    Owning o (do return .text (.occurrence (← newHandle) grammar context index born) :
      Act grammars Node) fun p n => p.Owns n := by
  intro w hw
  obtain ⟨hextends, hrecords⟩ := hw.issue grammar
  refine ⟨_, hextends, hrecords, fun entry he => ?_⟩
  rcases List.mem_cons.1 he with rfl | he
  · exact ⟨if_pos rfl, hb⟩
  · exact hextends.owns hn entry he

theorem owning_find_ofMicrogrammar (grammar : Microgrammar) {node : Node} (hn : o.Owns node) :
    Owning o ((ofMicrogrammar grammar : NodeType grammars).find node) FindsOwned := by
  cases node with
  | directory path => exact owning_pure findsOwned_nil
  | detached tree => exact owning_pure findsOwned_nil
  | text context =>
      refine (passing_value context).owning.bind fun p text hp _ => ?_
      refine Owning.bind (P := fun q nodes => ∀ n ∈ nodes, q.Owns n) ?_ fun q nodes _ hnodes =>
        owning_pure (findsOwned_ok hnodes)
      refine owning_mapM (fun _ _ _ hpq => hpq.owns) fun entry hentry q hq => ?_
      exact owning_newOccurrence (hq.owns (hp.owns hn)) entry.2
        (Microgrammar.formed_of_mem_scan (List.fst_mem_of_mem_zipIdx hentry))

/-- What the library's types find is in the account. -/
theorem owning_find (type : BuiltIn) {node : Node} (hn : o.Owns node) :
    Owning o ((type.provider : NodeType grammars).find node) FindsOwned := by
  cases type with
  | language l => exact owning_find_ofLanguage l node
  | pattern name p => exact owning_find_ofPattern name p node
  | microgrammar g => exact owning_find_ofMicrogrammar g hn

end Act

-- ========================================================== evaluation

/-- Each computation compared with itself: from an account of the workspace it leads to a larger
one, in which it answers with nodes. -/
def owning (grammars : Grammars) : Comparison (Act grammars) (Act grammars) where
  World := Owners
  le := Owners.Extends
  refl := .refl
  trans := .trans
  Alike o R a b := ∀ w, o.Records w → (b w).2 = (a w).2 ∧
    ∃ p : Owners, o.Extends p ∧ p.Records (a w).2 ∧ R p (a w).1 (b w).1
  pure {_ _ o _ _ _} h := fun _ hw => ⟨rfl, o, .refl o, hw, h⟩
  bind {α β γ δ o R Q a b f g} ha hf := by
    intro w hw
    obtain ⟨hst, p, hp, hv, hx⟩ := ha w hw
    obtain ⟨hst', q, hq, hlater, hy⟩ := hf p _ _ hp hx _ hv
    show ((g (b w).1) (b w).2).2 = ((f (a w).1) (a w).2).2 ∧ ∃ q : Owners, o.Extends q ∧
      q.Records ((f (a w).1) (a w).2).2 ∧
        Q q ((f (a w).1) (a w).2).1 ((g (b w).1) (b w).2).1
    rw [hst]
    exact ⟨hst', q, hp.trans hq, hlater, hy⟩

namespace Act

open Owners

variable {α : Type} {o : Owners}

/-- A computation that keeps its contract is alike with itself. -/
theorem Owning.alike {R : Owners → α → α → Prop} {a : Act grammars α}
    (h : Owning o a fun p x => R p x x) : (owning grammars).Alike o R a a :=
  fun w hw => ⟨rfl, h w hw⟩

/-- What evaluations find is in the account. -/
def SameOwned (p : Owners) (x y : Node) : Prop := x = y ∧ p.Owns x

variable (grammars) in
theorem each_sameOwned {p : Owners} {xs ys : List Node} :
    (owning grammars).Each SameOwned p xs ys ↔ xs = ys ∧ ∀ x ∈ xs, p.Owns x :=
  Comparison.each_same_iff

theorem passing_look_then (node : Node) (f : Workspace grammars → α) :
    Passing (do Act.look node; return f (← get)) :=
  (passing_look node).bind fun _ => passing_get fun _ => passing_pure _

/-- The forest answers with nodes in the account. -/
theorem forests_owning : (owning grammars).Forests SameOwned (Workspace.forest grammars)
    (Workspace.forest grammars) where
  persistent := by
    rintro p q x y hpq ⟨rfl, hx⟩
    exact ⟨rfl, Extends.owns hpq hx⟩
  address := by
    rintro p x y ⟨rfl, -⟩
    rfl
  name := by
    rintro p x y ⟨rfl, -⟩
    exact ((passing_look_then x fun w => w.name x).owning.imp fun _ _ _ => rfl).alike
  tags := by
    rintro p x y ⟨rfl, -⟩
    exact ((passing_look_then x fun w => w.tags x).owning.imp fun _ _ _ => rfl).alike
  property := by
    rintro p x y key ⟨rfl, -⟩
    exact ((passing_look_then x fun w => w.property x key).owning.imp fun _ _ _ => rfl).alike
  children := by
    rintro p x y ⟨rfl, hx⟩
    exact ((owning_children hx).imp fun _ _ h => (each_sameOwned grammars).2 ⟨rfl, h⟩).alike
  extent := by
    rintro p x y ⟨rfl, -⟩
    exact fun w hw => ⟨rfl, p, .refl p, hw, rfl⟩

/-- The library's types answer with nodes in the account. -/
theorem types_owning (type : BuiltIn) :
    (owning grammars).Types SameOwned type.provider type.provider := by
  rintro p x y ⟨rfl, hx⟩
  refine ((owning_find type hx).imp fun q found h => ?_).alike
  cases found with
  | error e => exact rfl
  | ok nodes => exact (each_sameOwned grammars).2 ⟨rfl, h nodes rfl⟩

/-- Whatever an expression finds is in the account. -/
theorem owning_evaluate (types : Query.Registry BuiltIn) (dedupe : Bool) (expression : String)
    {root : Node} (hr : o.Owns root) :
    Owning o ((Engine.ofTypes grammars types dedupe).evaluate expression root).run
      fun p result => ∀ nodes, result = .ok nodes → ∀ n ∈ nodes, p.Owns n := by
  have hprogram : Passing (Engine.program expression :
      ExceptT EngineError (Act grammars) _).run := by
    intro w
    rw [Engine.program_eq]
    exact ⟨rfl, Nat.le_refl _⟩
  rw [Engine.evaluate_run]
  refine hprogram.owning.bind fun p result hp _ => ?_
  cases result with
  | error e => exact owning_pure fun nodes he => by cases he
  | ok program =>
      have hfound := Comparison.alike_evaluate (@forests_owning grammars)
        (Comparison.registries_map types_owning types) dedupe program
        (show SameOwned p root root from ⟨rfl, hp.owns hr⟩)
      refine Owning.bind (P := fun q found => ∀ nodes, found = .ok nodes → ∀ n ∈ nodes, q.Owns n)
        (fun w hw => ?_) fun q found _ hf => ?_
      · obtain ⟨-, q, hq, hlater, hout⟩ := hfound w hw
        refine ⟨q, hq, hlater, fun nodes hok => ?_⟩
        have hout : (owning grammars).Outcome ((owning grammars).Each SameOwned) q (.ok nodes)
            (.ok nodes) := hok ▸ hout
        exact ((each_sameOwned grammars).1 hout).2
      · cases found with
        | error failure => exact owning_pure fun nodes he => by cases he
        | ok found =>
            refine owning_pure fun nodes he => ?_
            obtain rfl := Except.ok.inj he
            exact hf _ rfl

-- ============================================================= updates

/-- An update of a node in a view is no matter of occurrences. -/
theorem passing_updateMember (node : MemberNode) (text : String) :
    Passing (updateMember node text : ExceptT NodeError (Act grammars) Unit).run := by
  intro w
  have hspan := passing_span? node w
  rw [updateMember_run]
  generalize span? node w = result at hspan ⊢
  obtain ⟨found, v⟩ := result
  cases found with
  | none => exact hspan
  | some span =>
      simp only
      split
      · exact hspan
      · exact ⟨hspan.occurrences, hspan.handles⟩

theorem records_updateOccurrence {w : Workspace grammars} {handle : Handle}
    {grammar : Microgrammar} {context : TextNode} {born : Occurrence} {address : String}
    {updateContext : String → ExceptT NodeError (Act grammars) Unit}
    (ho : o handle = some grammar)
    (hupdate : ∀ (v : Workspace grammars) (changed : String), o.Records v →
      o.Records ((updateContext changed).run v).2) (h : o.Records w) (text : String) :
    o.Records
      ((updateOccurrence handle grammar context born address updateContext text).run w).2 := by
  have hv : o.Records (w.value context).2 := (passing_value context w).records h
  have hwritten : ∀ {v : Workspace grammars}, o.Records v → ∀ start,
      o.Records (v.setFound handle (grammar.written start text)) := fun hv start =>
    hv.setFound ho (grammar.formed_written start text)
  rw [updateOccurrence_run]
  cases grammar.locate? ((w.value context).2.found handle born) (w.value context).1 with
  | none => exact hv
  | some span =>
      simp only
      cases (Edit.replacing (w.value context).1 span text).apply (w.value context).1 with
      | error e => cases e <;> exact hv
      | ok outcome =>
          cases outcome with
          | alreadyApplied => exact hwritten hv span.start
          | applied changed =>
              have hu := hupdate _ changed hv
              simp only
              generalize (updateContext changed).run (w.value context).2 = result at hu ⊢
              obtain ⟨result, u⟩ := result
              cases result with
              | error e => exact hu
              | ok _ => exact hwritten hu span.start

/-- What an update records is well formed for the grammar of the handle. -/
theorem records_update {w : Workspace grammars} (target : TextNode) (hn : o.Owns (.text target))
    (h : o.Records w) (text : String) : o.Records ((update target text).run w).2 := by
  induction target generalizing w text with
  | file path => exact ⟨h.issued, h.formed⟩
  | member node => exact (passing_updateMember node text w).records h
  | occurrence handle grammar context index born ih =>
      have hcontext : o.Owns (.text context) := fun entry he =>
        hn entry (List.mem_cons_of_mem _ he)
      exact records_updateOccurrence (hn _ List.mem_cons_self).1
        (fun v changed hv => ih hcontext hv changed) h text
  | binding handle grammar context index born name ih =>
      have hcontext : o.Owns (.text context) := fun entry he =>
        hn entry (List.mem_cons_of_mem _ he)
      unfold update
      rw [run_get_bind]
      simp only
      cases ((w.found handle born).captures.lookup name).bind
          (Text.splice? (w.found handle born).text · text) with
      | none => exact h
      | some spliced =>
          exact records_updateOccurrence (hn _ List.mem_cons_self).1
            (fun v changed hv => ih hcontext hv changed) h spliced

end Act

end TreeQuery
