/-
Records: what is known of the nodes in views along a run, from the notes of the run.

# Laws

A node in a view changes what it remembers in three ways only: it is asked for its text, it is
asked where it stands, or its span is replaced. Whatever else happens leaves its memory alone and
revises the text of its file at most. A `Law` is a statement about one such node, the workspace
and the notes so far, that holds when the node is found and lasts through these; so a law is
proved by looking at one node, and holds of all of them after any run.

# The record

That an operation on one node leaves another alone rests on their handles being different. So a
`Record` writes down which node has got which handle, beside the workspace and the notes, and it
is `Kept` for a law when the law holds of every node written down. Nodes are `Known` to a record
if what they stand in is there and the node in a view that they were found in, if any, is written
down. Unlike a workspace a record knows directories only that lie above files.

# The contract

`Act.Tells` is the contract of one computation from one record: with the notes it is said to
take, a kept record is followed by a kept record, and what is returned has a property there. Most
computations take no notes (`Act.Lawful`).
-/
import TreeQuery.Proofs.Project.Store
import TreeQuery.Proofs.Workspace.Notes
import TreeQuery.Proofs.Workspace.Writing

namespace TreeQuery

open Text (Span)

variable {grammars : Grammars}

/-- The node in a view that a text node is, or was found in. -/
def TextNode.base? : TextNode → Option MemberNode
  | .file _ => none
  | .member node => some node
  | .occurrence _ _ context _ _ => context.base?
  | .binding _ _ context _ _ _ => context.base?

namespace Workspace

variable {w later : Workspace grammars}

/-- The directory is the root of the project, or lies above one of its files. -/
def HasFolder (w : Workspace grammars) (path : ProjectPath) : Prop :=
  path = [] ∨ ∃ file, (w.project.document? file).isSome ∧ path <+: file ∧ path ≠ file

theorem Advances.hasFolder (h : w.Advances later) {path : ProjectPath} (hp : w.HasFolder path) :
    later.HasFolder path := by
  rcases hp with rfl | ⟨file, hf, hprefix⟩
  · exact .inl rfl
  · exact .inr ⟨file, h.files file hf, hprefix⟩

/-- What lies above a directory or a file is a directory. -/
theorem hasFolder_dropLast {path : ProjectPath}
    (h : w.HasFolder path ∨ (w.project.document? path).isSome) : w.HasFolder path.dropLast := by
  by_cases hnil : path = []
  · rw [hnil]
    exact .inl rfl
  have hshort : path.dropLast.length < path.length := by
    have := List.length_pos_of_ne_nil hnil
    rw [List.length_dropLast]
    omega
  have hlonger : ∀ {file : ProjectPath}, path <+: file → path.dropLast ≠ file := by
    rintro file hp rfl
    have := hp.length_le
    omega
  rcases h with (rfl | ⟨file, hf, hp, -⟩) | hf
  · exact .inl rfl
  · exact .inr ⟨file, hf, (List.dropLast_prefix path).trans hp, hlonger hp⟩
  · exact .inr ⟨path, hf, List.dropLast_prefix path, hlonger (List.prefix_refl path)⟩

/-- Changes of no text always have room. -/
theorem room_of_project (h : later.project = w.project) : w.Room later :=
  fun file hne => absurd (content_of_project h file) hne

end Workspace

-- ================================================================ laws

/-- What holds of a node in a view from when it is found, whatever is done with it and elsewhere,
given the notes of what has been done. -/
structure Law (grammars : Grammars) where
  Holds : Workspace grammars → List Note → MemberNode → Prop
  /-- A node that has just been found. -/
  born : ∀ {w : Workspace grammars} {notes : List Note} {node : MemberNode} {member : Member},
    w.memory node = node.born → node.born = w.observe node.file member →
    (∀ note ∈ notes, note.handle ≠ node.handle) → Holds w notes node
  /-- Something is done elsewhere. -/
  elsewhere : ∀ {w later : Workspace grammars} {notes more : List Note} {node : MemberNode},
    Holds w notes node → later.memory node = w.memory node →
    (w.document node.file).Revised (later.document node.file) →
    (later.content node.file ≠ w.content node.file →
      (w.document node.file).generation < (w.document node.file).generation.next) →
    (∀ note ∈ more, note.handle ≠ node.handle) → Holds later (notes ++ more) node
  /-- The node is asked for its text. -/
  value : ∀ {w : Workspace grammars} {notes : List Note} {node : MemberNode}, w.Coherent →
    Holds w notes node →
    Holds (w.memberValue node).2 (notes ++ w.valueNotes (.member node)) node
  /-- The node is asked where it stands. -/
  extent : ∀ {w : Workspace grammars} {notes : List Note} {node : MemberNode}, w.Coherent →
    Holds w notes node → Holds (Act.memberExtent node w).2 notes node
  /-- The span of the node is replaced. -/
  update : ∀ {w later : Workspace grammars} {notes : List Note} {node : MemberNode}
    {text : String}, w.Coherent → (w.project.document? node.file).isSome →
    (Act.updateMember node text).run w = (.ok (), later) → w.Room later → Holds w notes node →
    Holds later (notes ++ w.memberNotes node text) node

/-- The law that asks for nothing. -/
def Law.vacuous : Law grammars where
  Holds _ _ _ := True
  born _ _ _ := trivial
  elsewhere _ _ _ _ _ := trivial
  value _ _ := trivial
  extent _ _ := trivial
  update _ _ _ _ _ := trivial

-- ============================================================= records

/-- A workspace, with the notes so far and the nodes in views that handles were given to. -/
structure Record (grammars : Grammars) where
  workspace : Workspace grammars
  notes : List Note
  issued : Handle → Option MemberNode

namespace Record

variable {law : Law grammars} {r s t : Record grammars}

/-- The node's file is there, its handles have been given out, and the node in a view that it was
found in is written down. -/
def KnowsText (r : Record grammars) (node : TextNode) : Prop :=
  r.workspace.KnowsText node ∧ ∀ member ∈ node.base?, r.issued member.handle = some member

/-- The node is one that a run can have led to. -/
def Knows (r : Record grammars) : Node → Prop
  | .directory path => r.workspace.HasFolder path
  | .text node => r.KnowsText node
  | .detached _ => False

theorem Knows.workspace {node : Node} (h : r.Knows node) : r.workspace.Knows node := by
  cases node with
  | directory path => trivial
  | detached tree => trivial
  | text node => exact h.1

theorem knows_file {path : ProjectPath} (h : (r.workspace.project.document? path).isSome) :
    r.Knows (.file path) :=
  ⟨⟨h, fun handle hm => by cases hm⟩, fun member hm => by cases hm⟩

/-- What an occurrence was found in is known with it. -/
theorem KnowsText.context {handle : Handle} {grammar : Microgrammar} {context : TextNode}
    {index : Nat} {born : Occurrence}
    (h : r.KnowsText (.occurrence handle grammar context index born)) : r.KnowsText context :=
  ⟨⟨h.1.1, fun _ hm => h.1.2 _ (List.mem_cons_of_mem _ hm)⟩, h.2⟩

theorem KnowsText.contextOfBinding {handle : Handle} {grammar : Microgrammar}
    {context : TextNode} {index : Nat} {born : Occurrence} {name : String}
    (h : r.KnowsText (.binding handle grammar context index born name)) : r.KnowsText context :=
  KnowsText.context (show r.KnowsText (.occurrence handle grammar context index born) from h)

/-- The record later on: more nodes are written down, and no text has changed. -/
structure Extends (r s : Record grammars) : Prop where
  onward : r.workspace.Onward s.workspace
  issued : ∀ handle node, r.issued handle = some node → s.issued handle = some node

theorem Extends.refl (r : Record grammars) : r.Extends r := ⟨.refl _, fun _ _ h => h⟩

theorem Extends.trans (h : r.Extends s) (h' : s.Extends t) : r.Extends t :=
  ⟨h.onward.trans h'.onward, fun handle node hn => h'.issued handle node (h.issued handle node hn)⟩

/-- What is known is known after a step. -/
theorem knows_of_advances (h : r.workspace.Advances s.workspace)
    (hi : ∀ handle node, r.issued handle = some node → s.issued handle = some node)
    {node : Node} (hn : r.Knows node) : s.Knows node := by
  cases node with
  | directory path => exact h.hasFolder hn
  | detached tree => exact hn
  | text node =>
      exact ⟨h.knows (show r.workspace.Knows (.text node) from hn.1),
        fun member hm => hi _ _ (hn.2 member hm)⟩

theorem Extends.knows (h : r.Extends s) {node : Node} (hn : r.Knows node) : s.Knows node :=
  knows_of_advances h.onward.advances h.issued hn

theorem Extends.knowsText (h : r.Extends s) {node : TextNode} (hn : r.KnowsText node) :
    s.KnowsText node := h.knows (show r.Knows (.text node) from hn)

-- ======================================================== kept records

/-- The law holds of all nodes in views that are written down. -/
structure Kept (law : Law grammars) (r : Record grammars) : Prop where
  coherent : r.workspace.Coherent
  noted : ∀ note ∈ r.notes, note.handle < r.workspace.nextHandle
  handle : ∀ handle node, r.issued handle = some node → node.handle = handle
  known : ∀ handle node, r.issued handle = some node → r.workspace.KnowsText (.member node)
  lawful : ∀ handle node, r.issued handle = some node → law.Holds r.workspace r.notes node

/-- The record with the workspace as it is later, and more notes. -/
def moved (r : Record grammars) (later : Workspace grammars) (more : List Note) :
    Record grammars :=
  { r with workspace := later, notes := r.notes ++ more }

/-- A step that is about one node in a view at most: the others are left alone. -/
theorem Kept.moved (h : r.Kept law) {later : Workspace grammars} {more : List Note}
    (step : r.workspace.Stepped later) (room : r.workspace.Room later) (handle : Handle)
    (elsewhere : ∀ node : MemberNode, node.handle ≠ handle →
      later.memory node = r.workspace.memory node)
    (about : ∀ note ∈ more, note.handle = handle ∧ handle < r.workspace.nextHandle)
    (here : ∀ node, r.issued handle = some node → law.Holds later (r.notes ++ more) node) :
    (r.moved later more).Kept law where
  coherent := step.coherent h.coherent room
  noted := by
    intro note hm
    refine Nat.lt_of_lt_of_le ?_ step.advances.handles
    rcases List.mem_append.1 hm with hm | hm
    · exact h.noted note hm
    · exact (about note hm).1 ▸ (about note hm).2
  handle := h.handle
  known := fun other node hn => step.advances.knows
    (show r.workspace.Knows (.text (.member node)) from h.known other node hn)
  lawful := by
    intro other node hn
    have hhandle := h.handle other node hn
    by_cases ho : other = handle
    · exact here node (ho ▸ hn)
    · have hne : node.handle ≠ handle := fun he => ho (hhandle.symm.trans he)
      exact law.elsewhere (h.lawful other node hn) (elsewhere node hne)
        (step.advances.revised _ (h.known other node hn).1) (room node.file)
        fun note hm he => hne (he.symm.trans (about note hm).1)

/-- A step that leaves all memories alone. -/
theorem Kept.still (h : r.Kept law) {later : Workspace grammars}
    (step : r.workspace.Stepped later) (room : r.workspace.Room later)
    (hm : later.memories = r.workspace.memories) : (r.moved later []).Kept law := by
  refine h.moved step room r.workspace.nextHandle (fun node _ => Workspace.memory_eq hm node)
    (fun note hn => by cases hn) fun node hn => ?_
  exact law.elsewhere (h.lawful _ node hn) (Workspace.memory_eq hm node)
    (step.advances.revised _ (h.known _ node hn).1) (room node.file) fun note hm => by cases hm

/-- The record with one more node written down. -/
def issue (r : Record grammars) (node : MemberNode) : Record grammars :=
  { r with issued := fun handle => if handle = node.handle then some node else r.issued handle }

theorem extends_issue {node : MemberNode} (hn : r.issued node.handle = none) :
    r.Extends (r.issue node) := by
  refine ⟨.refl _, fun handle other ho => ?_⟩
  show (if handle = node.handle then some node else r.issued handle) = some other
  by_cases he : handle = node.handle
  · rw [he, hn] at ho
    cases ho
  · rw [if_neg he]
    exact ho

/-- What is written down then is the node, or was written down before. -/
theorem issued_issue {node other : MemberNode} {handle : Handle}
    (h : (r.issue node).issued handle = some other) :
    handle = node.handle ∧ other = node ∨ r.issued handle = some other := by
  have h : (if handle = node.handle then some node else r.issued handle) = some other := h
  split at h
  · rename_i he
    exact .inl ⟨he, (Option.some.inj h).symm⟩
  · exact .inr h

theorem Kept.issue (h : r.Kept law) {node : MemberNode}
    (hk : r.workspace.KnowsText (.member node)) (hl : law.Holds r.workspace r.notes node) :
    (r.issue node).Kept law where
  coherent := h.coherent
  noted := h.noted
  handle := by
    intro handle other ho
    rcases issued_issue ho with ⟨rfl, rfl⟩ | ho
    · rfl
    · exact h.handle handle other ho
  known := by
    intro handle other ho
    rcases issued_issue ho with ⟨-, rfl⟩ | ho
    · exact hk
    · exact h.known handle other ho
  lawful := by
    intro handle other ho
    rcases issued_issue ho with ⟨-, rfl⟩ | ho
    · exact hl
    · exact h.lawful handle other ho

/-- No handle from the next one on is written down. -/
theorem Kept.fresh (h : r.Kept law) {handle : Handle} (hle : r.workspace.nextHandle ≤ handle) :
    r.issued handle = none := by
  cases hi : r.issued handle with
  | none => rfl
  | some node =>
      have hlt := (h.known handle node hi).2 node.handle List.mem_cons_self
      rw [h.handle handle node hi] at hlt
      exact absurd hle (Nat.not_le.2 hlt)

end Record

-- ============================================================ contracts

namespace Act

open Record

variable {α β : Type} {law : Law grammars} {r : Record grammars}
  {R : Record grammars → α → Prop} {Q : Record grammars → β → Prop}

/-- From a kept record, and with the notes it takes, the computation leads to a kept record, and it
returns what has the property there. -/
def Tells (law : Law grammars) (r : Record grammars) (a : Act grammars α)
    (notes : Workspace grammars → List Note) (R : Record grammars → α → Prop) : Prop :=
  r.Kept law → ∃ s : Record grammars, s.workspace = (a r.workspace).2 ∧
    s.notes = r.notes ++ notes r.workspace ∧ r.Extends s ∧ s.Kept law ∧ R s (a r.workspace).1

/-- The contract of a computation that takes no notes. -/
def Lawful (law : Law grammars) (r : Record grammars) (a : Act grammars α)
    (R : Record grammars → α → Prop) : Prop :=
  Tells law r a (fun _ => []) R

theorem lawful_pure {x : α} (h : R r x) : Lawful law r (pure x) R :=
  fun hr => ⟨r, rfl, (List.append_nil _).symm, .refl r, hr, h⟩

/-- One computation after another, with the notes of both. -/
theorem Tells.bind {a : Act grammars α} {f : α → Act grammars β}
    {notes : Workspace grammars → List Note} (ha : Tells law r a notes R)
    (more : α → Workspace grammars → List Note)
    (hf : ∀ s x, r.Extends s → R s x → Tells law s (f x) (more x) Q) :
    Tells law r (a >>= f) (fun w => notes w ++ more (a w).1 (a w).2) Q := by
  intro hr
  obtain ⟨s, hs, hsn, hrs, hsk, hx⟩ := ha hr
  obtain ⟨t, ht, htn, hst, htk, hy⟩ := hf s _ hrs hx hsk
  rw [hs] at ht htn hy
  exact ⟨t, ht, by rw [htn, hsn, List.append_assoc], hrs.trans hst, htk, hy⟩

theorem Lawful.bind {a : Act grammars α} {f : α → Act grammars β} (ha : Lawful law r a R)
    (hf : ∀ s x, r.Extends s → R s x → Lawful law s (f x) Q) : Lawful law r (a >>= f) Q :=
  Tells.bind ha (fun _ _ => []) hf

/-- Silent computations after one that takes notes. -/
theorem Tells.then {a : Act grammars α} {f : α → Act grammars β}
    {notes : Workspace grammars → List Note} (ha : Tells law r a notes R)
    (hf : ∀ s x, r.Extends s → R s x → Lawful law s (f x) Q) : Tells law r (a >>= f) notes Q := by
  have h := Tells.bind ha (fun _ _ => []) hf
  simpa only [List.append_nil] using h

theorem Tells.imp {a : Act grammars α} {notes : Workspace grammars → List Note}
    {R' : Record grammars → α → Prop} (ha : Tells law r a notes R)
    (h : ∀ s x, r.Extends s → R s x → R' s x) : Tells law r a notes R' := by
  intro hr
  obtain ⟨s, hs, hsn, hrs, hsk, hx⟩ := ha hr
  exact ⟨s, hs, hsn, hrs, hsk, h s _ hrs hx⟩

theorem lawful_get {f : Workspace grammars → Act grammars β} (h : Lawful law r (f r.workspace) Q) :
    Lawful law r (get >>= f) Q := h

/-- The record may be taken to be kept. -/
theorem tells_of_kept {a : Act grammars α} {notes : Workspace grammars → List Note}
    (h : r.Kept law → Tells law r a notes R) : Tells law r a notes R := fun hr => h hr hr

/-- A computation that no node remembers anything of. -/
theorem lawful_of_keeps {a : Act grammars α} {P : Workspace grammars → α → Prop}
    (hk : Keeps a r.workspace P)
    (hm : (a r.workspace).2.memories = r.workspace.memories)
    (hR : ∀ s, r.Extends s → P s.workspace (a r.workspace).1 → R s (a r.workspace).1) :
    Lawful law r a R := by
  intro hr
  obtain ⟨hc, hon, hp⟩ := hk hr.coherent
  have hext : r.Extends (r.moved (a r.workspace).2 []) := ⟨hon, fun _ _ h => h⟩
  exact ⟨_, rfl, rfl, hext, hr.still (hon.stepped hc) (Workspace.room_of_project hon.project) hm,
    hR _ hext hp⟩

/-- One computation for each entry of a list. -/
theorem lawful_mapM {ι : Type} {f : ι → Act grammars α} {entries : List ι}
    (stays : ∀ s t x, s.Extends t → R s x → R t x)
    (h : ∀ i ∈ entries, ∀ s, r.Extends s → Lawful law s (f i) R) :
    Lawful law r (entries.mapM f) fun s xs => ∀ x ∈ xs, R s x := by
  induction entries generalizing r with
  | nil =>
      rw [List.mapM_nil]
      exact lawful_pure fun x hx => by cases hx
  | cons i rest ih =>
      rw [List.mapM_cons]
      refine (h i List.mem_cons_self r (.refl r)).bind fun s x hs hx => ?_
      refine (ih fun j hj t ht => h j (List.mem_cons_of_mem _ hj) t (hs.trans ht)).bind
        fun t xs ht hxs => ?_
      refine lawful_pure fun y hy => ?_
      rcases List.mem_cons.1 hy with rfl | hy
      · exact stays s t y ht hx
      · exact hxs y hy

-- ============================================================== looking

theorem lawful_consult {file : ProjectPath} (language : Language)
    (hf : (r.workspace.project.document? file).isSome) :
    Lawful law r (consult file language) fun _ _ => True :=
  lawful_of_keeps (keeps_consult language hf)
    (r.workspace.holdView_fields file language).2.1 fun _ _ _ => trivial

theorem lawful_look {node : Node} (hn : r.Knows node) :
    Lawful law r (look node) fun _ _ => True := by
  cases node with
  | directory path => exact lawful_pure trivial
  | detached tree => exact hn.elim
  | text node =>
      cases node with
      | file path => exact lawful_pure trivial
      | member node => exact lawful_consult node.language hn.1.1
      | occurrence handle grammar context index born => exact lawful_pure trivial
      | binding handle grammar context index born name => exact lawful_pure trivial

theorem lawful_newHandle :
    Lawful law r newHandle fun s handle => handle < s.workspace.nextHandle :=
  lawful_of_keeps keeps_newHandle rfl fun _ _ h => h

/-- A new node in a view is written down. -/
theorem lawful_newMember {file : ProjectPath} (language : Language) (location : Location)
    (member : Member) (hf : (r.workspace.project.document? file).isSome) :
    Lawful law r (newMember file language location member)
      fun s node => s.KnowsText (.member node) := by
  refine tells_of_kept fun hr => ?_
  obtain ⟨hc, hon, hk⟩ := keeps_newMember language location member hf hr.coherent
  -- the node is new: nothing is remembered or noted under its handle
  let node : MemberNode := (newMember file language location member r.workspace).1
  let later : Workspace grammars := (newMember file language location member r.workspace).2
  have hhandle : node.handle = r.workspace.nextHandle := rfl
  have hmoved : (r.moved later []).Kept law :=
    hr.still (hon.stepped hc) (Workspace.room_of_project hon.project) rfl
  have hborn : later.memory node = node.born := by
    show (r.workspace.memories.lookup node.handle).getD node.born = node.born
    rw [hr.coherent.memories _ (Nat.le_of_eq hhandle.symm)]
    rfl
  have hnoted : ∀ note ∈ r.notes ++ [], note.handle ≠ node.handle := by
    intro note hm
    rw [List.append_nil] at hm
    exact Nat.ne_of_lt (hr.noted note hm)
  have hlaw : law.Holds later (r.notes ++ []) node :=
    law.born hborn (show node.born = later.observe file member from rfl) hnoted
  have hfresh : (r.moved later []).issued node.handle = none :=
    hr.fresh (Nat.le_of_eq hhandle.symm)
  refine fun _ => ⟨(r.moved later []).issue node, rfl, rfl, ?_, hmoved.issue hk hlaw, hk, ?_⟩
  · exact Extends.trans (s := r.moved later []) ⟨hon, fun _ _ h => h⟩ (extends_issue hfresh)
  · intro other ho
    obtain rfl := Option.mem_some_iff.1 ho
    exact if_pos rfl

theorem lawful_viewRoot {file : ProjectPath} (language : Language)
    (hf : (r.workspace.project.document? file).isSome) :
    Lawful law r (viewRoot file language) fun s node => s.KnowsText (.member node) := by
  refine (lawful_consult language hf).bind fun s _ hs _ => ?_
  exact lawful_get (lawful_newMember language [] _ (hs.onward.project ▸ hf))

-- ============================================================= walking

/-- The children of a node in a view are those of its member. -/
theorem memberChildren_run (node : MemberNode) (w : Workspace grammars) :
    memberChildren node w =
      (match w.resolve? node with
        | none => pure []
        | some tree => tree.numberedChildren.mapM fun (segment, child) => do
            return .text (.member (← newMember node.file node.language (node.location ++ [segment])
              child.label)) : Act grammars (List Node)) (w.holdView node.file node.language) := by
  rw [← Workspace.resolve?_holdView]
  rfl

theorem lawful_memberChildren {node : MemberNode} (hn : r.KnowsText (.member node)) :
    Lawful law r (memberChildren node) fun s nodes => ∀ n ∈ nodes, s.Knows n := by
  refine (lawful_consult node.language hn.1.1).bind fun s _ hs _ => lawful_get ?_
  cases s.workspace.resolve? node with
  | none => exact lawful_pure fun n hm => by cases hm
  | some tree =>
      refine lawful_mapM (fun s t n hst => hst.knows) fun i _ t ht => ?_
      obtain ⟨segment, child⟩ := i
      refine (lawful_newMember node.language _ child.label
        ((hs.trans ht).onward.project ▸ hn.1.1)).bind fun s n _ hn => ?_
      exact lawful_pure hn

/-- A name below a directory leads to a file, or to a directory above files. -/
theorem knows_entry {directory : ProjectPath} {name : String}
    (h : name ∈ r.workspace.project.namesBelow directory) :
    r.Knows (r.workspace.entry directory name) := by
  unfold Workspace.entry
  simp only
  split
  · rename_i hf
    exact knows_file hf
  · rename_i hf
    obtain ⟨file, hm, hp⟩ := Project.mem_namesBelow.1 h
    obtain ⟨document, hd⟩ := Project.mem_paths_iff.1 hm
    refine .inr ⟨file, by rw [hd]; rfl, hp, ?_⟩
    rintro rfl
    rw [hd] at hf
    exact hf rfl

theorem lawful_children {node : Node} (hn : r.Knows node) :
    Lawful law r (children node) fun s nodes => ∀ n ∈ nodes, s.Knows n := by
  cases node with
  | directory path =>
      refine lawful_get (lawful_pure fun n hm => ?_)
      obtain ⟨name, hname, rfl⟩ := List.mem_map.1 hm
      exact knows_entry hname
  | detached tree => exact hn.elim
  | text node =>
      cases node with
      | file path => exact lawful_pure fun n hm => by cases hm
      | member node => exact lawful_memberChildren hn
      | binding handle grammar context index born name =>
          exact lawful_pure fun n hm => by cases hm
      | occurrence handle grammar context index born =>
          refine lawful_get (lawful_pure fun n hm => ?_)
          obtain ⟨⟨name, span⟩, -, rfl⟩ := List.mem_map.1 hm
          exact hn

theorem lawful_textParent {node : TextNode} (hn : r.KnowsText node) :
    Lawful law r (textParent node) fun s above => s.Knows above := by
  cases node with
  | file path => exact lawful_pure (Workspace.hasFolder_dropLast (.inr hn.1.1))
  | occurrence handle grammar context index born => exact lawful_pure hn.context
  | binding handle grammar context index born name => exact lawful_pure hn
  | member node =>
      have hfile : ∀ {s : Record grammars}, r.Extends s → s.Knows (.file node.file) :=
        fun hs => knows_file (hs.onward.project ▸ hn.1.1)
      unfold textParent
      simp only
      split
      · exact lawful_pure (hfile (.refl r))
      · refine (lawful_consult node.language hn.1.1).bind fun s _ hs _ => lawful_get ?_
        cases (s.workspace.view node.file node.language).at? node.location.dropLast with
        | none => exact lawful_pure (hfile hs)
        | some tree =>
            refine (lawful_newMember node.language _ tree.label
              (hs.onward.project ▸ hn.1.1)).bind fun s n _ hn => ?_
            exact lawful_pure hn

theorem lawful_parent? {node : Node} (hn : r.Knows node) :
    Lawful law r (parent? node) fun s above => ∀ n ∈ above, s.Knows n := by
  cases node with
  | directory path =>
      refine lawful_pure fun n hm => ?_
      split at hm
      · cases hm
      · obtain rfl := Option.mem_some_iff.1 hm
        exact Workspace.hasFolder_dropLast (.inl hn)
  | detached tree => exact hn.elim
  | text node =>
      refine (lawful_textParent hn).bind fun s above _ ha => ?_
      refine lawful_pure fun n hm => ?_
      obtain rfl := Option.mem_some_iff.1 hm
      exact ha

theorem lawful_ancestorsWithin (fuel : Nat) {node : Node} (hn : r.Knows node) :
    Lawful law r (ancestorsWithin fuel node) fun s nodes => ∀ n ∈ nodes, s.Knows n := by
  induction fuel generalizing r node with
  | zero => exact lawful_pure fun n hm => by cases hm
  | succ fuel ih =>
      refine (lawful_parent? hn).bind fun s above hs ha => ?_
      cases above with
      | none => exact lawful_pure fun n hm => by cases hm
      | some above =>
          have habove : s.Knows above := ha above rfl
          refine (ih habove).bind fun t nodes ht hns => ?_
          refine lawful_pure fun n hm => ?_
          rcases List.mem_cons.1 hm with rfl | hm
          · exact ht.knows habove
          · exact hns n hm

-- ======================================================= values, layout

/-- A step about one node in a view that is written down. -/
theorem kept_of_step (hr : r.Kept law) {node : MemberNode} (hn : r.KnowsText (.member node))
    {later : Workspace grammars} {more : List Note} (step : r.workspace.Stepped later)
    (room : r.workspace.Room later)
    (elsewhere : ∀ other : MemberNode, other.handle ≠ node.handle →
      later.memory other = r.workspace.memory other)
    (about : ∀ note ∈ more, note.handle = node.handle)
    (here : law.Holds r.workspace r.notes node → law.Holds later (r.notes ++ more) node) :
    (r.moved later more).Kept law := by
  have hissued : r.issued node.handle = some node := hn.2 node rfl
  refine hr.moved step room node.handle elsewhere
    (fun note hm => ⟨about note hm, hn.1.2 _ List.mem_cons_self⟩) fun other ho => ?_
  obtain rfl := Option.some.inj (hissued.symm.trans ho)
  exact here (hr.lawful _ _ hissued)

/-- A question for a text is remembered by the node it is put to at most. -/
theorem memory_memberValue (w : Workspace grammars) {node other : MemberNode}
    (ho : other.handle ≠ node.handle) : (w.memberValue node).2.memory other = w.memory other := by
  have hheld := Workspace.memory_eq (w.holdView_fields node.file node.language).2.1 other
  rcases w.memberValue_cases node with h | ⟨-, h⟩ | ⟨-, memory, -, h⟩
  · rw [h]
  · rw [h]
    exact hheld
  · rw [h, Workspace.memory_remember, if_neg ho]
    exact hheld

theorem tells_value {node : TextNode} (hn : r.KnowsText node) :
    Tells law r (value node) (·.valueNotes node) fun _ _ => True := by
  cases node with
  | file path => exact fun hr => ⟨r, rfl, (List.append_nil _).symm, .refl r, hr, trivial⟩
  | occurrence handle grammar context index born =>
      exact fun hr => ⟨r, rfl, (List.append_nil _).symm, .refl r, hr, trivial⟩
  | binding handle grammar context index born name =>
      exact fun hr => ⟨r, rfl, (List.append_nil _).symm, .refl r, hr, trivial⟩
  | member node =>
      intro hr
      obtain ⟨hc, hon, -⟩ := keeps_value hn.1 hr.coherent
      refine ⟨r.moved _ _, rfl, rfl, ⟨hon, fun _ _ h => h⟩, ?_, trivial⟩
      refine kept_of_step hr hn (hon.stepped hc) (Workspace.room_of_project hon.project)
        (fun other ho => memory_memberValue r.workspace ho) (fun note hm => ?_)
        (law.value hr.coherent)
      rw [List.mem_singleton.1 hm]

theorem lawful_span? {node : MemberNode} (hn : r.KnowsText (.member node)) :
    Lawful law r (span? node) fun _ _ => True :=
  lawful_of_keeps (keeps_span? hn.1) (span?_eq node r.workspace).2.2.1 fun _ _ _ => trivial

/-- Asking a node where it stands leaves what it remembers of its extent, if anything. -/
theorem memberExtent_snd (node : MemberNode) (w : Workspace grammars) :
    (memberExtent node w).2 = w ∨ ∃ slot, (memberExtent node w).2 =
      (span? node w).2.remember node { (span? node w).2.memory node with extent := slot } := by
  unfold memberExtent
  rw [get_bind_apply, get_bind_apply]
  cases (w.memory node).extent.get? (w.document node.file).generation with
  | some extent => exact .inl rfl
  | none => exact .inr ⟨_, rfl⟩

theorem memory_memberExtent (w : Workspace grammars) {node other : MemberNode}
    (ho : other.handle ≠ node.handle) : (memberExtent node w).2.memory other = w.memory other := by
  obtain ⟨-, -, hm, -⟩ := span?_eq node w
  rcases memberExtent_snd node w with h | ⟨slot, h⟩
  · rw [h]
  · rw [h, Workspace.memory_remember, if_neg ho]
    exact Workspace.memory_eq hm other

theorem lawful_memberExtent {node : MemberNode} (hn : r.KnowsText (.member node)) :
    Lawful law r (memberExtent node) fun _ _ => True := by
  intro hr
  obtain ⟨hc, hon, -⟩ := keeps_memberExtent hn.1 hr.coherent
  refine ⟨r.moved _ [], rfl, rfl, ⟨hon, fun _ _ h => h⟩, ?_, trivial⟩
  refine kept_of_step hr hn (hon.stepped hc) (Workspace.room_of_project hon.project)
    (fun other ho => memory_memberExtent r.workspace ho) (fun note hm => by cases hm) fun h => ?_
  rw [List.append_nil]
  exact law.extent hr.coherent h

end Act

end TreeQuery
