/-
Workspaces agree with snapshots: whatever a query finds in a coherent workspace is what it
finds in the snapshot of the project.

# The ledger

Nodes found on the way have handles, and later questions about them go through what the
workspace remembers under those. A `Ledger` writes down which node got which handle since the
query began. It is `Correct` when each of them still stands where it was found, has nothing
pinned, and remembers of its extent only what is right; the handles from before play no part,
whatever is remembered under them.

# The comparison

`agreeing` compares computations in a workspace, started at a correct ledger, with answers
that have no effects: a later ledger is correct, and what is returned shows what is answered
(`Shows`). Forests and types agree (`forests_agreeing`, `types_agreeing`), so evaluations do,
and the looks taken at all that was found. The result is `survey_eq`: what a coherent
workspace shows depends on its snapshot only.
-/
import TreeQuery.Proofs.Snapshot.Basic
import TreeQuery.Proofs.View.Locations
import TreeQuery.Proofs.Workspace.Looking

namespace TreeQuery

open Text (Span)
open Query (Comparison)

variable {grammars : Grammars}

-- =============================================================== texts

namespace Workspace

variable {w later : Workspace grammars} {node : MemberNode}

theorem lookup_snapshot (w : Workspace grammars) (file : ProjectPath) :
    w.snapshot.texts.lookup file = (w.project.document? file).map Document.content := by
  show List.lookup file (w.project.files.map fun entry => (entry.1, entry.2.content)) =
    (w.project.files.lookup file).map Document.content
  induction w.project.files with
  | nil => rfl
  | cons entry rest ih =>
      rw [List.map_cons, List.lookup_cons, List.lookup_cons]
      cases file == entry.1 with
      | true => rfl
      | false => exact ih

theorem content_snapshot (w : Workspace grammars) (file : ProjectPath) :
    w.snapshot.content file = w.content file := by
  unfold Snapshot.content content document
  rw [lookup_snapshot]
  cases w.project.document? file with
  | none => rfl
  | some document => rfl

theorem paths_snapshot (w : Workspace grammars) :
    w.snapshot.texts.map (·.1) = w.project.paths := w.project.texts_map_fst

theorem Coherent.view_snapshot (h : w.Coherent) (file : ProjectPath) (language : Language) :
    w.view file language = w.snapshot.view file language := by
  rw [h.view]
  unfold Snapshot.view
  rw [content_snapshot]

theorem Coherent.resolve?_eq (h : w.Coherent) (node : MemberNode) :
    w.resolve? node = w.snapshot.tree? node.file node.language node.location := by
  unfold resolve? Snapshot.tree?
  rw [h.view_snapshot]

theorem Onward.snapshot (h : w.Onward later) : later.snapshot = w.snapshot := by
  unfold Workspace.snapshot
  rw [h.project]

theorem Onward.document (h : w.Onward later) (file : ProjectPath) :
    later.document file = w.document file := Workspace.document_of_project h.project file

theorem Onward.content (h : w.Onward later) (file : ProjectPath) :
    later.content file = w.content file := Workspace.content_of_project h.project file

-- ====================================================== standing nodes

/-- The node stands where the view has a member; it has pinned nothing, and what it remembers
of its extent is right. -/
structure Standing (w : Workspace grammars) (node : MemberNode) : Prop where
  known : w.KnowsText (.member node)
  resolved : (w.snapshot.tree? node.file node.language node.location).isSome
  unpinned : (w.memory node).pinned = none
  extent : (w.memory node).extent.Sound (w.document node.file).generation
    (· = .ofSpan (w.content node.file)
      (w.snapshot.member node.file node.language node.location).span)

/-- A node goes on standing as long as it pins nothing and keeps its extent. -/
theorem Standing.onward (h : w.Standing node) (hon : w.Onward later)
    (hp : (later.memory node).pinned = (w.memory node).pinned)
    (he : (later.memory node).extent = (w.memory node).extent) : later.Standing node where
  known := hon.knowsText h.known
  resolved := hon.snapshot ▸ h.resolved
  unpinned := hp.trans h.unpinned
  extent := by
    rw [he, hon.document, hon.content, hon.snapshot]
    exact h.extent

/-- The tree a standing node is the root of. -/
theorem Standing.tree (h : w.Standing node) (hc : w.Coherent) :
    ∃ tree, w.resolve? node = some tree ∧
      w.snapshot.tree? node.file node.language node.location = some tree ∧
      w.snapshot.member node.file node.language node.location = tree.label := by
  obtain ⟨tree, ht⟩ := Option.isSome_iff_exists.1 h.resolved
  refine ⟨tree, by rw [hc.resolve?_eq, ht], ht, ?_⟩
  unfold Snapshot.member
  rw [ht]
  rfl

theorem Standing.member (h : w.Standing node) (hc : w.Coherent) :
    w.member node = w.snapshot.member node.file node.language node.location := by
  obtain ⟨tree, hres, -, hm⟩ := h.tree hc
  unfold Workspace.member
  rw [hres, hm]

theorem Standing.pinned? (h : w.Standing node) : w.pinned? node = none := by
  unfold Workspace.pinned?
  rw [h.unpinned]

theorem Standing.span? (h : w.Standing node) (hc : w.Coherent) :
    w.span? node = some (w.snapshot.member node.file node.language node.location).span := by
  obtain ⟨tree, hres, -, hm⟩ := h.tree hc
  unfold Workspace.span?
  rw [h.pinned?, hres, hm]
  rfl

end Workspace

-- ============================================================= ledgers

/-- A workspace, with the nodes that got handles since a query began. -/
structure Ledger (grammars : Grammars) where
  workspace : Workspace grammars
  /-- The handles from here on were given out since then. -/
  since : Handle
  issued : Handle → Option MemberNode

namespace Ledger

variable {S : Snapshot grammars} {L M N : Ledger grammars}

/-- The workspace shows the snapshot, and all that is written down stands. -/
structure Correct (S : Snapshot grammars) (L : Ledger grammars) : Prop where
  coherent : L.workspace.Coherent
  snapshot : L.workspace.snapshot = S
  since : L.since ≤ L.workspace.nextHandle
  handle : ∀ handle node, L.issued handle = some node → node.handle = handle
  standing : ∀ handle node, L.issued handle = some node → L.workspace.Standing node
  occurrences : ∀ handle, L.since ≤ handle → L.workspace.occurrences.lookup handle = none

/-- A later ledger of the same query. -/
structure Extends (L M : Ledger grammars) : Prop where
  onward : L.workspace.Onward M.workspace
  since : M.since = L.since
  issued : ∀ handle node, L.issued handle = some node → M.issued handle = some node

theorem Extends.refl (L : Ledger grammars) : L.Extends L := ⟨.refl _, rfl, fun _ _ h => h⟩

theorem Extends.trans (h : L.Extends M) (h' : M.Extends N) : L.Extends N :=
  ⟨h.onward.trans h'.onward, h'.since.trans h.since,
    fun handle node hn => h'.issued handle node (h.issued handle node hn)⟩

/-- The ledger with the workspace as it is later. -/
def moved (L : Ledger grammars) (later : Workspace grammars) : Ledger grammars :=
  { L with workspace := later }

theorem extends_moved {later : Workspace grammars} (h : L.workspace.Onward later) :
    L.Extends (L.moved later) := ⟨h, rfl, fun _ _ h => h⟩

theorem Correct.moved (h : L.Correct S) {later : Workspace grammars} (hc : later.Coherent)
    (hon : L.workspace.Onward later)
    (hs : ∀ handle node, L.issued handle = some node → later.Standing node)
    (ho : later.occurrences = L.workspace.occurrences) : (L.moved later).Correct S where
  coherent := hc
  snapshot := hon.snapshot.trans h.snapshot
  since := Nat.le_trans h.since hon.handles
  handle := h.handle
  standing := hs
  occurrences := fun handle hle => by
    show later.occurrences.lookup handle = none
    rw [ho]
    exact h.occurrences handle hle

/-- One handle, one node. -/
theorem Correct.eq_of_handle (h : L.Correct S) {node other : MemberNode}
    (hn : L.issued node.handle = some node) {handle : Handle}
    (ho : L.issued handle = some other) (he : other.handle = node.handle) : other = node := by
  rw [← h.handle handle other ho, he, hn] at ho
  exact (Option.some.inj ho).symm

/-- The ledger with one more node written down. -/
def issue (L : Ledger grammars) (node : MemberNode) : Ledger grammars :=
  { L with issued := fun handle => if handle = node.handle then some node else L.issued handle }

theorem extends_issue {node : MemberNode} (hn : L.issued node.handle = none) :
    L.Extends (L.issue node) := by
  refine ⟨.refl _, rfl, fun handle other ho => ?_⟩
  show (if handle = node.handle then some node else L.issued handle) = some other
  by_cases he : handle = node.handle
  · rw [he, hn] at ho
    cases ho
  · rw [if_neg he]
    exact ho

theorem Correct.issue (h : L.Correct S) {node : MemberNode}
    (hs : L.workspace.Standing node) : (L.issue node).Correct S := by
  refine ⟨h.coherent, h.snapshot, h.since, fun handle other ho => ?_, fun handle other ho => ?_,
    h.occurrences⟩
  · have ho : (if handle = node.handle then some node else L.issued handle) = some other := ho
    split at ho
    · rename_i he
      rw [he, Option.some.inj ho]
    · exact h.handle handle other ho
  · have ho : (if handle = node.handle then some node else L.issued handle) = some other := ho
    split at ho
    · exact Option.some.inj ho ▸ hs
    · exact h.standing handle other ho

-- ======================================================== nodes, places

end Ledger

/-- The place a text node stands for. -/
def TextNode.place : TextNode → TextPlace
  | .file path => .file path
  | .member node => .member node.file node.language node.location
  | .occurrence _ grammar context index born => .occurrence grammar context.place index born
  | .binding _ grammar context index born name => .binding grammar context.place index born name

theorem TextNode.address_place (node : TextNode) : node.place.address = node.address := by
  induction node with
  | file path => rfl
  | member node => rfl
  | occurrence handle grammar context index born ih =>
      show TextNode.occurrenceAddress context.place.address grammar index = _
      rw [ih]
      rfl
  | binding handle grammar context index born name ih =>
      show TextNode.occurrenceAddress context.place.address grammar index ++ "/" ++ name = _
      rw [ih]
      rfl

namespace Ledger

variable {S : Snapshot grammars} {L M N : Ledger grammars}

/-- The node, and all it was found in, got their handles since the query began. -/
def Issued (L : Ledger grammars) : TextNode → Prop
  | .file _ => True
  | .member node => L.issued node.handle = some node
  | .occurrence handle _ context _ _ => L.since ≤ handle ∧ L.Issued context
  | .binding handle _ context _ _ _ => L.since ≤ handle ∧ L.Issued context

/-- The text node shows the place. -/
def ShowsText (L : Ledger grammars) (node : TextNode) (place : TextPlace) : Prop :=
  node.place = place ∧ L.workspace.KnowsText node ∧ L.Issued node

/-- The node shows the place. -/
def Shows (L : Ledger grammars) : Node → Place → Prop
  | .directory path, .directory other => path = other
  | .text node, .text place => L.ShowsText node place
  | _, _ => False

theorem Extends.issued_of (h : L.Extends M) {node : TextNode} (hn : L.Issued node) :
    M.Issued node := by
  induction node with
  | file path => trivial
  | member node => exact h.issued node.handle node hn
  | occurrence handle grammar context index born ih => exact ⟨h.since ▸ hn.1, ih hn.2⟩
  | binding handle grammar context index born name ih => exact ⟨h.since ▸ hn.1, ih hn.2⟩

theorem Extends.showsText (h : L.Extends M) {node : TextNode} {place : TextPlace}
    (hs : L.ShowsText node place) : M.ShowsText node place :=
  ⟨hs.1, h.onward.knowsText hs.2.1, h.issued_of hs.2.2⟩

theorem Extends.shows (h : L.Extends M) {node : Node} {place : Place}
    (hs : L.Shows node place) : M.Shows node place := by
  match node, place, hs with
  | .directory _, .directory _, hs => exact hs
  | .text _, .text _, hs => exact h.showsText hs

/-- An occurrence found since the query began is what it was found as. -/
theorem Correct.found (h : L.Correct S) {handle : Handle} (hle : L.since ≤ handle)
    (born : Occurrence) : L.workspace.found handle born = born := by
  unfold Workspace.found
  rw [h.occurrences handle hle]
  rfl

end Ledger

-- ========================================================= comparison

/-- A computation in a workspace, compared with an answer about a snapshot. -/
def agreeing (S : Snapshot grammars) : Comparison (Act grammars) Id where
  World := Ledger grammars
  le := Ledger.Extends
  refl := .refl
  trans := .trans
  Alike L R a b := L.Correct S → ∃ M : Ledger grammars, M.workspace = (a L.workspace).2 ∧
    L.Extends M ∧ M.Correct S ∧ R M (a L.workspace).1 b
  pure {α β L R x y} h := fun hL => ⟨L, rfl, .refl L, hL, h⟩
  bind {α β γ δ L R Q a b f g} ha hf := by
    intro hL
    obtain ⟨M, hM, hLM, hMc, hx⟩ := ha hL
    obtain ⟨N, hN, hMN, hNc, hy⟩ := hf M _ _ hLM hx hMc
    rw [hM] at hN hy
    exact ⟨N, hN, hLM.trans hMN, hNc, hy⟩

/-- The computation, started at the ledger, agrees with the answer. -/
abbrev Act.Agrees {α β : Type} (S : Snapshot grammars) (L : Ledger grammars)
    (R : Ledger grammars → α → β → Prop) (a : Act grammars α) (b : β) : Prop :=
  (agreeing S).Alike (α := α) (β := β) L R a b

namespace Act

variable {α β γ δ : Type} {S : Snapshot grammars} {L : Ledger grammars}
  {R : Ledger grammars → α → β → Prop} {Q : Ledger grammars → γ → δ → Prop}

theorem agrees_pure {x : α} {y : β} (h : R L x y) : Agrees S L R (pure x) y :=
  (agreeing S).pure h

/-- The ledger may be taken to be correct. -/
theorem agrees_of_correct {a : Act grammars α} {b : β} (h : L.Correct S → Agrees S L R a b) :
    Agrees S L R a b := fun hL => h hL hL

/-- Going on after a computation whose answer is known. -/
theorem Agrees.bind {a : Act grammars α} {x : β} {f : α → Act grammars γ} {y : δ}
    (ha : Agrees S L R a x) (hf : ∀ M v, L.Extends M → R M v x → Agrees S M Q (f v) y) :
    Agrees S L Q (a >>= f) y := by
  intro hL
  obtain ⟨M, hM, hLM, hMc, hx⟩ := ha hL
  obtain ⟨N, hN, hMN, hNc, hy⟩ := hf M _ hLM hx hMc
  rw [hM] at hN hy
  exact ⟨N, hN, hLM.trans hMN, hNc, hy⟩

theorem agrees_get {f : Workspace grammars → Act grammars γ} {y : δ}
    (h : Agrees S L Q (f L.workspace) y) : Agrees S L Q (get >>= f) y := h

/-- A computation that remembers nothing about nodes. -/
theorem agrees_of_keeps {a : Act grammars α} {b : β} {P : Workspace grammars → α → Prop}
    (hk : Keeps a L.workspace P)
    (hm : (a L.workspace).2.memories = L.workspace.memories ∧
      (a L.workspace).2.occurrences = L.workspace.occurrences)
    (hr : ∀ M, L.Extends M → P M.workspace (a L.workspace).1 → R M (a L.workspace).1 b) :
    Agrees S L R a b := by
  intro hL
  obtain ⟨hc, hon, hp⟩ := hk hL.coherent
  refine ⟨L.moved _, rfl, Ledger.extends_moved hon, hL.moved hc hon (fun handle node hn => ?_)
    hm.2, hr _ (Ledger.extends_moved hon) hp⟩
  have hmem := Workspace.memory_eq hm.1 node
  exact (hL.standing handle node hn).onward hon (by rw [hmem]) (by rw [hmem])

/-- One computation for each entry of a list. -/
theorem agrees_mapM {ι : Type} {entries : List ι} {f : ι → Act grammars γ} {g : ι → δ}
    (hQ : ∀ M N x y, M.Extends N → Q M x y → Q N x y)
    (h : ∀ i ∈ entries, ∀ M, L.Extends M → Agrees S M Q (f i) (g i)) :
    Agrees S L (fun M => List.Forall₂ (Q M)) (entries.mapM f) (entries.map g) := by
  induction entries generalizing L with
  | nil =>
      rw [List.mapM_nil]
      exact agrees_pure .nil
  | cons i rest ih =>
      rw [List.mapM_cons]
      refine (h i List.mem_cons_self L (.refl L)).bind fun M v hM hv => ?_
      refine (ih fun j hj N hN => h j (List.mem_cons_of_mem _ hj) N (hM.trans hN)).bind
        fun N vs hN hvs => ?_
      exact agrees_pure (.cons (hQ M N v (g i) hN hv) hvs)

end Act

end TreeQuery
