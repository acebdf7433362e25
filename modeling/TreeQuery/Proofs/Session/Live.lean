/-
Which nodes in views are live.

A node that is held stands somewhere if it has made the present generation of its file itself, or
if its address is in the view of the present text; and nowhere if neither is so. Where it stands
there is a part of the text, as long as the parsers answer with ranges of the texts they are given:
a span that the node has pinned holds the text it has written, and any other is the parser's.
-/
import TreeQuery.Proofs.Session.Recorded
import TreeQuery.Proofs.Workspace.Placing

namespace TreeQuery

open Text (Span Parted)

variable {grammars : Grammars}

/-- Where a node in a view stands, a part of the text stands. -/
theorem Workspace.Remembers.parted {w : Workspace grammars} {notes : List Note}
    {node : MemberNode} (h : w.Remembers notes node) (hw : w.Coherent) (aligned : grammars.Aligned)
    {span : Span} (hspan : w.span? node = some span) :
    ∃ before text after, Parted (w.content node.file) span before text after := by
  have hslice : ∃ text, Text.slice? (w.content node.file) span = some text := by
    unfold Workspace.span? at hspan
    rcases Option.or_eq_some_iff.1 hspan with hp | ⟨-, hresolved⟩
    · exact ⟨_, (h.pinned span hp).1⟩
    · unfold resolve? at hresolved
      rw [hw.view] at hresolved
      obtain ⟨part, hpart, rfl⟩ := Option.map_eq_some_iff.1 hresolved
      exact Option.isSome_iff_exists.1 (aligned.slice? hpart)
  obtain ⟨text, htext⟩ := hslice
  obtain ⟨before, after, hparted⟩ := Text.slice?_eq_some_iff_parted.1 htext
  exact ⟨before, text, after, hparted⟩

namespace Session

variable {changes : ProjectPath → Nat} {notes : List Note} {s : Session grammars}
  {node : MemberNode}

/-- The node has made the present generation of its file, or its address is in the view of the
present text. -/
def Live (notes : List Note) (s : Session grammars) (node : MemberNode) : Prop :=
  MadeBy notes node (s.workspace.document node.file).generation ∨
    ((grammars.view node.language (s.workspace.content node.file)).indexOf?
      (viewAddress node.file node.language) node.address).isSome = true

/-- Exactly the live nodes stand somewhere. -/
theorem isSome_span?_iff (hr : Recorded changes notes s)
    (few : ∀ file, changes file < UInt64.size) (held : .text (.member node) ∈ s.held) :
    (s.workspace.span? node).isSome = true ↔ s.Live notes node := by
  obtain ⟨r, hworkspace, hnotes, hkept, hknows⟩ :=
    kept_of_recorded Workspace.remembering hr few
  obtain ⟨r', hworkspace', hnotes', hkept', hknows'⟩ :=
    kept_of_recorded Workspace.placing hr few
  have hremembers : r.workspace.Remembers r.notes node :=
    hkept.lawful _ _ ((hknows _ held).2 node rfl)
  have hplaces : r'.workspace.Places r'.notes node :=
    hkept'.lawful _ _ ((hknows' _ held).2 node rfl)
  have hcoherent := hkept.coherent
  rw [hworkspace] at hremembers hcoherent
  rw [hworkspace', hnotes'] at hplaces
  rw [hnotes] at hremembers
  constructor
  · intro hsome
    obtain ⟨span, hspan⟩ := Option.isSome_iff_exists.1 hsome
    refine (hremembers.span hcoherent hspan).imp id fun hplaced => ?_
    rw [← Option.ne_none_iff_isSome]
    intro hnone
    unfold Workspace.Placed at hplaced
    rw [View.indexOf?_eq_none_iff.1 hnone] at hplaced
    cases hplaced
  · unfold Workspace.span?
    intro hlive
    rcases hlive with hmade | hindex
    · obtain ⟨span, hp⟩ := Option.isSome_iff_exists.1 (hplaces.pinned?_of_made hmade)
      rw [hp]
      rfl
    · obtain ⟨index, hindex⟩ := Option.isSome_iff_exists.1 hindex
      obtain ⟨entry, part, -, hpart, -⟩ := View.indexOf?_eq_some hindex
      rw [Option.isSome_or]
      unfold Workspace.resolve?
      rw [hcoherent.view, hpart, Option.map_some, Option.isSome_some, Bool.or_true]

/-- Where a node in a view stands that is held, or that a held node was found in, a part of the
text stands. -/
theorem parted_of_recorded (aligned : grammars.Aligned) (hr : Recorded changes notes s)
    (few : ∀ file, changes file < UInt64.size) {target : TextNode}
    (held : .text target ∈ s.held) (hbase : node ∈ target.base?) {span : Span}
    (hspan : s.workspace.span? node = some span) :
    ∃ before text after, Parted (s.workspace.content node.file) span before text after := by
  obtain ⟨r, hworkspace, -, hkept, hknows⟩ := kept_of_recorded Workspace.remembering hr few
  have hremembers : r.workspace.Remembers r.notes node :=
    hkept.lawful _ _ ((hknows _ held).2 node hbase)
  have hcoherent := hkept.coherent
  rw [hworkspace] at hremembers hcoherent
  exact hremembers.parted hcoherent aligned hspan

end Session

end TreeQuery
