/-
Where nodes in views are, along whole runs.

A node in a view may be asked where it is at any time, and what it answers is kept; it may write,
and so pin a span that no view knows of; and the file may change under it. `Wrote node changes last
s` is a run to `s` with the generation that the node has made last and the span it has written
then. The invariant is that the pin follows (`Wrote.tracks`): an update of the node moves both, an
update that changes nothing moves neither, and whatever is done elsewhere leaves the pin to the
generation it belongs to.

So a node that has made the present generation stands where it has written then, and any other
node where its address is in the view of the present text; and either way its lines and columns
are those of that span in the present text, no matter when they were worked out
(`placed_of_wrote`).
-/
import TreeQuery.Proofs.Session.Genuine
import TreeQuery.Proofs.Session.Stale
import TreeQuery.Proofs.Workspace.Pinning
import TreeQuery.Proofs.Workspace.Placing

namespace TreeQuery

open Text (Span)

variable {grammars : Grammars}

/-- The generation that the action makes by writing to the node, with the span it writes. -/
def Action.writing (node : MemberNode) (action : Action) (w : Workspace grammars) :
    Option (Generation × Span) :=
  match action with
  | .update target text => w.writtenBy node (Workspace.updateNotes target text w)
  | _ => none

namespace Session

variable {changes : ProjectPath → Nat} {s : Session grammars} {node : MemberNode}
  {last : Option (Generation × Span)}

/-- A run of actions leads to the session, with so many changes of each file, and this is the last
generation that the node has made, with the span it has written then. -/
inductive Wrote (node : MemberNode) :
    (ProjectPath → Nat) → Option (Generation × Span) → Session grammars → Prop
  | start (name : String) (programs : Expression.ProgramCache)
      (patterns : PatternCache grammars) :
      Wrote node (fun _ => 0) none (start name programs patterns)
  | step {changes : ProjectPath → Nat} {last : Option (Generation × Span)}
      {s : Session grammars} (action : Action) :
      Wrote node changes last s → (∀ node ∈ action.subject?, node ∈ s.held) →
      Wrote node (fun file => changes file + changed s.workspace (s.step action).workspace file)
        ((action.writing node s.workspace).or last) (s.step action)

theorem Wrote.reached (h : Wrote node changes last s) : Reached changes s := by
  induction h with
  | start name programs patterns => exact .start name programs patterns
  | step action _ subject ih => exact ih.step action subject

/-- Every run makes some generation last by the node, or none. -/
theorem Reached.wrote (h : Reached changes s) (node : MemberNode) :
    ∃ last, Wrote node changes last s := by
  induction h with
  | start name programs patterns => exact ⟨none, .start name programs patterns⟩
  | step action _ subject ih =>
      obtain ⟨last, hlast⟩ := ih
      exact ⟨_, hlast.step action subject⟩

-- =========================================================== invariant

/-- No other node in a view has the node's handle, among those held and those they were found in. -/
def Sole (s : Session grammars) (node : MemberNode) : Prop :=
  ∀ target, .text target ∈ s.held → ∀ base ∈ target.base?, base.handle = node.handle → base = node

/-- A node that is held is the only one with its handle. -/
theorem sole_of_reached (hr : Reached changes s) (few : ∀ file, changes file < UInt64.size)
    (held : .text (.member node) ∈ s.held) : s.Sole node := by
  obtain ⟨notes, hrecorded⟩ := hr.recorded
  obtain ⟨r, -, -, -, hknows⟩ := kept_of_recorded Law.vacuous hrecorded few
  intro target htarget base hbase hhandle
  have hnode := (hknows _ held).2 node rfl
  have hissued := (hknows _ htarget).2 base hbase
  rw [hhandle, hnode] at hissued
  exact (Option.some.inj hissued).symm

/-- A step of a session leaves the pin of a node, or the node writes in it. -/
theorem repinned_step (hg : s.Genuine) (hs : Sound changes s) (sole : s.Sole node)
    (hn : node.born.pinned = none) (action : Action)
    (subject : ∀ node ∈ action.subject?, node ∈ s.held) :
    ((s.step action).workspace.pin node.handle = s.workspace.pin node.handle ∧
        action.writing node s.workspace = none) ∨
      ∃ notes span text, s.workspace.Repins (s.step action).workspace notes node span text ∧
        action.writing node s.workspace = s.workspace.writtenBy node notes := by
  cases hq : action.isQuestion with
  | true =>
      obtain ⟨hmoved, -⟩ := Action.asks_run hq (fun n hm => hg.nodes n (subject n hm)) s.workspace
      refine .inl ⟨hmoved.pin node.handle, ?_⟩
      cases action with
      | update target text => cases hq
      | _ => rfl
  | false =>
      by_cases hu : ∃ target text, action = .update target text
      · obtain ⟨target, text, rfl⟩ := hu
        have htarget := subject _ rfl
        have hknown : s.workspace.KnowsText target := hs.known _ htarget
        rcases Act.repinned_update hn (hg.nodes _ htarget) hknown.1 (sole target htarget) text with
          hleaves | ⟨span, new, hrepins⟩
        · exact .inl ⟨hleaves.1, hleaves.writtenBy⟩
        · exact .inr ⟨_, span, new, hrepins, rfl⟩
      · have hu : ∀ target text, action ≠ .update target text := fun target text he =>
          hu ⟨target, text, he⟩
        obtain ⟨hmemories, -, -⟩ := Action.still_run hq hu s.workspace
        refine .inl ⟨Workspace.pin_of_memories hmemories node.handle, ?_⟩
        cases action with
        | update target text => exact absurd rfl (hu target text)
        | _ => rfl

/-- The pin follows what the node has made last; and as long as there is no file of the node,
nothing has been pinned or made. -/
theorem Wrote.tracks (h : Wrote node changes last s) (few : ∀ file, changes file < UInt64.size)
    (sole : s.Sole node) (hn : node.born.pinned = none) :
    s.workspace.Tracks node last ∧ (s.workspace.project.document? node.file = none →
      s.workspace.pin node.handle = none ∧ last = none) := by
  induction h with
  | start name programs patterns => exact ⟨Workspace.tracks_none rfl, fun _ => ⟨rfl, rfl⟩⟩
  | @step changes last s action h subject ih =>
      have hfew : ∀ file, changes file < UInt64.size := fun file =>
        Nat.lt_of_le_of_lt (Nat.le_add_right _ _) (few file)
      obtain ⟨htracks, hunborn⟩ := ih hfew fun target htarget =>
        sole target (List.mem_append_left _ htarget)
      have hsole : s.Sole node := fun target htarget =>
        sole target (List.mem_append_left _ htarget)
      have hsound := sound_of_reached h.reached hfew
      have hroom := hsound.room few
      have hadvances := (action.stepped_run hsound.coherent
        fun n hm => hsound.known n (subject n hm)).1.advances
      rcases repinned_step (genuine_of_reached h.reached) hsound hsole hn action subject with
        ⟨hpin, hnone⟩ | ⟨notes, span, text, hrepins, hwriting⟩
      · rw [hnone, Option.none_or]
        cases hf : s.workspace.project.document? node.file with
        | none =>
            obtain ⟨hnopin, rfl⟩ := hunborn hf
            exact ⟨Workspace.tracks_none (hpin.trans hnopin), fun _ => ⟨hpin.trans hnopin, rfl⟩⟩
        | some document =>
            have hsome : (s.workspace.project.document? node.file).isSome = true := by
              rw [hf]
              rfl
            refine ⟨htracks.leaves hpin (hadvances.revised _ hsome) (hroom node.file),
              fun habsent => ?_⟩
            have hlater := hadvances.files _ hsome
            rw [show (s.step action).workspace = (action.run s.workspace).2 from rfl] at habsent
            rw [habsent] at hlater
            cases hlater
      · rw [hwriting]
        refine ⟨htracks.repins hsound.coherent hn hrepins, fun habsent => ?_⟩
        have hlater := hadvances.files _ hrepins.present
        rw [show (s.step action).workspace = (action.run s.workspace).2 from rfl] at habsent
        rw [habsent] at hlater
        cases hlater

-- ============================================================== places

/-- After any run, a node in a view that has made the present generation of its file stands at the
span it has written then, and one that has not stands at the span its address has in the view of
the present text, if it is there. Either way it answers with the lines and columns of that span in
the present text, whenever it has been asked for them before. -/
theorem placed_of_wrote (hr : Wrote node changes last s)
    (few : ∀ file, changes file < UInt64.size) (held : .text (.member node) ∈ s.held) :
    (∀ span, last = some ((s.workspace.document node.file).generation, span) →
      s.workspace.span? node = some span ∧
        (Act.extent (.member node) s.workspace).1 =
          some (.ofSpan (s.workspace.content node.file) span)) ∧
    ((∀ span, last ≠ some ((s.workspace.document node.file).generation, span)) →
      ∀ index, (grammars.view node.language (s.workspace.content node.file)).indexOf?
          (viewAddress node.file node.language) node.address = some index →
        ∃ entry, (grammars.view node.language (s.workspace.content node.file)).entries[index]? =
            some entry ∧
          s.workspace.span? node = some entry.member.span ∧
          (Act.extent (.member node) s.workspace).1 =
            some (.ofSpan (s.workspace.content node.file) entry.member.span)) := by
  have hn : node.born.pinned = none := (genuine_of_reached hr.reached).nodes _ held
  have hcoherent := (sound_of_reached hr.reached few).coherent
  obtain ⟨htracks, -⟩ := hr.tracks few (sole_of_reached hr.reached few held) hn
  obtain ⟨notes, hrecorded⟩ := hr.reached.recorded
  obtain ⟨r, hworkspace, -, hkept, hknows⟩ := kept_of_recorded Workspace.placing hrecorded few
  have hplaces : r.workspace.Places r.notes node :=
    hkept.lawful _ _ ((hknows _ held).2 node rfl)
  rw [hworkspace] at hplaces
  refine ⟨fun span hlast => ?_, fun foreign index hindex => ?_⟩
  · have hspan := htracks.span?_of_last hn hlast
    exact ⟨hspan, hplaces.extent_of_span? hcoherent hspan⟩
  · obtain ⟨entry, part, hentry, hpart, hlabel⟩ := View.indexOf?_eq_some hindex
    have hspan := htracks.span?_of_present hcoherent hn foreign hpart
    rw [hlabel] at hspan
    exact ⟨entry, hentry, hspan, hplaces.extent_of_span? hcoherent hspan⟩

-- ============================================================ a sample

/-- A step changes a file once at most. -/
theorem Wrote.next {most : Nat}
    (h : ∃ changes, Wrote node changes last s ∧ ∀ file, changes file ≤ most) (action : Action)
    (subject : ∀ node ∈ action.subject?, node ∈ s.held) :
    ∃ changes, Wrote node changes ((action.writing node s.workspace).or last) (s.step action) ∧
      ∀ file, changes file ≤ most + 1 := by
  obtain ⟨changes, hr, hmost⟩ := h
  exact ⟨_, hr.step action subject, fun file => Nat.add_le_add (hmost file)
    (changed_le_one s.workspace (s.step action).workspace file)⟩

/-- A session in which the letter has been asked where it is, and three have been written in its
place. -/
def widened : Session initials :=
  ((opened.step (.children (.text (.member rootNode)))).step (.extent (.member letterNode))).step
    (.update (.member letterNode) "xyz")

/-- A session in which the file has been replaced after that. -/
def replaced : Session initials := widened.step (.setContent ["a.py"] "zz")

theorem wrote_widened : ∃ changes, Wrote letterNode changes (some (1, ⟨0, 3⟩)) widened ∧
    ∀ file, changes file ≤ 5 := by
  have hstart : ∃ changes, Wrote letterNode changes none
      (start "p" .empty .empty : Session initials) ∧ ∀ file, changes file ≤ 0 :=
    ⟨_, .start _ _ _, fun _ => Nat.le_refl 0⟩
  have hadded := Wrote.next hstart (.addFile "a.py" "pq") fun node hn => by cases hn
  have hopened := Wrote.next hadded (.viewRoot ["a.py"] .python) fun node hn =>
    Option.mem_some_iff.1 hn ▸ List.mem_of_getLast? rfl
  have hfound := Wrote.next hopened (.children (.text (.member rootNode))) fun node hn =>
    Option.mem_some_iff.1 hn ▸ List.mem_of_getLast? rfl
  have hasked := Wrote.next hfound (.extent (.member letterNode)) fun node hn =>
    Option.mem_some_iff.1 hn ▸ List.mem_of_getLast? rfl
  exact Wrote.next hasked (.update (.member letterNode) "xyz") fun node hn =>
    Option.mem_some_iff.1 hn ▸ List.mem_of_getLast? rfl

theorem wrote_replaced : ∃ changes, Wrote letterNode changes (some (1, ⟨0, 3⟩)) replaced ∧
    ∀ file, changes file ≤ 6 :=
  Wrote.next wrote_widened (.setContent ["a.py"] "zz") fun _ hn =>
    Option.mem_some_iff.1 hn ▸ List.mem_cons_of_mem _ List.mem_cons_self

theorem indexOf?_replaced :
    (initials.view letterNode.language (replaced.workspace.content letterNode.file)).indexOf?
      (viewAddress letterNode.file letterNode.language) letterNode.address = some 1 := by
  decide

theorem span_replaced :
    ((initials.view letterNode.language
      (replaced.workspace.content letterNode.file)).entries[1]?.map fun entry =>
        entry.member.span) = some ⟨0, 1⟩ := by
  decide

/-- The case of a letter that is asked where it is, becomes three, and is one of another text. -/
theorem placed_of_wrote_letter :
    (∃ changes, Wrote letterNode changes (some (1, ⟨0, 3⟩)) widened ∧
        ∀ file, changes file < UInt64.size) ∧
      widened.workspace.span? letterNode = some ⟨0, 3⟩ ∧
      (Act.extent (.member letterNode) widened.workspace).1 = some (.ofSpan "xyzq" ⟨0, 3⟩) ∧
      (∃ changes, Wrote letterNode changes (some (1, ⟨0, 3⟩)) replaced ∧
        ∀ file, changes file < UInt64.size) ∧
      replaced.workspace.span? letterNode = some ⟨0, 1⟩ ∧
      (Act.extent (.member letterNode) replaced.workspace).1 = some (.ofSpan "zz" ⟨0, 1⟩) := by
  obtain ⟨changes, hr, hmost⟩ := wrote_widened
  obtain ⟨changes', hr', hmost'⟩ := wrote_replaced
  have few : ∀ file, changes file < UInt64.size := fun file =>
    Nat.lt_of_le_of_lt (hmost file) (by decide)
  have few' : ∀ file, changes' file < UInt64.size := fun file =>
    Nat.lt_of_le_of_lt (hmost' file) (by decide)
  have held : .text (.member letterNode) ∈ widened.held := List.mem_of_getLast? rfl
  have held' : .text (.member letterNode) ∈ replaced.held := List.mem_of_getLast? rfl
  obtain ⟨hspan, hextent⟩ := (placed_of_wrote hr few held).1 ⟨0, 3⟩ rfl
  have foreign : ∀ span, some (1, (⟨0, 3⟩ : Span)) ≠
      some ((replaced.workspace.document letterNode.file).generation, span) :=
    fun span he => absurd (Prod.mk.inj (Option.some.inj he)).1 (by decide +kernel)
  obtain ⟨entry, hentry, hspan', hextent'⟩ :=
    (placed_of_wrote hr' few' held').2 foreign 1 indexOf?_replaced
  have hentrySpan : entry.member.span = ⟨0, 1⟩ := by
    have hsome := span_replaced
    rw [hentry] at hsome
    exact Option.some.inj hsome
  rw [hentrySpan] at hspan' hextent'
  exact ⟨⟨_, hr, few⟩, hspan, hextent, ⟨_, hr', few'⟩, hspan', hextent'⟩

end Session

end TreeQuery
