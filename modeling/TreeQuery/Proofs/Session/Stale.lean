/-
What a caller can do with a node in a view that it has held on to.

The node was found in a text that may have changed since, any number of times and by anybody. Its
address is looked up in the view of the present text. If it is not there, the node is stale: it
still answers with the text that has passed through it last, and refuses everything else. If it is
there, the node stands for the entry found, whatever has happened in between; that the address was
gone for a while leaves no trace.

The exception is the node that has made the present text itself. It knows the span that it has
written and stands there, even if the text has come to be no member of the view.
-/
import TreeQuery.Proofs.Session.Recorded
import TreeQuery.Proofs.Workspace.Remembering

namespace TreeQuery.Session

open Text (Span)

variable {grammars : Grammars} {changes : ProjectPath → Nat} {notes : List Note}
  {s : Session grammars}

/-- After any run, a node in a view that has not made the present text itself stands where its
address is in the view of that text, and nowhere if the address is not there. Then it answers with
the last text that has passed through it, an update is refused as stale and changes nothing, and it
has no children. For an update to work where the address is, the parsers have to answer with ranges
of the text. -/
theorem stale_of_recorded (hr : Recorded changes notes s)
    (few : ∀ file, changes file < UInt64.size) {node : MemberNode}
    (held : .text (.member node) ∈ s.held)
    (foreign : ¬ MadeBy notes node (s.workspace.document node.file).generation) :
    ((grammars.view node.language (s.workspace.content node.file)).indexOf?
        (viewAddress node.file node.language) node.address = none →
      (s.workspace.value (.member node)).1 = lastText notes node ∧
        (∀ text, ∃ later, (Act.update (.member node) text).run s.workspace =
            (.error (.stale node.address), later) ∧
          later.project = s.workspace.project ∧ later.memories = s.workspace.memories ∧
          later.occurrences = s.workspace.occurrences) ∧
        (Act.children (.text (.member node)) s.workspace).1 = []) ∧
    ∀ index, (grammars.view node.language (s.workspace.content node.file)).indexOf?
        (viewAddress node.file node.language) node.address = some index →
      ∃ entry, (grammars.view node.language (s.workspace.content node.file)).entries[index]? =
          some entry ∧
        (s.workspace.value (.member node)).1 =
          (Text.slice? (s.workspace.content node.file) entry.member.span).getD "" ∧
        (grammars.Aligned → ∃ before after,
          Text.Parted (s.workspace.content node.file) entry.member.span before
            (s.workspace.value (.member node)).1 after ∧
          ∀ text, ∃ later, (Act.update (.member node) text).run s.workspace = (.ok (), later) ∧
            later.content node.file = before ++ text ++ after ∧
            (∀ other, other ≠ node.file →
              later.project.document? other = s.workspace.project.document? other) ∧
            (later.value (.member node)).1 = text) := by
  obtain ⟨r, hworkspace, hnotes, hkept, hknows⟩ :=
    kept_of_recorded Workspace.remembering hr few
  have hknown : r.KnowsText (.member node) := hknows _ held
  have hlaw : r.workspace.Remembers r.notes node := hkept.lawful _ _ (hknown.2 node rfl)
  have hcoherent := hkept.coherent
  have hfile : (r.workspace.project.document? node.file).isSome := hknown.1.1
  rw [hworkspace] at hlaw hcoherent hfile
  rw [hnotes] at hlaw
  refine ⟨fun hnone => ?_, fun index hsome => ?_⟩
  · exact hlaw.gone hcoherent foreign (View.indexOf?_eq_none_iff.1 hnone)
  · obtain ⟨entry, part, hentry, hpart, hlabel⟩ := View.indexOf?_eq_some hsome
    have hvalue := hlaw.value_of_present hcoherent foreign hpart
    have hspan := hlaw.span?_of_present hcoherent foreign hpart
    refine ⟨entry, hentry, hlabel ▸ hvalue, fun aligned => ?_⟩
    obtain ⟨found, hfound⟩ := Option.isSome_iff_exists.1 (aligned.slice? hpart)
    rw [hfound, Option.getD_some] at hvalue
    obtain ⟨before, after, hparted⟩ := Text.slice?_eq_some_iff_parted.1 hfound
    refine ⟨before, after, hvalue.symm ▸ hlabel ▸ hparted, fun text => ?_⟩
    exact Workspace.update_of_span? hfile hspan hparted text

-- ============================================================ a sample

/-- Parsers that see the first character of a text, if it has one. -/
def initials : Grammars where
  parse _ source := .node ⟨"module", .whole source, true, false, false, none⟩
    (source.toList.head?.toList.map fun c =>
      .node ⟨"letter", ⟨0, c.utf8Size⟩, true, false, false, none⟩ [])
  find _ _ _ := some []

theorem aligned_initials : initials.Aligned := by
  intro language source node hm
  have hparse : initials.parse language source =
      .node ⟨"module", .whole source, true, false, false, none⟩
        (source.toList.head?.toList.map fun c =>
          .node ⟨"letter", ⟨0, c.utf8Size⟩, true, false, false, none⟩ []) := rfl
  rw [hparse, Rose.preorder] at hm
  rcases List.mem_cons.1 hm with rfl | hm
  · show (Text.slice? source (.whole source)).isSome
    rw [Text.slice?_whole]
    rfl
  · obtain ⟨tree, htree, hm⟩ := Rose.mem_preorderAll.1 hm
    obtain ⟨c, hc, rfl⟩ := List.mem_map.1 htree
    obtain rfl := List.mem_singleton.1 hm
    obtain ⟨rest, hsource⟩ := List.head?_eq_some_iff.1 (Option.mem_toList.1 hc)
    have hcut : Text.cut? source.toList ⟨0, c.utf8Size⟩ = some ([], [c], rest) :=
      Text.cut?_eq_some_iff.2 ⟨hsource, rfl, (Nat.zero_add _).trans (Nat.add_zero _)⟩
    show (Text.slice? source ⟨0, c.utf8Size⟩).isSome
    rw [Text.slice?_eq_some_iff_parted.2 ⟨_, _, Text.parted_of_cut? hcut⟩]
    rfl

/-- A session in which a file has been opened. -/
def opened : Session initials :=
  ((start "p" .empty .empty).step (.addFile "a.py" "pq")).step (.viewRoot ["a.py"] .python)

/-- The root of the file's view. -/
def rootNode : MemberNode where
  handle := 0
  file := ["a.py"]
  language := .python
  location := []
  born := {
    member := ⟨"PythonFile", "module", ["PythonFile", "PythonNode"], ⟨0, 2⟩, []⟩
    text := "pq" }

/-- The first letter of the file. -/
def letterNode : MemberNode where
  handle := 1
  file := ["a.py"]
  language := .python
  location := [⟨"letter", 0⟩]
  born := {
    member := ⟨"letter", "letter", ["PythonNode", "letter"], ⟨0, 1⟩, []⟩
    text := "p" }

/-- A session in which the letter has been found and another one written in its place. -/
def lettered : Session initials :=
  (opened.step (.children (.text (.member rootNode)))).step (.update (.member letterNode) "x")

/-- A session in which the file has been emptied. -/
def emptied : Session initials := lettered.step (.setContent ["a.py"] "")

/-- A session in which the file has a letter again. -/
def refilled : Session initials := emptied.step (.setContent ["a.py"] "zz")

/-- What has passed through the letter. -/
def letterNotes : List Note := [⟨1, "x", some 1⟩]

/-- What is held in each of these sessions. -/
def sightings : List Node :=
  [.directory [], .file ["a.py"], .text (.member rootNode), .text (.member letterNode)]

theorem held_emptied : emptied.held = sightings := rfl

theorem held_refilled : refilled.held = sightings := rfl

theorem letter_mem_sightings : .text (.member letterNode) ∈ sightings :=
  List.mem_of_getLast? rfl

theorem recorded_children_opened :
    ∃ changes, Recorded changes [] (opened.step (.children (.text (.member rootNode)))) ∧
      ∀ file, changes file ≤ 3 := by
  have hadded := Recorded.next (Recorded.begun "p" .empty (.empty : PatternCache initials))
    (.addFile "a.py" "pq") fun node hn => by cases hn
  have hopened := Recorded.next hadded (.viewRoot ["a.py"] .python) fun node hn =>
    Option.mem_some_iff.1 hn ▸ List.mem_of_getLast? rfl
  exact Recorded.next hopened (.children (.text (.member rootNode))) fun node hn =>
    Option.mem_some_iff.1 hn ▸ List.mem_of_getLast? rfl

theorem recorded_lettered : ∃ changes, Recorded changes letterNotes lettered ∧
    ∀ file, changes file ≤ 4 :=
  Recorded.next recorded_children_opened (.update (.member letterNode) "x") fun _ hn =>
    Option.mem_some_iff.1 hn ▸ List.mem_of_getLast? rfl

theorem recorded_emptied : ∃ changes, Recorded changes letterNotes emptied ∧
    ∀ file, changes file ≤ 5 :=
  Recorded.next recorded_lettered (.setContent ["a.py"] "") fun _ hn =>
    Option.mem_some_iff.1 hn ▸ List.mem_cons_of_mem _ List.mem_cons_self

theorem recorded_refilled : ∃ changes, Recorded changes letterNotes refilled ∧
    ∀ file, changes file ≤ 6 :=
  Recorded.next recorded_emptied (.setContent ["a.py"] "zz") fun _ hn =>
    Option.mem_some_iff.1 hn ▸ List.mem_cons_of_mem _ List.mem_cons_self

theorem indexOf?_emptied :
    (initials.view letterNode.language (emptied.workspace.content letterNode.file)).indexOf?
      (viewAddress letterNode.file letterNode.language) letterNode.address = none := by
  decide

theorem indexOf?_refilled :
    (initials.view letterNode.language (refilled.workspace.content letterNode.file)).indexOf?
      (viewAddress letterNode.file letterNode.language) letterNode.address = some 1 := by
  decide

theorem span_refilled :
    ((initials.view letterNode.language
      (refilled.workspace.content letterNode.file)).entries[1]?.map fun entry =>
        entry.member.span) = some ⟨0, 1⟩ := by
  decide

/-- The case of a letter that goes with the text and comes back as another one. -/
theorem stale_of_recorded_letter :
    (∃ changes, Recorded changes letterNotes emptied ∧ ∀ file, changes file < UInt64.size) ∧
      (emptied.workspace.value (.member letterNode)).1 = "x" ∧
      (∃ later, (Act.update (.member letterNode) "y").run emptied.workspace =
        (.error (.stale letterNode.address), later) ∧
          later.project = emptied.workspace.project) ∧
      (∃ changes, Recorded changes letterNotes refilled ∧ ∀ file, changes file < UInt64.size) ∧
      (refilled.workspace.value (.member letterNode)).1 = "z" ∧
      ∃ later, (Act.update (.member letterNode) "y").run refilled.workspace = (.ok (), later) ∧
        (later.value (.member letterNode)).1 = "y" := by
  obtain ⟨changes, hr, hmost⟩ := recorded_emptied
  obtain ⟨changes', hr', hmost'⟩ := recorded_refilled
  have few : ∀ file, changes file < UInt64.size := fun file =>
    Nat.lt_of_le_of_lt (hmost file) (by decide)
  have few' : ∀ file, changes' file < UInt64.size := fun file =>
    Nat.lt_of_le_of_lt (hmost' file) (by decide)
  have held : .text (.member letterNode) ∈ emptied.held := by
    rw [held_emptied]
    exact letter_mem_sightings
  have held' : .text (.member letterNode) ∈ refilled.held := by
    rw [held_refilled]
    exact letter_mem_sightings
  have hgone := @stale_of_recorded _ _ _ emptied hr few letterNode held (by decide +kernel)
  have hback := @stale_of_recorded _ _ _ refilled hr' few' letterNode held' (by decide +kernel)
  obtain ⟨hvalue, hstale, -⟩ := hgone.1 indexOf?_emptied
  obtain ⟨later, hrun, hproject, -⟩ := hstale "y"
  obtain ⟨entry, hentry, hvalue', hworks⟩ := hback.2 1 indexOf?_refilled
  obtain ⟨before, after, -, hwrites⟩ := hworks aligned_initials
  obtain ⟨later', hrun', -, -, hagain⟩ := hwrites "y"
  refine ⟨⟨_, hr, few⟩, hvalue, ⟨later, hrun, hproject⟩, ⟨_, hr', few'⟩, ?_, later', hrun', hagain⟩
  have hspan : entry.member.span = ⟨0, 1⟩ := by
    have hsome := span_refilled
    rw [hentry] at hsome
    exact Option.some.inj hsome
  rw [hvalue', hspan]
  decide +kernel

end TreeQuery.Session
