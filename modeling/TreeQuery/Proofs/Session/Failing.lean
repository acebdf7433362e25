/-
How an update can fail.

An update of a text node goes down the nodes it was found in, and at each there is an edit that
could be refused: a span that is no range of the text, a character that is cut, a text that is not
the one expected. None of that happens. The edit is made for the span and the text that have just
been looked up, so it is refused only if the span is no range of the text (`Edit.apply_replacing`);
an occurrence is found where its text stands (`Microgrammar.slice?_of_locate?`); and where a node
in a view stands, a part of the text stands (`Workspace.Rests`). That leaves the two places where
something is looked up and may not be there, and both answer that it is stale
(`Act.okOrStale_update`).

# What must not fail

Beside errors there are computations that have no answer for an argument out of range: to take the
text of a capture, to put another one in its place, to count the places of a capture from the start
of its match, to slice a text for a line and a column. Those of captures are in range because what
a session records captures ranges of its texts (`Session.Genuine`), and the group of a match lies in
the match (`Regex.Match.group?_within`); those of positions because an offset is first moved to a
boundary (`Layout.Extent.ofSpan?_eq`).
-/
import TreeQuery.Proofs.Layout.Slicing
import TreeQuery.Proofs.Session.Genuine
import TreeQuery.Proofs.Session.Live
import TreeQuery.Proofs.Session.Rewriting

namespace TreeQuery

open Text (Span Parted)

variable {grammars : Grammars} {w later : Workspace grammars} {node : TextNode}

-- ============================================================ captures

theorem Text.isSome_splice? (text : String) (span : Span) (new : String) :
    (splice? text span new).isSome = (slice? text span).isSome := by
  unfold splice? slice?
  rw [Option.isSome_map, Option.isSome_map]

/-- Whatever is captured in the occurrences that the node is or was found in can be taken and
replaced. -/
def Workspace.Captures (w : Workspace grammars) : TextNode → Prop
  | .file _ | .member _ => True
  | .occurrence handle _ context _ born | .binding handle _ context _ born _ =>
    w.Captures context ∧ ∀ capture ∈ (w.found handle born).captures,
      (Text.slice? (w.found handle born).text capture.2).isSome = true ∧
        ∀ new, (Text.splice? (w.found handle born).text capture.2 new).isSome = true

theorem Workspace.Sliceable.captures (h : w.Sliceable) (hn : node.Genuine) : w.Captures node := by
  have here : ∀ {handle : Handle} {born : Occurrence}, born.Sliceable →
      ∀ capture ∈ (w.found handle born).captures,
        (Text.slice? (w.found handle born).text capture.2).isSome = true ∧
          ∀ new, (Text.splice? (w.found handle born).text capture.2 new).isSome = true :=
    fun hb capture hc => ⟨h.found hb capture hc, fun new =>
      (Text.isSome_splice? ..).trans (h.found hb capture hc)⟩
  induction node with
  | file path => trivial
  | member node => trivial
  | occurrence handle grammar context index born ih => exact ⟨ih hn.1, here hn.2⟩
  | binding handle grammar context index born name ih => exact ⟨ih hn.1, here hn.2⟩

-- ============================================================= updates

/-- Wherever the node in a view stands that the node is or was found in, a part of the text
stands. -/
def Workspace.Rests (w : Workspace grammars) (node : TextNode) : Prop :=
  ∀ base ∈ node.base?, ∀ span, w.span? base = some span →
    ∃ before text after, Parted (w.content base.file) span before text after

theorem TextNode.Genuine.base (h : node.Genuine) :
    ∀ base ∈ node.base?, base.born.pinned = none := by
  induction node with
  | file path => exact fun base hb => by cases hb
  | member node => exact fun base hb => Option.mem_some_iff.1 hb ▸ h
  | occurrence handle grammar context index born ih => exact ih h.1
  | binding handle grammar context index born name ih => exact ih h.1

theorem Workspace.Rests.unmoved (h : w.Rests node) (hn : node.Genuine) (hm : w.Unmoved later) :
    later.Rests node := by
  intro base hb span hspan
  rw [hm.span? (hn.base base hb)] at hspan
  rw [hm.content]
  exact h base hb span hspan

/-- The update has worked, or has been refused because some place is gone. -/
def OkOrStale (result : Except NodeError Unit) : Prop :=
  result = .ok () ∨ ∃ address, result = .error (.stale address)

namespace Act

open Workspace

/-- A node in a view is updated if it stands anywhere, and is stale if not. -/
theorem updateMember_fst {node : MemberNode} (hrests : w.Rests (.member node)) (text : String) :
    ((updateMember node text).run w).1 =
      if (w.span? node).isSome then .ok () else .error (.stale node.address) := by
  obtain ⟨hspan, hproject, -, -⟩ := span?_eq node w
  rw [updateMember_run]
  generalize span? node w = result at hspan hproject ⊢
  obtain ⟨found, v⟩ := result
  have hspan : found = w.span? node := hspan
  have hproject : v.project = w.project := hproject
  cases found with
  | none =>
      rw [← hspan]
      rfl
  | some span =>
      obtain ⟨before, old, after, hparted⟩ := hrests node rfl span hspan.symm
      obtain ⟨outcome, changed, happly, -⟩ :=
        @Document.apply_replacing_of_parted (w.document node.file) _ _ _ _ hparted text
      simp only [document_of_project hproject, happly]
      rw [← hspan]
      rfl

theorem okOrStale_updateOccurrence {handle : Handle} {grammar : Microgrammar}
    {context : TextNode} {born : Occurrence} {address : String}
    {updateContext : String → ExceptT NodeError (Act grammars) Unit}
    (hupdate : ∀ changed, OkOrStale ((updateContext changed).run (w.value context).2).1)
    (text : String) :
    OkOrStale
      ((updateOccurrence handle grammar context born address updateContext text).run w).1 := by
  rw [updateOccurrence_run]
  cases hlocated : grammar.locate? ((w.value context).2.found handle born) (w.value context).1 with
  | none => exact .inr ⟨address, rfl⟩
  | some span =>
      obtain ⟨before, after, hcut⟩ :=
        Text.slice?_eq_some_iff.1 (Microgrammar.slice?_of_locate? hlocated)
      simp only [Edit.apply_replacing hcut, String.ofList_toList]
      by_cases hsame : ((w.value context).2.found handle born).text = text
      · rw [if_pos hsame]
        exact .inl rfl
      · rw [if_neg hsame]
        have hdone := hupdate (String.ofList (before ++ text.toList ++ after))
        simp only
        generalize (updateContext (String.ofList (before ++ text.toList ++ after))).run
          (w.value context).2 = result at hdone ⊢
        obtain ⟨result, u⟩ := result
        cases result with
        | error e => exact hdone
        | ok _ => exact .inl rfl

/-- An update of any node, however deep it lies in others, works or is refused as stale. -/
theorem okOrStale_update (hn : node.Genuine) (hrests : w.Rests node) (text : String) :
    OkOrStale ((update node text).run w).1 := by
  induction node generalizing w text with
  | file path => exact .inl rfl
  | member node =>
      rw [show ((update (.member node) text).run w).1 = _ from updateMember_fst hrests text]
      split
      · exact .inl rfl
      · exact .inr ⟨node.address, rfl⟩
  | occurrence handle grammar context index born ih =>
      exact okOrStale_updateOccurrence (fun changed =>
        ih hn.1 (Rests.unmoved hrests hn.1 (asks_value hn.1 w).1) changed) text
  | binding handle grammar context index born name ih =>
      unfold update
      rw [run_get_bind]
      simp only
      cases ((w.found handle born).captures.lookup name).bind
          (Text.splice? (w.found handle born).text · text) with
      | none => exact .inr ⟨_, rfl⟩
      | some spliced =>
          exact okOrStale_updateOccurrence (fun changed =>
            ih hn.1 (Rests.unmoved hrests hn.1 (asks_value hn.1 w).1) changed) spliced

end Act

-- ============================================================= sessions

namespace Session

variable {changes : ProjectPath → Nat} {notes : List Note} {s : Session grammars}

/-- After any run, an update of a node with a text works or is refused as stale; a node in a view
is stale exactly if it is not live. Nothing is taken out of range on the way: whatever occurrences
capture can be taken from their texts and replaced, the groups of the matches that a scan finds lie
in the matches, and all slices for positions are there. The parsers have to answer with ranges of
the texts. -/
theorem okOrStale_of_recorded (aligned : grammars.Aligned) (hr : Recorded changes notes s)
    (few : ∀ file, changes file < UInt64.size) {node : TextNode} (held : .text node ∈ s.held)
    (text : String) :
    OkOrStale ((Act.update node text).run s.workspace).1 ∧
      (∀ member, node = .member member →
        (((Act.update node text).run s.workspace).1 = .error (.stale member.address) ↔
          ¬ s.Live notes member)) ∧
      s.workspace.Captures node ∧
      (∀ (grammar : Microgrammar) (source : String),
        ∀ m ∈ Regex.findAll grammar.inner source.toList.toArray, ∀ binding place place',
          m.group? binding = some (place, place') →
            m.start ≤ place ∧ place ≤ place' ∧ place' ≤ m.stop) ∧
      (∀ content span,
        Layout.Extent.ofSpan? content span = some (.ofSpan content span)) ∧
      ∀ base content span,
        Layout.Extent.within? base content span = some (.within base content span) := by
  have hgenuine := genuine_of_reached hr.reached
  have hnode : node.Genuine := hgenuine.nodes _ held
  have hrests : s.workspace.Rests node := fun base hb span hspan =>
    parted_of_recorded aligned hr few held hb hspan
  refine ⟨Act.okOrStale_update hnode hrests text, ?_, hgenuine.occurrences.captures hnode,
    fun grammar source m hm binding place place' hgroup =>
      Regex.Match.group?_within (Regex.matches_of_mem_findAll hm) hgroup,
    Layout.Extent.ofSpan?_eq, Layout.Extent.within?_eq⟩
  intro member hmember
  subst hmember
  rw [show ((Act.update (.member member) text).run s.workspace).1 = _ from
      Act.updateMember_fst hrests text, ← isSome_span?_iff hr few held]
  split
  · rename_i hsome
    exact ⟨fun he => (by cases he), fun hne => absurd hsome hne⟩
  · rename_i hnone
    exact ⟨fun _ => hnone, fun _ => rfl⟩

-- ============================================================ a sample

/-- What has passed through the letter when a small letter has been found in it. -/
def spottedNotes : List Note := [⟨1, "p", none⟩]

theorem recorded_spotted : ∃ changes, Recorded changes spottedNotes spotted ∧
    ∀ file, changes file ≤ 4 :=
  Recorded.next recorded_children_opened (.find (.microgrammar small) (.text (.member letterNode)))
    fun _ hn => Option.mem_some_iff.1 hn ▸ List.mem_of_getLast? rfl

theorem not_live_emptied : ¬ Live letterNotes emptied letterNode := by
  intro hlive
  rcases hlive with hmade | hindex
  · revert hmade
    decide
  · rw [indexOf?_emptied] at hindex
    cases hindex

/-- The cases of a small letter found in another one, and of a letter that is gone. -/
theorem okOrStale_of_recorded_letter :
    initials.Aligned ∧
      (∃ changes, Recorded changes spottedNotes spotted ∧ ∀ file, changes file < UInt64.size) ∧
      OkOrStale ((Act.update smallNode "Q!").run spotted.workspace).1 ∧
      spotted.workspace.Captures smallNode ∧
      (∃ changes, Recorded changes letterNotes emptied ∧ ∀ file, changes file < UInt64.size) ∧
      ((Act.update (.member letterNode) "y").run emptied.workspace).1 =
        .error (.stale letterNode.address) := by
  obtain ⟨changes, hr, hmost⟩ := recorded_spotted
  obtain ⟨changes', hr', hmost'⟩ := recorded_emptied
  have few : ∀ file, changes file < UInt64.size := fun file =>
    Nat.lt_of_le_of_lt (hmost file) (by decide)
  have few' : ∀ file, changes' file < UInt64.size := fun file =>
    Nat.lt_of_le_of_lt (hmost' file) (by decide)
  have held : .text smallNode ∈ spotted.held := List.mem_of_getLast? rfl
  have held' : .text (.member letterNode) ∈ emptied.held := by
    rw [held_emptied]
    exact letter_mem_sightings
  obtain ⟨hworks, -, hcaptures, -⟩ :=
    okOrStale_of_recorded aligned_initials hr few held "Q!"
  obtain ⟨-, hstale, -⟩ := okOrStale_of_recorded aligned_initials hr' few' held' "y"
  exact ⟨aligned_initials, ⟨_, hr, few⟩, hworks, hcaptures, ⟨_, hr', few'⟩,
    (hstale letterNode rfl).2 not_live_emptied⟩

end Session

end TreeQuery
