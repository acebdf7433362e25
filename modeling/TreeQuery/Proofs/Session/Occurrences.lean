/-
Batches of updates of occurrences.

Occurrences of a microgrammar remember where they were seen. After another one has been updated
that may be out of date, so each is looked for again: where it was seen, if its text stands there,
else at the nearest place where the grammar finds the same text. That can be the place of another
occurrence, or a place in a text just written.

What holds of every batch is the account turn by turn. It comes to a replacement of all
occurrences at once whenever each after the first is found at its own place: where it was seen,
moved by what the updates before it have changed to the left of it. This is so in particular
as long as these changes cancel, and so for updates from the right to the left.
-/
import TreeQuery.Proofs.Session.Basic
import TreeQuery.Proofs.Workspace.Batches

namespace TreeQuery.Session

variable {grammars : Grammars} {changes : ProjectPath → Nat} {s : Session grammars}

/-- The occurrences that a batch updates stand apart in the text they were found in. -/
theorem separate_of_returned {grammar : Microgrammar} {file : ProjectPath} {text : String}
    {base : Handle} {updates : List Rewording}
    (returned : ∀ u ∈ updates, .text (u.node grammar file) ∈
      (grammar.scan text).zipIdx.map fun entry =>
        Node.text (.occurrence (base + entry.2) grammar (.file file) entry.2 entry.1))
    (once : (updates.map (·.handle)).Nodup) :
    (∀ u ∈ updates, u.seen ∈ grammar.scan text) ∧
      Text.Separate ((updates.map (·.change)).map (·.span)) := by
  have hentry : ∀ u ∈ updates, u.handle = base + u.index ∧
      (grammar.scan text)[u.index]? = some u.seen := by
    intro u hu
    obtain ⟨⟨seen, index⟩, hm, he⟩ := List.mem_map.1 (returned u hu)
    unfold Rewording.node at he
    injection he with he
    injection he with hhandle _ _ hindex hseen
    rw [← hhandle, ← hindex, ← hseen]
    exact ⟨rfl, List.mem_zipIdx_iff_getElem?.1 hm⟩
  have hmem : ∀ u ∈ updates, u.seen ∈ grammar.scan text := fun u hu =>
    List.mem_of_getElem? (hentry u hu).2
  refine ⟨hmem, fun span hs => ?_, ?_⟩
  · rw [List.map_map] at hs
    obtain ⟨u, hu, rfl⟩ := List.mem_map.1 hs
    obtain ⟨m, -, hm⟩ := List.mem_map.1 (hmem u hu)
    show u.seen.span.start ≤ u.seen.span.stop
    rw [← hm]
    exact Nat.le_add_right _ _
  · rw [List.map_map, List.pairwise_map]
    refine (List.pairwise_map.1 once).imp_of_mem fun {u v} hu hv hne => ?_
    refine Microgrammar.apart_of_scan (hentry u hu).2 (hentry v hv).2 fun he => hne ?_
    rw [(hentry u hu).1, (hentry v hv).1, he]

/-- A batch of updates of different occurrences found in a file, all of which succeed: in turn, each
text is put where its occurrence is found again, and no other file changes. If each after the
first is found at its own place, all occurrences have been replaced at once; in particular if
moves cancel, or if the batch goes from the right to the left. -/
theorem updateAll_of_reached (hr : Reached changes s) (few : ∀ file, changes file < UInt64.size)
    {file : ProjectPath} (held : .file file ∈ s.held) {grammar : Microgrammar}
    {nodes : List Node} {w : Workspace grammars}
    (hfind : (NodeType.ofMicrogrammar grammar).find (.file file) s.workspace = (.ok nodes, w))
    (updates : List Rewording) (returned : ∀ u ∈ updates, .text (u.node grammar file) ∈ nodes)
    (once : (updates.map (·.handle)).Nodup) {later : Workspace grammars}
    (hok : (Act.updateAll (updates.map fun u => (u.node grammar file, u.text))).run w =
      (.ok (), later)) :
    (∀ other, other ≠ file →
        later.project.document? other = s.workspace.project.document? other) ∧
      ∃ spans, grammar.Rewrites (s.workspace.content file) (updates.map (·.pair)) spans
          (later.content file) ∧
        (spans.tail = (Text.turns [] (updates.map (·.change))).tail ∨
            Text.turns [] (updates.map (·.change)) = (updates.map (·.change)).map (·.span) ∨
            (updates.map (·.change)).Pairwise (fun a b => b.span.start < a.span.start) →
          Text.Replaced (s.workspace.content file) (updates.map (·.change))
            (later.content file)) := by
  have hs := sound_of_reached hr few
  rw [Act.find_ofMicrogrammar_file] at hfind
  obtain ⟨hnodes, hw⟩ := Prod.mk.inj hfind
  obtain rfl := Except.ok.inj hnodes
  have hproject : w.project = s.workspace.project := by rw [← hw]
  have hcontent := Workspace.content_of_project hproject file
  have hexists : (w.project.document? file).isSome := by
    rw [hproject]
    exact (hs.known _ held).1
  obtain ⟨hseen, separate⟩ := separate_of_returned returned once
  have hfresh : ∀ u ∈ updates, w.occurrences.lookup u.handle = none := by
    intro u hu
    rw [← hw]
    obtain ⟨entry, -, he⟩ := List.mem_map.1 (returned u hu)
    unfold Rewording.node at he
    injection he with he
    injection he with hhandle
    rw [← hhandle]
    exact hs.coherent.occurrences _ (Nat.le_add_right _ _)
  obtain ⟨⟨spans, hrew⟩, hothers⟩ := Act.rewrites_of_updateAll hexists hfresh once hok
  rw [hcontent] at hrew
  rw [hproject] at hothers
  have seen : ∀ pair ∈ updates.map (·.pair),
      Text.slice? (s.workspace.content file) pair.1.span = some pair.1.text := by
    intro pair hp
    obtain ⟨u, hu, rfl⟩ := List.mem_map.1 hp
    exact Microgrammar.slice?_of_mem_scan (hseen u hu)
  refine ⟨hothers, spans, hrew, fun own => ?_⟩
  rw [← Rewording.changes_pair] at separate own ⊢
  exact hrew.replaced seen separate own

/-- The case of two letters, the right one first. -/
theorem updateAll_of_reached_filed :
    ∃ later, (Act.updateAll [(letterAt 1, "b"), (letterAt 0, "xxa")]).run scanned.workspace =
        (.ok (), later) ∧
      later.content ["a.txt"] = "xxa b" ∧
      Text.Replaced "a a" [⟨⟨2, 3⟩, "b"⟩, ⟨⟨0, 1⟩, "xxa"⟩] "xxa b" := by
  have hfind : (NodeType.ofMicrogrammar letter).find (.file ["a.txt"]) filed.workspace =
      (.ok [.text (letterAt 0), .text (letterAt 1)], scanned.workspace) := rfl
  have hrun : (Act.updateAll [(letterAt 1, "b"), (letterAt 0, "xxa")]).run scanned.workspace =
      (.ok (), ((Act.updateAll [(letterAt 1, "b"), (letterAt 0, "xxa")]).run
        scanned.workspace).2) := rfl
  obtain ⟨-, spans, -, replaced⟩ := updateAll_of_reached reached_filed (fun _ => by decide)
    (List.mem_cons_of_mem _ List.mem_cons_self) hfind
    [⟨1, 1, ⟨⟨2, 3⟩, "a", []⟩, "b"⟩, ⟨0, 0, ⟨⟨0, 1⟩, "a", []⟩, "xxa"⟩]
    (fun u hu => by
      rcases List.mem_pair.1 hu with rfl | rfl
      · exact List.mem_cons_of_mem _ List.mem_cons_self
      · exact List.mem_cons_self)
    (by decide) hrun
  exact ⟨_, hrun, rfl, replaced (.inr (.inr (by decide)))⟩

/-- From the left it does not come to that: in `xxa a` the right letter, seen at 2, is found at the
letter that the first update has written there. -/
theorem letters_exchanged :
    Reached (fun _ => 0) filed ∧
      (NodeType.ofMicrogrammar letter).find (.file ["a.txt"]) filed.workspace =
        (.ok [.text (letterAt 0), .text (letterAt 1)], scanned.workspace) ∧
      ∃ later, (Act.updateAll [(letterAt 0, "xxa"), (letterAt 1, "b")]).run scanned.workspace =
          (.ok (), later) ∧
        filed.workspace.content ["a.txt"] = "a a" ∧ later.content ["a.txt"] = "xxb a" ∧
        ¬ Text.Replaced "a a" [⟨⟨0, 1⟩, "xxa"⟩, ⟨⟨2, 3⟩, "b"⟩] "xxb a" := by
  refine ⟨reached_filed, rfl, _, rfl, rfl, rfl, fun replaced => ?_⟩
  have second : Text.ReplacedFrom 1 [' ', 'a'] [⟨⟨2, 3⟩, "b"⟩] [' ', 'b'] :=
    @Text.ReplacedFrom.piece 1 [' '] ['a'] [] [] ⟨2, 3⟩ "b" [] rfl rfl (.kept 3 [])
  have atOnce : Text.Replaced "a a" [⟨⟨0, 1⟩, "xxa"⟩, ⟨⟨2, 3⟩, "b"⟩] "xxa b" :=
    ⟨_, .refl _, @Text.ReplacedFrom.piece 0 [] ['a'] _ _ ⟨0, 1⟩ "xxa" _ rfl rfl second⟩
  exact absurd (replaced.unique atOnce (by decide)) (by decide)

end TreeQuery.Session
