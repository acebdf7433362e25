/-
Occurrences stay well formed, whatever is done through them.

What is recorded of an occurrence is replaced on every update, by what its grammar makes of the
text that has been written: the captures of the text as a whole, or none if it is no occurrence.
Either way they are ranges of the new text, for some of the bindings in their order. As a handle is
given to occurrences of one grammar only, an account of the grammars of the handles goes with every
session (`owned_of_reached`), and every occurrence is well formed after any run of actions
(`formed_of_reached`): among them the updates through it and its bindings, one after the other, and
those of what it was found in or of what was found in it.
-/
import TreeQuery.Proofs.Session.Failing
import TreeQuery.Proofs.Session.Unaltered
import TreeQuery.Proofs.Workspace.Owning

namespace TreeQuery

variable {grammars : Grammars} {o : Owners}

-- ============================================================= actions

namespace Action

open Act Owners

theorem owns_foundOr {ε : Type} {result : Except ε (List Node)}
    (h : ∀ nodes, result = .ok nodes → ∀ n ∈ nodes, o.Owns n) : ∀ n ∈ foundOr result, o.Owns n := by
  intro n hn
  cases result with
  | error e => cases hn
  | ok nodes => exact h nodes rfl n hn

/-- An action through a node in the account answers with nodes in a larger one, which is that of
the workspace it leaves behind. -/
theorem owning_run {action : Action} (hs : ∀ node ∈ action.subject?, o.Owns node) :
    Owning o (action.run : Act grammars (List Node)) fun p nodes => ∀ n ∈ nodes, p.Owns n := by
  have silent : ∀ {α : Type} {a : Act grammars α}, Passing a →
      Owning o (do let _ ← a; return []) fun p nodes => ∀ n ∈ nodes, p.Owns n := fun ha =>
    ha.owning.bind fun _ _ _ _ => owning_pure fun n hn => by cases hn
  cases action with
  | addFile path content =>
      have hadd : Passing (Act.addFile path content : Act grammars _) := by
        intro w
        rw [addFile_run]
        cases w.project.add path content with
        | error e => exact .refl w
        | ok added => exact ⟨rfl, Nat.le_refl _⟩
      refine hadd.owning.bind fun p result _ _ => ?_
      cases result with
      | error e => exact owning_pure fun n hn => by cases hn
      | ok file => exact owning_pure (List.forall_mem_singleton.2 (owns_nil rfl))
  | setContent file text => exact silent fun w => ⟨rfl, Nat.le_refl _⟩
  | replaceText file old new =>
      refine silent fun w => ?_
      rcases replaceInFile_snd file old new w with h | ⟨text, h⟩
      · rw [h]
        exact .refl w
      · rw [h]
        exact ⟨rfl, Nat.le_refl _⟩
  | applyEdit file edit =>
      refine silent fun w => ?_
      unfold Act.applyEdit
      rw [get_bind_apply]
      cases (w.document file).apply edit with
      | error e => exact .refl w
      | ok answer => exact ⟨rfl, Nat.le_refl _⟩
  | markClean file => exact silent fun w => ⟨rfl, Nat.le_refl _⟩
  | update node text =>
      intro w hw
      exact ⟨o, .refl o, records_update node (hs _ rfl) hw text, fun n hn => by cases hn⟩
  | look node => exact silent (passing_look node)
  | value node => exact silent (passing_value node)
  | extent node => exact silent (passing_extent node)
  | children node => exact owning_children (hs _ rfl)
  | parent node =>
      exact (owning_parent? (hs _ rfl)).bind fun p above _ ha => owning_pure fun n hn =>
        ha n (Option.mem_toList.1 hn)
  | ancestors node => exact owning_ancestorsWithin _ (hs _ rfl)
  | viewRoot file language =>
      exact (passing_viewRoot file language).owning.bind fun _ _ _ _ =>
        owning_pure (List.forall_mem_singleton.2 (owns_nil rfl))
  | find type node =>
      exact (owning_find type (hs _ rfl)).bind fun p result _ h => owning_pure (owns_foundOr h)
  | evaluate types dedupe expression root =>
      exact (owning_evaluate types dedupe expression (hs _ rfl)).bind fun p result _ h =>
        owning_pure (owns_foundOr h)

end Action

-- ============================================================ sessions

namespace Session

variable {changes : ProjectPath → Nat} {s : Session grammars}

/-- The account is that of the session: all that was found and is held is in it. -/
structure Owned (o : Owners) (s : Session grammars) : Prop where
  records : o.Records s.workspace
  nodes : ∀ node ∈ s.held, o.Owns node

theorem Owned.step (h : s.Owned o) (action : Action)
    (subject : ∀ node ∈ action.subject?, node ∈ s.held) :
    ∃ p, (s.step action).Owned p := by
  obtain ⟨p, hp, hrecords, hanswers⟩ :=
    Action.owning_run (fun node hn => h.nodes node (subject node hn)) s.workspace h.records
  exact ⟨p, hrecords, List.forall_mem_append.2 ⟨fun n hn => hp.owns (h.nodes n hn), hanswers⟩⟩

/-- There is an account of every session. -/
theorem owned_of_reached (hr : Reached changes s) : ∃ o, s.Owned o := by
  induction hr with
  | start name programs patterns =>
      refine ⟨fun _ => none, ⟨fun _ _ h => (by cases h), fun entry hm => (by cases hm)⟩, ?_⟩
      exact List.forall_mem_singleton.2 (Owners.owns_nil rfl)
  | step action _ subject ih =>
      obtain ⟨o, ho⟩ := ih
      exact ho.step action subject

/-- The occurrences of a compiled grammar come from left to right and do not overlap, each with the
text that stands at its span and with captures whose offsets are counted from its own, which is no
later. Each is well formed, and stays so in every session for as long as a node is held that it is
or in which it was found: its captures are then ranges of its text that cut no character, for
different bindings in the order of the grammar, so that each can be taken and replaced. -/
theorem formed_of_reached {name written : String} {submatchers : List (String × String)}
    {grammar : Microgrammar}
    (compiled : Microgrammar.compile name written submatchers = .ok grammar) :
    (∀ text, ((grammar.scan text).Pairwise fun a b =>
        a.span.start < b.span.start ∧ a.span.stop ≤ b.span.start) ∧
      ∀ found ∈ grammar.scan text, Text.slice? text found.span = some found.text ∧
        found.Formed grammar ∧ ∃ m ∈ Regex.findAll grammar.inner text.toList.toArray,
          grammar.Renders text.toList.toArray m found) ∧
    ∀ {changes : ProjectPath → Nat} {s : Session grammars}, Reached changes s →
      ∀ node ∈ s.held, ∀ {handle : Handle} {born : Occurrence},
        (handle, grammar, born) ∈ node.occurrences →
          let now := s.workspace.found handle born
          now.Formed grammar ∧ (now.captures.map Prod.fst).Nodup ∧
          ∀ capture ∈ now.captures, now.captures.lookup capture.1 = some capture.2 ∧
            (now.capture? capture.1).isSome ∧
            ∀ new, (Text.splice? now.text capture.2 new).isSome := by
  have distinct := Microgrammar.nodup_bindings_of_compile compiled
  refine ⟨fun text => ⟨grammar.ascending_scan text, fun found hf => ?_⟩, ?_⟩
  · exact ⟨Microgrammar.slice?_of_mem_scan hf, Microgrammar.formed_of_mem_scan hf,
      Microgrammar.renders_of_mem_scan hf⟩
  · intro changes s hr node hn handle born hentry now
    obtain ⟨o, ho⟩ := owned_of_reached hr
    obtain ⟨howner, hborn⟩ := ho.nodes node hn _ hentry
    have hformed : now.Formed grammar := ho.records.found howner hborn
    refine ⟨hformed, hformed.ordered.nodup distinct, fun capture hc => ?_⟩
    have hlookup := hformed.lookup distinct hc
    have hslice := hformed.sliceable capture hc
    refine ⟨hlookup, ?_, fun new => (Text.isSome_splice? ..).trans hslice⟩
    unfold Occurrence.capture?
    rw [hlookup]
    exact hslice

-- ============================================================ a sample

/-- The letter in the sample, as it is found. -/
def foundLetter : Occurrence := ⟨⟨1, 2⟩, "b", [("v", ⟨0, 1⟩)]⟩

/-- The occurrence of the letter. -/
def letterOccurrence : TextNode :=
  .occurrence 0 Microgrammar.letter (.file ["a.txt"]) 0 foundLetter

/-- A session in which the letter has been found. -/
def discovered : Session blind :=
  sampled.step (.find (.microgrammar Microgrammar.letter) (.file ["a.txt"]))

/-- A session in which it has been replaced by the other letter. -/
def exchanged : Session blind := discovered.step (.update letterOccurrence "a")

theorem held_discovered :
    discovered.held = [.directory [], .file ["a.txt"], .text letterOccurrence] := rfl

theorem reached_exchanged : ∃ changes, Reached changes exchanged := by
  have hsampled : Reached _ sampled :=
    (Reached.start _ _ _).step _ fun node hn => by cases hn
  have hdiscovered : Reached _ discovered := hsampled.step _ fun node hn => by
    obtain rfl := Option.mem_some_iff.1 hn
    exact List.mem_cons_of_mem _ List.mem_cons_self
  refine ⟨_, hdiscovered.step _ fun node hn => ?_⟩
  obtain rfl := Option.mem_some_iff.1 hn
  rw [held_discovered]
  exact List.mem_cons_of_mem _ (List.mem_cons_of_mem _ List.mem_cons_self)

/-- The case of the letter after it has been replaced. -/
theorem formed_of_reached_exchanged :
    Microgrammar.compile "letter" "$v" [("v", "a|b")] = .ok Microgrammar.letter ∧
    (foundLetter ∈ Microgrammar.letter.scan "xby" ∧
      Text.slice? "xby" foundLetter.span = some "b") ∧
    (∃ changes, Reached changes exchanged) ∧ .text letterOccurrence ∈ exchanged.held ∧
    exchanged.workspace.found 0 foundLetter = ⟨⟨1, 2⟩, "a", [("v", ⟨0, 1⟩)]⟩ ∧
    ((exchanged.workspace.found 0 foundLetter).captures.map Prod.fst).Nodup ∧
    ((exchanged.workspace.found 0 foundLetter).capture? "v").isSome ∧
    ∀ new, (Text.splice? "a" ⟨0, 1⟩ new).isSome := by
  have hscan : foundLetter ∈ Microgrammar.letter.scan "xby" := by decide +kernel
  have held : .text letterOccurrence ∈ exchanged.held := by
    show _ ∈ discovered.held ++ []
    rw [held_discovered]
    exact List.mem_cons_of_mem _ (List.mem_cons_of_mem _ List.mem_cons_self)
  have hnow : exchanged.workspace.found 0 foundLetter = ⟨⟨1, 2⟩, "a", [("v", ⟨0, 1⟩)]⟩ := by
    decide +kernel
  obtain ⟨changes, hr⟩ := reached_exchanged
  obtain ⟨hscanned, hsessions⟩ := @formed_of_reached blind _ _ _ _ Microgrammar.compile_letter
  obtain ⟨-, hdistinct, hcaptures⟩ := hsessions hr _ held List.mem_cons_self
  rw [hnow] at hcaptures
  obtain ⟨-, hcapture, hsplice⟩ := hcaptures _ List.mem_cons_self
  rw [← hnow] at hcapture
  exact ⟨Microgrammar.compile_letter, ⟨hscan, ((hscanned "xby").2 _ hscan).1⟩, ⟨changes, hr⟩,
    held, hnow, hdistinct, hcapture, hsplice⟩

end Session

end TreeQuery
