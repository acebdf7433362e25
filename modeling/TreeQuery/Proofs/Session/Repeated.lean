/-
Dropping repeated matches loses nothing.

An engine may be told to drop a match when an earlier one has its address. Doing so comes last
(`Engine.evaluate_dedupe`), so it finds the first match of each address. Addresses are made of
names that nobody keeps apart: a file may be called like the view of another, a grammar like
anything. What keeps the matches of one expression apart is that they have one shape; with the
same address they are the same place of the same text, and no one can tell which was dropped.
-/
import TreeQuery.Proofs.Microgrammar.Pattern
import TreeQuery.Proofs.Session.Basic
import TreeQuery.Proofs.Snapshot.Places
import TreeQuery.Proofs.Snapshot.Shown

namespace TreeQuery

open Query (firstOfEach)

variable {grammars : Grammars}

theorem Act.map_apply {α β : Type} (f : α → β) (a : Act grammars α) (w : Workspace grammars) :
    (f <$> a) w = (f (a w).1, (a w).2) := rfl

/-- An engine that drops repeated matches does what one does that keeps them, and then keeps the
first match of each address. -/
theorem Engine.evaluate_dedupe (types : Query.Registry BuiltIn) (expression : String)
    (root : Node) :
    (ofTypes grammars types true).evaluate expression root =
      firstOfEach Node.address <$> (ofTypes grammars types false).evaluate expression root := by
  unfold evaluate
  rw [map_bind]
  refine bind_congr fun program => ?_
  have hquery : Query.evaluate (Workspace.forest grammars) (ofTypes grammars types true).registry
      (ofTypes grammars types true).dedupe program root =
    firstOfEach Node.address <$> Query.evaluate (Workspace.forest grammars)
      (ofTypes grammars types false).registry (ofTypes grammars types false).dedupe program root :=
    Query.evaluate_dedupe _ _ program root
  rw [hquery, ExceptT.run_map, map_bind, liftM_map, bind_map_left]
  refine bind_congr fun outcome => ?_
  cases outcome with
  | error failure => rfl
  | ok found => rfl

namespace Session

variable {changes : ProjectPath → Nat} {s : Session grammars}

/-- The paths of the files can be read back from what they are written as. -/
theorem Sound.legible (hs : Sound changes s) : s.workspace.snapshot.Legible where
  arranged := s.workspace.arranged_snapshot
  legible := by
    intro path hp
    refine ProjectPath.legible_of_parse? (hs.written path ?_)
    obtain ⟨entry, he, rfl⟩ := List.mem_map.1 hp
    have hlookup := List.lookup_isSome_iff.2 ⟨entry, he, beq_self_eq_true entry.1⟩
    rw [Workspace.lookup_snapshot, Option.isSome_map] at hlookup
    exact hlookup

/-- After any run of actions, an engine that drops repeated matches finds the first match of each
address that one finds which keeps them, in the same order. The matches it drops are places that
are kept: two matches with the same address show the same place, and look alike from all sides. -/
theorem distinct_of_reached (hr : Reached changes s) (few : ∀ file, changes file < UInt64.size)
    {types : Query.Registry BuiltIn} (compiled : ∀ entry ∈ types.types, entry.2.Compiled)
    (expression : String) :
    (∀ result later, ((Engine.ofTypes grammars types false).evaluate expression
        (.directory [])).run s.workspace = (result, later) →
      ((Engine.ofTypes grammars types true).evaluate expression
        (.directory [])).run s.workspace = (result.map (firstOfEach Node.address), later)) ∧
    (∀ found later, ((Engine.ofTypes grammars types false).evaluate expression
        (.directory [])).run s.workspace = (.ok found, later) →
      ∃ places, List.Forall₂ later.Shows found places ∧
        ∀ x ∈ places, ∀ y ∈ places, x.address = y.address → x = y) ∧
    ∀ sights later, ((Engine.ofTypes grammars types false).survey expression).run s.workspace =
        (.ok sights, later) →
      ∀ x ∈ sights, ∀ y ∈ sights, x.address = y.address → x = y := by
  have hs := sound_of_reached hr few
  refine ⟨fun result later hrun => ?_, fun found later hrun => ?_, fun sights later hrun => ?_⟩
  · rw [Engine.evaluate_dedupe, ExceptT.run_map, Act.map_apply, hrun]
  · obtain ⟨places, hplaces, hshows⟩ := (hs.coherent.shows_directory []).evaluate_ok hrun
    exact ⟨places, hshows, hs.legible.eq_of_evaluate compiled hplaces⟩
  · have hsurvey := hs.coherent.survey_eq types false expression
    rw [hrun] at hsurvey
    unfold Snapshot.survey at hsurvey
    cases hplaces : s.workspace.snapshot.evaluate types false expression (.directory []) with
    | error e =>
        rw [hplaces] at hsurvey
        cases hsurvey
    | ok places =>
        rw [hplaces] at hsurvey
        obtain rfl := Except.ok.inj hsurvey
        rintro x hx y hy he
        obtain ⟨p, hp, rfl⟩ := List.mem_map.1 hx
        obtain ⟨q, hq, rfl⟩ := List.mem_map.1 hy
        exact congrArg _ (hs.legible.eq_of_evaluate compiled hplaces p hp q hq he)

-- ============================================================ a sample

/-- The grammar is what compiling its text yields. -/
theorem compile_letter : Microgrammar.compile "letter" "a" [] = .ok letter :=
  Microgrammar.compile_a "letter"

/-- The types of an engine that knows the letters. -/
def letterTypes : Query.Registry BuiltIn :=
  Query.Registry.core.register "letter" (.microgrammar letter)

theorem compiled_letterTypes : ∀ entry ∈ letterTypes.types, entry.2.Compiled :=
  List.forall_mem_singleton.2 ⟨"a", [], compile_letter⟩

/-- An engine that knows the letters. -/
def letterEngine (dedupe : Bool) : Engine blind := .ofTypes blind letterTypes dedupe

/-- The case of letters found below the project and once more below the file. -/
theorem distinct_of_reached_filed :
    (∃ found later, ((letterEngine false).evaluate "//*//letter()" (.directory [])).run
        filed.workspace = (.ok found, later) ∧
      found.map Node.address = ["/a.txt/letter()", "/a.txt/letter()[1]", "/a.txt/letter()",
        "/a.txt/letter()[1]"] ∧
      ((letterEngine true).evaluate "//*//letter()" (.directory [])).run filed.workspace =
        (.ok (firstOfEach Node.address found), later) ∧
      (firstOfEach Node.address found).map Node.address =
        ["/a.txt/letter()", "/a.txt/letter()[1]"]) ∧
    ∃ sights later, ((letterEngine false).survey "//*//letter()").run filed.workspace =
        (.ok sights, later) ∧
      sights.map Sight.address = ["/a.txt/letter()", "/a.txt/letter()[1]", "/a.txt/letter()",
        "/a.txt/letter()[1]"] ∧
      ∀ x ∈ sights, ∀ y ∈ sights, x.address = y.address → x = y := by
  obtain ⟨hfirst, -, halike⟩ := distinct_of_reached reached_filed (fun _ => by decide)
    compiled_letterTypes "//*//letter()"
  obtain ⟨found, later, hrun, haddresses⟩ := exists_run
    (a := (letterEngine false).evaluate "//*//letter()" (.directory [])) (w := filed.workspace)
    (f := List.map Node.address) (y := ["/a.txt/letter()", "/a.txt/letter()[1]",
      "/a.txt/letter()", "/a.txt/letter()[1]"]) (by decide +kernel)
  obtain ⟨kept, last, hkept, hdistinct⟩ := exists_run
    (a := (letterEngine true).evaluate "//*//letter()" (.directory [])) (w := filed.workspace)
    (f := List.map Node.address) (y := ["/a.txt/letter()", "/a.txt/letter()[1]"])
    (by decide +kernel)
  obtain ⟨sights, after, hsights, hsame⟩ := exists_run
    (a := (letterEngine false).survey "//*//letter()") (w := filed.workspace)
    (f := List.map Sight.address) (y := ["/a.txt/letter()", "/a.txt/letter()[1]",
      "/a.txt/letter()", "/a.txt/letter()[1]"]) (by decide +kernel)
  have hdropped := hfirst _ _ hrun
  obtain ⟨he, -⟩ := Prod.mk.inj (hkept.symm.trans hdropped)
  obtain rfl := Except.ok.inj he
  exact ⟨⟨found, later, hrun, haddresses, hdropped, hdistinct⟩, sights, after, hsights, hsame,
    halike sights after hsights⟩

end Session

end TreeQuery
