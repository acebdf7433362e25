/-
Nodes that show places.

A node shows a place when what a workspace remembers of it, and of all it was found in, is right
(`Workspace.Shows`): it looks like the place then, and so does all that is found from it. The
directories and files of a project always do, for nothing is remembered of them, and what an
evaluation finds from a node that shows a place shows what the expression finds in the snapshot
(`Shows.evaluate`), as long as no text changes. So what holds of evaluations in a forest that
answers without effects holds of those in a workspace: an expression after another finds there, too,
what it finds from each match of the other (`Shows.evaluate_joined`).
-/
import TreeQuery.Proofs.Query.Composition
import TreeQuery.Proofs.Snapshot.Survey

namespace TreeQuery

variable {grammars : Grammars}

/-- What an expression finds in a snapshot is what its program does. -/
theorem Snapshot.evaluate_eq_ok {S : Snapshot grammars} {types : Query.Registry BuiltIn}
    {dedupe : Bool} {expression : String} {program : Expression.Program} {root : Place}
    {found : List Place} (compiled : Expression.compile expression = .ok program) :
    S.evaluate types dedupe expression root = .ok found ↔
      (Query.evaluate S.forest (types.map S.provider) dedupe program root).run = .ok found := by
  unfold evaluate
  simp only [compiled]
  cases (Query.evaluate S.forest (types.map S.provider) dedupe program root).run with
  | error failure =>
      constructor
      · intro h
        cases h
      · intro h
        cases h
  | ok places => exact ⟨fun h => congrArg Except.ok (Except.ok.inj h),
      fun h => congrArg Except.ok (Except.ok.inj h)⟩

namespace Workspace

variable {w : Workspace grammars} {node root : Node} {place : Place}

/-- The node stands for the place, and what the workspace remembers of it is right. -/
def Shows (w : Workspace grammars) (node : Node) (place : Place) : Prop :=
  ∃ L : Ledger grammars, L.workspace = w ∧ L.Correct w.snapshot ∧ L.Shows node place

theorem arranged_snapshot (w : Workspace grammars) :
    ProjectPath.Arranged (w.snapshot.texts.map (·.1)) := by
  rw [w.paths_snapshot]
  exact w.project.arranged

theorem Coherent.shows_directory (hw : w.Coherent) (path : ProjectPath) :
    w.Shows (.directory path) (.directory path) := ⟨_, rfl, hw.correct, rfl⟩

theorem Coherent.shows_file (hw : w.Coherent) {path : ProjectPath}
    (hf : (w.project.document? path).isSome) : w.Shows (.file path) (.file path) :=
  ⟨_, rfl, hw.correct, rfl, ⟨hf, fun _ hm => by cases hm⟩, trivial⟩

theorem Shows.address (h : w.Shows node place) : node.address = place.address := by
  obtain ⟨L, -, -, hs⟩ := h
  exact (Act.forests_agreeing w.snapshot).address hs

/-- Only the directory itself shows a directory. -/
theorem Shows.eq_directory {path : ProjectPath} (h : w.Shows node (.directory path)) :
    node = .directory path := by
  obtain ⟨L, -, -, hs⟩ := h
  match node, hs with
  | .directory _, rfl => rfl

/-- Only the file itself shows a file. -/
theorem Shows.eq_file {path : ProjectPath} (h : w.Shows node (.file path)) :
    node = .file path := by
  obtain ⟨L, -, -, hs⟩ := h
  match node, hs with
  | .text (.file _), ⟨rfl, _⟩ => rfl

/-- A node that shows a member stands at its location. -/
theorem Shows.exists_member {file : ProjectPath} {language : Language} {location : Location}
    (h : w.Shows node (.text (.member file language location))) :
    ∃ member : MemberNode, node = .text (.member member) ∧ member.file = file ∧
      member.language = language ∧ member.location = location := by
  obtain ⟨L, -, -, hs⟩ := h
  match node, hs with
  | .text (.member member), ⟨hplace, _⟩ =>
      obtain ⟨hfile, hlanguage, hlocation⟩ := TextPlace.member.inj hplace
      exact ⟨member, rfl, hfile, hlanguage, hlocation⟩

theorem map_address_of_shows {nodes : List Node} {places : List Place}
    (h : List.Forall₂ w.Shows nodes places) :
    nodes.map Node.address = places.map Place.address :=
  map_eq_of_forall₂ h fun _ _ hs => hs.address

/-- What an expression finds from a node that shows a place shows what it finds in the snapshot
from the place, or fails as it does there; the snapshot stays the same. -/
theorem Shows.evaluate (h : w.Shows root place) (types : Query.Registry BuiltIn) (dedupe : Bool)
    (expression : String) :
    ∃ result later, ((Engine.ofTypes grammars types dedupe).evaluate expression root).run w =
        (result, later) ∧ later.snapshot = w.snapshot ∧
      match result, w.snapshot.evaluate types dedupe expression place with
      | .ok found, .ok places => List.Forall₂ later.Shows found places
      | .error e, .error f => e = f
      | _, _ => False := by
  obtain ⟨L, rfl, hL, hs⟩ := h
  obtain ⟨M, hM, hLM, hMc, hout⟩ := Act.agrees_evaluate types dedupe expression hs hL
  have hsnap : M.workspace.snapshot = L.workspace.snapshot := hLM.onward.snapshot
  generalize ((Engine.ofTypes grammars types dedupe).evaluate expression root).run L.workspace =
    run at hM hout
  generalize L.workspace.snapshot.evaluate types dedupe expression place = answer at hout
  obtain ⟨result, later⟩ := run
  obtain rfl : M.workspace = later := hM
  refine ⟨result, M.workspace, rfl, hsnap, ?_⟩
  match result, answer, hout with
  | .error _, .error _, rfl => exact rfl
  | .ok nodes, .ok places, hout =>
      have hout : List.Forall₂ M.Shows nodes places := hout
      exact hout.imp fun x y hxy => ⟨M, rfl, hsnap ▸ hMc, hxy⟩

theorem Shows.evaluate_ok (h : w.Shows root place) {types : Query.Registry BuiltIn}
    {dedupe : Bool} {expression : String} {found : List Node} {later : Workspace grammars}
    (hfound : ((Engine.ofTypes grammars types dedupe).evaluate expression root).run w =
      (.ok found, later)) :
    ∃ places, w.snapshot.evaluate types dedupe expression place = .ok places ∧
      List.Forall₂ later.Shows found places := by
  obtain ⟨result, last, hrun, -, hshows⟩ := h.evaluate types dedupe expression
  obtain ⟨rfl, rfl⟩ := Prod.mk.inj (hfound.symm.trans hrun)
  split at hshows
  · rename_i hfound hplaces
    obtain rfl := Except.ok.inj hfound
    exact ⟨_, hplaces, hshows⟩
  · rename_i hfound _
    cases hfound
  · exact hshows.elim

theorem Shows.exists_of_evaluate (h : w.Shows root place) {types : Query.Registry BuiltIn}
    {dedupe : Bool} {expression : String} {places : List Place}
    (hplaces : w.snapshot.evaluate types dedupe expression place = .ok places) :
    ∃ found later, ((Engine.ofTypes grammars types dedupe).evaluate expression root).run w =
      (.ok found, later) ∧ List.Forall₂ later.Shows found places := by
  obtain ⟨result, later, hrun, -, hshows⟩ := h.evaluate types dedupe expression
  rw [hplaces] at hshows
  cases result with
  | error e => exact hshows.elim
  | ok found => exact ⟨found, later, hrun, hshows⟩

/-- The addresses of what an expression finds from a node that shows a place are those of what it
finds in the snapshot. -/
theorem Shows.exists_found_iff (h : w.Shows root place) {types : Query.Registry BuiltIn}
    {dedupe : Bool} {expression : String} {addresses : List String} :
    (∃ found later, ((Engine.ofTypes grammars types dedupe).evaluate expression root).run w =
        (.ok found, later) ∧ found.map Node.address = addresses) ↔
      ∃ places, w.snapshot.evaluate types dedupe expression place = .ok places ∧
        places.map Place.address = addresses := by
  constructor
  · rintro ⟨found, later, hfound, rfl⟩
    obtain ⟨places, hplaces, hshows⟩ := h.evaluate_ok hfound
    exact ⟨places, hplaces, (map_address_of_shows hshows).symm⟩
  · rintro ⟨places, hplaces, rfl⟩
    obtain ⟨found, later, hfound, hshows⟩ := h.exists_of_evaluate hplaces
    exact ⟨found, later, hfound, map_address_of_shows hshows⟩

theorem Shows.snapshot_evaluate (h : w.Shows root place) {types : Query.Registry BuiltIn}
    {dedupe : Bool} {expression : String} {result : Except EngineError (List Node)}
    {later : Workspace grammars}
    (hrun : ((Engine.ofTypes grammars types dedupe).evaluate expression root).run w =
      (result, later)) : later.snapshot = w.snapshot := by
  obtain ⟨_, _, hsame, hsnapshot, -⟩ := h.evaluate types dedupe expression
  obtain ⟨-, rfl⟩ := Prod.mk.inj (hrun.symm.trans hsame)
  exact hsnapshot

/-- From a node that shows a place, an expression after another finds nodes with the addresses of
those that it finds from each match of the other, one match after another. -/
theorem Shows.evaluate_joined (h : w.Shows root place) {types : Query.Registry BuiltIn}
    {e₁ e₂ : String} {p₁ p₂ : Expression.Program} (h₁ : Expression.compile e₁ = .ok p₁)
    (h₂ : Expression.compile e₂ = .ok p₂)
    (known : ∀ step ∈ p₁.steps ++ p₂.steps, ∀ name, step.typeName? = some name →
      (types.resolve? name).isSome) {addresses : List String} :
    (∃ found later, ((Engine.ofTypes grammars types false).evaluate (e₁ ++ e₂) root).run w =
        (.ok found, later) ∧ found.map Node.address = addresses) ↔
      ∃ reached after parts, ((Engine.ofTypes grammars types false).evaluate e₁ root).run w =
          (.ok reached, after) ∧
        List.Forall₂ (fun node part => ∃ found later,
          ((Engine.ofTypes grammars types false).evaluate e₂ node).run after = (.ok found, later) ∧
            found.map Node.address = part) reached parts ∧
        addresses = parts.flatten := by
  have hknown : ∀ step ∈ p₁.steps ++ p₂.steps,
      Query.KnowsType (types.map w.snapshot.provider) step := by
    intro step hs name hname
    rw [Query.Registry.isSome_resolve?_map]
    exact known step hs name hname
  have hsnapshot : ∀ places, w.snapshot.evaluate types false (e₁ ++ e₂) place = .ok places ↔
      ∃ reached parts, w.snapshot.evaluate types false e₁ place = .ok reached ∧
        List.Forall₂ (fun place part => w.snapshot.evaluate types false e₂ place = .ok part)
          reached parts ∧ places = parts.flatten := by
    intro places
    have hsteps : (⟨e₁ ++ e₂, p₁.steps ++ p₂.steps⟩ : Expression.Program).steps =
      p₁.steps ++ p₂.steps := rfl
    rw [Snapshot.evaluate_eq_ok (Expression.compile_append h₁ h₂),
      Query.evaluate_eq_ok_iff_parts hknown hsteps]
    simp only [Snapshot.evaluate_eq_ok h₁, Snapshot.evaluate_eq_ok h₂]
  rw [h.exists_found_iff]
  simp only [hsnapshot]
  constructor
  · rintro ⟨_, ⟨places, parts, hplaces, hparts, rfl⟩, rfl⟩
    obtain ⟨reached, after, hreached, hshows⟩ := h.exists_of_evaluate hplaces
    refine ⟨reached, after, parts.map (List.map Place.address), hreached, ?_,
      List.map_flatten⟩
    rw [List.forall₂_map_right_iff]
    refine (forall₂_comp hshows hparts.flip).imp ?_
    rintro node part ⟨place, hnode, hpart⟩
    rw [← h.snapshot_evaluate hreached] at hpart
    exact hnode.exists_found_iff.2 ⟨part, hpart, rfl⟩
  · rintro ⟨reached, after, parts, hreached, hparts, rfl⟩
    obtain ⟨places, hplaces, hshows⟩ := h.evaluate_ok hreached
    have hbelow : List.Forall₂ (fun place part => ∃ found,
        w.snapshot.evaluate types false e₂ place = .ok found ∧
          found.map Place.address = part) places parts := by
      refine (forall₂_comp hshows.flip hparts.flip).imp ?_
      rintro place part ⟨node, hnode, hfound⟩
      rw [← h.snapshot_evaluate hreached]
      exact (Shows.exists_found_iff hnode).1 hfound
    obtain ⟨found, hfound, haddresses⟩ := exists_forall₂_of_comp hbelow
    refine ⟨_, ⟨places, found, hplaces, hfound, rfl⟩, ?_⟩
    rw [List.map_flatten, map_eq_of_forall₂ haddresses fun _ _ he => he, List.map_id']

/-- What is at and below a node that shows a place shows what is at and below the place. -/
theorem Shows.descendantsOrSelf (h : w.Shows root place) :
    List.Forall₂ ((Workspace.forest grammars).descendantsOrSelf root w).2.Shows
      ((Workspace.forest grammars).descendantsOrSelf root w).1
      (w.snapshot.forest.descendantsOrSelf place).run := by
  obtain ⟨L, rfl, hL, hs⟩ := h
  obtain ⟨M, hM, hLM, hMc, hout⟩ :=
    Query.Comparison.alike_descendantsOrSelf (Act.forests_agreeing L.workspace.snapshot) hs hL
  have hsnap : M.workspace.snapshot = L.workspace.snapshot := hLM.onward.snapshot
  rw [← hM]
  exact hout.imp fun x y hxy => ⟨M, rfl, hsnap ▸ hMc, hxy⟩

end Workspace

end TreeQuery
