/-
Matches in document order.

Expressions made of names, wildcards and tags walk the tree of a project: what they find from a
node are nodes at and below it, and what each step finds from one node is in document order. Over
several steps the order is that of the nodes the last step is taken from, and below each of these
that of the document. It is the order of the document throughout if those nodes stand apart: if
they are reached along the child axis alone, or if they are in document order themselves and none
is below another. After a descendant step it need not be: `unordered` has one expression whose
second match stands behind its third in the tree.
-/
import TreeQuery.Proofs.Expression.Naming
import TreeQuery.Proofs.Session.Basic
import TreeQuery.Proofs.Snapshot.Shown
import TreeQuery.Proofs.Snapshot.Tree

namespace TreeQuery

open Expression (Step)

variable {grammars : Grammars}

/-- What an expression without registered types finds in a snapshot, by its steps. -/
theorem Snapshot.evaluate_ordered {S : Snapshot grammars} {types : Query.Registry BuiltIn}
    {dedupe : Bool} {expression : String} {steps : List Step} {last : Step}
    (compiled : Expression.compile expression = .ok ⟨expression, steps ++ [last]⟩)
    (structural : Query.Structural types (steps ++ [last])) {root : Place} {found : List Place}
    (hfound : S.evaluate types dedupe expression root = .ok found) :
    ∃ contexts, (Query.evaluate S.forest (types.map S.provider) false ⟨expression, steps⟩
        root).run = .ok contexts ∧
      found.Sublist (contexts.flatMap (Query.preorder S.forest)) ∧
      ((∀ step ∈ steps, step.axis = .child) → found.Sublist (Query.preorder S.forest root)) ∧
      (contexts.Sublist (Query.preorder S.forest root) →
        (contexts.Pairwise fun x y => y ∉ Query.preorder S.forest x) →
        found.Sublist (Query.preorder S.forest root)) := by
  have hmapped : Query.Structural (types.map S.provider) (steps ++ [last]) := by
    intro step hs name hn
    rw [Query.Registry.type?_map, structural step hs name hn]
    rfl
  exact Query.evaluate_ordered S.founded hmapped ((evaluate_eq_ok compiled).1 hfound)

namespace Session

variable {changes : ProjectPath → Nat} {s : Session grammars}

/-- After any run of actions, directories and files show their places; and what an expression
without registered types finds from a node that shows a place stands below the places that all its
steps but the last reach, place by place in document order. If these are reached along the child
axis alone, or are in document order with none below another, everything found is in document
order. -/
theorem ordered_of_reached (hr : Reached changes s) (few : ∀ file, changes file < UInt64.size) :
    let S := s.workspace.snapshot
    ((∀ path, s.workspace.Shows (.directory path) (.directory path)) ∧
      ∀ path, (s.workspace.project.document? path).isSome →
        s.workspace.Shows (.file path) (.file path)) ∧
    ∀ (types : Query.Registry BuiltIn) (dedupe : Bool) (expression : String) (steps : List Step)
      (last : Step) (root : Node) (place : Place) (found : List Node) (later : Workspace grammars),
      Expression.compile expression = .ok ⟨expression, steps ++ [last]⟩ →
      Query.Structural types (steps ++ [last]) →
      s.workspace.Shows root place →
      ((Engine.ofTypes grammars types dedupe).evaluate expression root).run s.workspace =
        (.ok found, later) →
      ∃ places contexts : List Place, List.Forall₂ later.Shows found places ∧
        (Query.evaluate S.forest (types.map S.provider) false ⟨expression, steps⟩ place).run =
          .ok contexts ∧
        places.Sublist (contexts.flatMap (Query.preorder S.forest)) ∧
        ((∀ step ∈ steps, step.axis = .child) ∨
          (contexts.Sublist (Query.preorder S.forest place) ∧
            contexts.Pairwise fun x y => y ∉ Query.preorder S.forest x) →
          places.Sublist (Query.preorder S.forest place) ∧
          (found.map Node.address).Sublist
            (((Workspace.forest grammars).descendantsOrSelf root s.workspace).1.map
              Node.address)) := by
  have hcoherent := (sound_of_reached hr few).coherent
  refine ⟨⟨hcoherent.shows_directory, fun path => hcoherent.shows_file⟩, ?_⟩
  intro types dedupe expression steps last root place found later compiled structural shown hfound
  obtain ⟨places, hplaces, hshows⟩ := shown.evaluate_ok hfound
  obtain ⟨contexts, hcontexts, hbelow, hchildren, happart⟩ :=
    Snapshot.evaluate_ordered compiled structural hplaces
  refine ⟨places, contexts, hshows, hcontexts, hbelow, fun apart => ?_⟩
  have horder : places.Sublist (Query.preorder s.workspace.snapshot.forest place) :=
    apart.elim hchildren fun h => happart h.1 h.2
  refine ⟨horder, ?_⟩
  rw [Workspace.map_address_of_shows hshows,
    Workspace.map_address_of_shows shown.descendantsOrSelf]
  exact horder.map _

-- ============================================================ a sample

/-- A session in which two files have been added, one of them two directories down. -/
def nested : Session blind :=
  ((start "p" .empty .empty).step (.addFile "x/p/q.txt" "")).step (.addFile "y.txt" "")

theorem reached_nested : Reached (fun _ => 0) nested :=
  ((Reached.start "p" .empty .empty).addFile "x/p/q.txt" "").addFile "y.txt" ""

/-- An engine that knows no types. -/
def bareEngine : Engine blind := .ofTypes blind .core false

theorem compile_files : Expression.compile "/*//File()" =
    .ok ⟨"/*//File()", [⟨.child, .any, []⟩] ++ [⟨.descendant, .type "File", []⟩]⟩ :=
  Expression.compile_of_print (by decide) (by decide) (by decide)

/-- The addresses occur at places of the list that do not decrease. -/
def InOrder (tree found : List String) : Prop :=
  found ⊆ tree ∧ (found.map fun address => tree.idxOf address).Pairwise (· ≤ ·)

theorem listed_nested :
    ((Workspace.forest blind).descendantsOrSelf (.directory []) nested.workspace).1.map
      Node.address = ["/", "/x", "/x/p", "/x/p/q.txt", "/y.txt"] := by decide

/-- The case of files at and below what the project has at its root. -/
theorem ordered_of_reached_nested :
    ∃ found later, (bareEngine.evaluate "/*//File()" (.directory [])).run nested.workspace =
        (.ok found, later) ∧
      found.map Node.address = ["/x/p/q.txt", "/y.txt"] ∧
      (found.map Node.address).Sublist ["/", "/x", "/x/p", "/x/p/q.txt", "/y.txt"] := by
  obtain ⟨found, later, hrun, haddresses⟩ := exists_run
    (a := bareEngine.evaluate "/*//File()" (.directory [])) (w := nested.workspace)
    (f := List.map Node.address) (y := ["/x/p/q.txt", "/y.txt"]) (by decide +kernel)
  obtain ⟨⟨directories, -⟩, ordered⟩ := ordered_of_reached reached_nested fun _ => by decide
  obtain ⟨places, contexts, -, -, -, apart⟩ := ordered .core false "/*//File()" _ _ (.directory [])
    (.directory []) found later compile_files (fun _ _ _ _ => rfl) (directories []) hrun
  obtain ⟨-, horder⟩ := apart (.inl (by decide))
  rw [listed_nested] at horder
  exact ⟨found, later, hrun, haddresses, horder⟩

/-- After a descendant step the order is that of the nodes it reached: `x/p` is found below `x`,
behind the file that stands after it. -/
theorem unordered :
    Reached (fun _ => 0) nested ∧
      (((Workspace.forest blind).descendantsOrSelf (.directory []) nested.workspace).1.map
        Node.address = ["/", "/x", "/x/p", "/x/p/q.txt", "/y.txt"]) ∧
      ∃ found later, (bareEngine.evaluate "//*/*" (.directory [])).run nested.workspace =
          (.ok found, later) ∧
        found.map Node.address = ["/x", "/y.txt", "/x/p", "/x/p/q.txt"] ∧
        ¬ InOrder ["/", "/x", "/x/p", "/x/p/q.txt", "/y.txt"]
          ["/x", "/y.txt", "/x/p", "/x/p/q.txt"] := by
  obtain ⟨found, later, hrun, haddresses⟩ := exists_run
    (a := bareEngine.evaluate "//*/*" (.directory [])) (w := nested.workspace)
    (f := List.map Node.address) (y := ["/x", "/y.txt", "/x/p", "/x/p/q.txt"])
    (by decide +kernel)
  exact ⟨reached_nested, listed_nested, found, later, hrun, haddresses,
    fun h => absurd h.2 (by decide)⟩

end Session

end TreeQuery
