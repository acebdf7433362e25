/-
The way from any node up to the root of the project.

A caller holds nodes that it has found at various times, in texts that have since been changed:
members of views that are gone, occurrences within members that are gone, bindings of occurrences
of occurrences. It goes from one to its parent until there is none. The loop has no bound, and each
step may consult a view that no earlier one has seen.

It comes to the root all the same, without passing an address twice. And as long as a node has a
place in the present project the way up agrees with the way down.
-/
import TreeQuery.Proofs.Session.Stale
import TreeQuery.Proofs.Workspace.Climbing

namespace TreeQuery

variable {grammars : Grammars}

/-- A directory, a file, or a node in a view whose address is in the view of the present text. -/
def Workspace.Present (w : Workspace grammars) : Node → Prop
  | .directory _ => True
  | .text (.file _) => True
  | .text (.member node) =>
    ((grammars.view node.language (w.content node.file)).indexOf?
      (viewAddress node.file node.language) node.address).isSome
  | .text (.occurrence ..) => False
  | .text (.binding ..) => False
  | .detached _ => False

/-- A chain of nodes, each under the next, passes no address twice. -/
theorem nodup_of_isChain_under {nodes : List Node} (h : nodes.IsChain Node.Under) :
    (nodes.map Node.address).Nodup := by
  have : Trans Node.Under Node.Under Node.Under := ⟨fun h h' => h.trans h'⟩
  exact List.pairwise_map.2 ((List.isChain_iff_pairwise.1 h).imp fun h => h.address_ne)

namespace Session

variable {changes : ProjectPath → Nat} {s : Session grammars}

/-- After any run, each node but the root has a parent, whose address is a proper prefix of its
own. Going from parent to parent comes to an end, with what the ancestors are said to be; no
address comes twice, and the last node is the root. And a node that is present is linked with its
parent and its children. -/
theorem ancestors_of_reached (hr : Reached changes s) (few : ∀ file, changes file < UInt64.size)
    {node : Node} (held : node ∈ s.held) :
    ((Act.parent? node s.workspace).1 = none ↔ node = .directory []) ∧
      (∀ above ∈ (Act.parent? node s.workspace).1,
        ∃ rest, rest ≠ "" ∧ node.address = above.address ++ rest) ∧
      Act.Climbs s.workspace node (Act.ancestors node s.workspace).1
        (Act.ancestors node s.workspace).2 ∧
      ((node :: (Act.ancestors node s.workspace).1).map Node.address).Nodup ∧
      (node :: (Act.ancestors node s.workspace).1).getLast? = some (.directory []) ∧
      ((node :: (Act.ancestors node s.workspace).1).map Node.address).getLast? = some "/" ∧
      (s.workspace.Present node → s.workspace.Linked node) := by
  obtain ⟨notes, hrecorded⟩ := hr.recorded
  obtain ⟨r, hworkspace, -, hkept, hknows⟩ := kept_of_recorded .vacuous hrecorded few
  have hknown := hknows node held
  have hclimbs := Act.climbs_ancestors hkept hknown
  obtain ⟨hchain, hlast⟩ := hclimbs.chain hkept rfl hknown
  rw [hworkspace] at hclimbs hchain hlast
  refine ⟨?_, fun above ha => ?_, hclimbs, nodup_of_isChain_under hchain, hlast, ?_,
    fun present => ?_⟩
  · rcases Act.parent?_of_knows hknown with ⟨hroot, hnone⟩ | ⟨above, v, hsome, -, hunder⟩
    · rw [← hworkspace, hnone]
      exact iff_of_true rfl hroot
    · rw [← hworkspace, hsome]
      refine iff_of_false (Option.some_ne_none above) ?_
      rintro rfl
      cases hsome
  · rcases Act.parent?_of_knows hknown with ⟨-, hnone⟩ | ⟨other, v, hsome, -, hunder⟩
    · rw [← hworkspace, hnone] at ha
      cases ha
    · rw [← hworkspace, hsome] at ha
      obtain rfl := Option.mem_some_iff.1 ha
      exact hunder
  · rw [List.getLast?_map, hlast]
    rfl
  · rw [← hworkspace] at present ⊢
    cases node with
    | directory path => exact Act.linked_directory hknown
    | detached tree => exact hknown.elim
    | text node =>
        cases node with
        | file path => exact Act.linked_file hknown
        | occurrence handle grammar context index born => exact present.elim
        | binding handle grammar context index born name => exact present.elim
        | member node =>
            obtain ⟨part, hpart⟩ := Option.ne_none_iff_exists'.1 fun hnone =>
              Option.isSome_iff_ne_none.1 present (View.indexOf?_eq_none_iff.2 hnone)
            exact Act.linked_member hkept hknown hpart

/-- The case of a letter that is not the one found at first. -/
theorem ancestors_of_reached_letter :
    (∃ changes, Reached changes refilled ∧ ∀ file, changes file < UInt64.size) ∧
      .text (.member letterNode) ∈ refilled.held ∧
      (Act.ancestors (.text (.member letterNode)) refilled.workspace).1.map Node.address =
        ["/a.py/PythonFile()", "/a.py", "/"] ∧
      Act.Climbs refilled.workspace (.text (.member letterNode))
        (Act.ancestors (.text (.member letterNode)) refilled.workspace).1
        (Act.ancestors (.text (.member letterNode)) refilled.workspace).2 ∧
      refilled.workspace.Linked (.text (.member letterNode)) := by
  obtain ⟨changes, hr, hmost⟩ := recorded_refilled
  have few : ∀ file, changes file < UInt64.size := fun file =>
    Nat.lt_of_le_of_lt (hmost file) (by decide)
  have held : .text (.member letterNode) ∈ refilled.held := by
    rw [held_refilled]
    exact letter_mem_sightings
  have present : refilled.workspace.Present (.text (.member letterNode)) :=
    Option.isSome_iff_exists.2 ⟨1, indexOf?_refilled⟩
  obtain ⟨-, -, hclimbs, -, -, -, hlinked⟩ := ancestors_of_reached hr.reached few held
  exact ⟨⟨_, hr.reached, few⟩, held, by decide +kernel, hclimbs, hlinked present⟩

end Session

end TreeQuery
