/-
Matches that come once.

An expression made of names, wildcards and tags with one descendant step, or none, finds no node
twice, wherever in the project tree or in a view it starts and wherever the descendant step stands.
If nothing comes after that step, the matches are in document order as well. After two descendant
steps neither is so.
-/
import TreeQuery.Proofs.Session.Ordered
import TreeQuery.Proofs.Session.Repeated
import TreeQuery.Proofs.Snapshot.Branching

namespace TreeQuery

open Query (descents preorder)

variable {grammars : Grammars}

namespace Workspace

variable {w : Workspace grammars}

/-- The root of a view that is looked up shows its place. -/
theorem Coherent.shows_viewRoot (hw : w.Coherent) {file : ProjectPath} (language : Language)
    (hf : (w.project.document? file).isSome) :
    (Act.viewRoot file language w).2.Shows (.text (.member (Act.viewRoot file language w).1))
      (.text (.member file language [])) := by
  obtain ⟨M, hM, hLM, hMc, hshows⟩ :=
    Act.agrees_viewRoot (L := ⟨w, w.nextHandle, fun _ => none⟩) language hf hw.correct
  have hsnap : M.workspace.snapshot = w.snapshot := hLM.onward.snapshot
  rw [← hM]
  exact ⟨M, rfl, hsnap ▸ hMc, hshows⟩

end Workspace

/-- What steps without registered types find in a snapshot, of which one at most looks at all that
is below: places at and below the root, each once, and in document order if that step is the
last. -/
theorem Snapshot.evaluate_once {S : Snapshot grammars} {types : Query.Registry BuiltIn}
    {expression : String} {program : Expression.Program}
    (compiled : Expression.compile expression = .ok program)
    (tagged : Query.Tagged types program.steps) (once : descents program.steps ≤ 1)
    {root : Place} (hr : S.Stands root) :
    ∃ places, S.evaluate types false expression root = .ok places ∧ places.Nodup ∧
      (∀ place ∈ places, Query.Below S.forest root place) ∧
      ((∀ step ∈ program.steps.dropLast, step.axis = .child) →
        places.Sublist (preorder S.forest root)) := by
  have hmapped : Query.Tagged (types.map S.provider) program.steps :=
    Query.Tagged.map tagged S.provider
  refine ⟨Query.reachAll S.forest program.steps [root],
    (evaluate_eq_ok compiled).2 (hmapped.evaluate S.forest program.expression root),
    S.branching.nodup_reachAll S.founded once hr.isStructural, fun place hp => ?_,
    fun last => S.founded.reachAll_sublist last root⟩
  obtain ⟨node, hnode, hbelow⟩ := S.founded.below_of_mem_reachAll hp
  exact List.mem_singleton.1 hnode ▸ hbelow

namespace Session

variable {changes : ProjectPath → Nat} {s : Session grammars}

/-- After any run of actions, directories, files and the roots of views show their places; and from
a node that shows a place of the project tree or of a view, an expression made of names, wildcards
and known tags with one descendant step at most finds nodes that show different places, with
different addresses. If no step comes after the descendant step, they are in strict document
order. -/
theorem once_of_reached (hr : Reached changes s) (few : ∀ file, changes file < UInt64.size) :
    let S := s.workspace.snapshot
    ((∀ path, s.workspace.Shows (.directory path) (.directory path)) ∧
      (∀ path, (s.workspace.project.document? path).isSome →
        s.workspace.Shows (.file path) (.file path)) ∧
      ∀ file language, (s.workspace.project.document? file).isSome →
        ((Act.viewRoot file language) s.workspace).2.Shows
          (.text (.member ((Act.viewRoot file language) s.workspace).1))
          (.text (.member file language []))) ∧
    ∀ (types : Query.Registry BuiltIn) (expression : String) (program : Expression.Program)
      (root : Node) (place : Place),
      Expression.compile expression = .ok program →
      Query.Tagged types program.steps → descents program.steps ≤ 1 →
      S.Stands place → s.workspace.Shows root place →
      ∃ found later places,
        ((Engine.ofTypes grammars types false).evaluate expression root).run s.workspace =
          (.ok found, later) ∧
        List.Forall₂ later.Shows found places ∧ places.Nodup ∧
        (found.map Node.address).Nodup ∧
        ((∀ step ∈ program.steps.dropLast, step.axis = .child) →
          let tree := ((Workspace.forest grammars).descendantsOrSelf root s.workspace).1
          places.Sublist (preorder S.forest place) ∧ (preorder S.forest place).Nodup ∧
          (found.map Node.address).Sublist (tree.map Node.address) ∧
          (tree.map Node.address).Nodup) := by
  intro S
  have hs := sound_of_reached hr few
  refine ⟨⟨hs.coherent.shows_directory, fun path => hs.coherent.shows_file,
    fun file language => hs.coherent.shows_viewRoot language⟩, ?_⟩
  intro types expression program root place compiled tagged once stands shown
  obtain ⟨places, hplaces, hdistinct, hbelow, horder⟩ :=
    Snapshot.evaluate_once compiled tagged once stands
  obtain ⟨found, later, hrun, hshows⟩ := shown.exists_of_evaluate hplaces
  have haddresses := Workspace.map_address_of_shows hshows
  refine ⟨found, later, places, hrun, hshows, hdistinct, ?_, fun last => ?_⟩
  · rw [haddresses]
    exact hs.legible.nodup_addresses stands hbelow hdistinct
  · have htree := Workspace.map_address_of_shows shown.descendantsOrSelf
    have hpreorder : (preorder S.forest place).Nodup :=
      S.branching.nodup_preorder S.founded stands.isStructural
    dsimp only
    rw [haddresses, htree]
    refine ⟨horder last, hpreorder, (horder last).map _, ?_⟩
    exact hs.legible.nodup_addresses stands (fun _ => S.founded.below_of_mem_preorder) hpreorder

-- ============================================================ a sample

theorem compile_childFiles : Expression.compile "//*/File()" =
    .ok ⟨"//*/File()", [⟨.descendant, .any, []⟩, ⟨.child, .type "File", []⟩]⟩ :=
  Expression.compile_of_print (by decide) (by decide) (by decide)

/-- The case of files right below anything: each is found once, though not in document order. -/
theorem once_of_reached_nested :
    ∃ found later, (bareEngine.evaluate "//*/File()" (.directory [])).run nested.workspace =
        (.ok found, later) ∧
      found.map Node.address = ["/y.txt", "/x/p/q.txt"] ∧ (found.map Node.address).Nodup := by
  obtain ⟨found, later, hrun, haddresses⟩ := exists_run
    (a := bareEngine.evaluate "//*/File()" (.directory [])) (w := nested.workspace)
    (f := List.map Node.address) (y := ["/y.txt", "/x/p/q.txt"]) (by decide +kernel)
  obtain ⟨⟨directories, -⟩, once⟩ := once_of_reached reached_nested fun _ => by decide
  have tagged : Query.Tagged (.core : Query.Registry BuiltIn)
      [⟨.descendant, .any, []⟩, ⟨.child, .type "File", []⟩] := by
    refine List.forall_mem_cons.2 ⟨by rintro _ ⟨⟩, List.forall_mem_singleton.2 ?_⟩
    rintro _ ⟨⟩
    rfl
  obtain ⟨found', later', places, hrun', -, -, hdistinct, -⟩ := once .core "//*/File()" _
    (.directory []) (.directory []) compile_childFiles tagged (by decide)
    (.inl (nested.workspace.snapshot.founded.self_mem_preorder _)) (directories [])
  obtain ⟨he, -⟩ := Prod.mk.inj (hrun.symm.trans hrun')
  obtain rfl := Except.ok.inj he
  exact ⟨found, later, hrun, haddresses, hdistinct⟩

end Session

end TreeQuery
