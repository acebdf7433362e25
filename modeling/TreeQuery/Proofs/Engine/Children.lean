/-
The children of a name, as a question of their own and as an expression.

An engine has a shorter way to the children of a node that carry a known tag or have a name: it asks
for the children and looks at each. No expression is read for that, no type is looked up and no step
is taken. The expression that says the same has one step without predicates, and such a step does
nothing but look at the children either, unless a type is registered under the name
(`Query.evaluate_alone`).

The two ways need not meet the workspace in the same state, and the nodes they find are different
ones. But a question moves no node, so the children are twins of each other, in whichever state they
are asked for, and twins have the same names and tags (`Node.Twin.name`, `Node.Twin.tags`): the same
places are chosen from them (`Act.alike_select_child`).
-/
import TreeQuery.Proofs.Expression.Naming
import TreeQuery.Proofs.Query.Once
import TreeQuery.Proofs.Workspace.Looking
import TreeQuery.Proofs.Workspace.Trees

namespace TreeQuery

-- ============================================================= one step

namespace Query

open Expression (Step)

variable {m : Type → Type} [Monad m] [LawfulMonad m] {α ε : Type} {forest : Forest m α}
  {registry : Registry (Provider m α ε)} {step : Step}
  {resolution : Option (Resolution (Provider m α ε))}

/-- A single step without predicates finds what it selects from the root, if no registered type is
meant. -/
theorem evaluate_alone (resolved : resolveStep registry step = .ok resolution)
    (unregistered : ∀ name type, resolution ≠ some (.registered name type))
    (bare : step.predicates = []) (text : String) (root : α) :
    (evaluate forest registry false ⟨text, [step]⟩ root).run =
      Except.ok <$> select forest step root := by
  have hsteps : resolveSteps registry [step] = .ok [(step, resolution)] := by
    simp only [resolveSteps, resolved]
  have hexpand : expand forest step resolution root = liftM (select forest step root) := by
    unfold expand
    cases resolution with
    | none => rfl
    | some meant =>
        cases meant with
        | tag name => rfl
        | registered name type => exact absurd rfl (unregistered name type)
  have hstep : applyStep forest step resolution [root] = liftM (select forest step root) := by
    simp only [applyStep, hexpand, bare, applyPredicates, List.foldlM_nil, liftM_pure, pure_bind,
      List.append_nil, bind_pure]
  unfold evaluate
  rw [hsteps]
  show (pure [(step, resolution)] >>= fun steps => applySteps forest steps [root] >>=
    fun reached => pure reached : ExceptT (Failure ε) m (List α)).run = _
  rw [pure_bind, bind_pure, applySteps, hstep]
  show (liftM (select forest step root) >>= pure : ExceptT (Failure ε) m (List α)).run = _
  rw [bind_pure]
  rfl

end Query

variable {grammars : Grammars} {w v : Workspace grammars} {node twin : Node}

-- ============================================================ resolving

namespace Workspace

theorem Unmoved.symm (h : w.Unmoved v) : v.Unmoved w where
  project := h.project.symm
  occurrences := h.occurrences.symm
  view file language := (h.view file language).symm
  pin handle := (h.pin handle).symm

/-- If the node is one in a view, the view has a member where the node stands. -/
def Resolves (w : Workspace grammars) (node : Node) : Prop :=
  ∀ member : MemberNode, node = .text (.member member) → (w.resolve? member).isSome

/-- The children of a node are there. -/
theorem resolves_children (w : Workspace grammars) (node : Node) :
    ∀ child ∈ (Act.children node w).1, w.Resolves child := by
  intro child hchild member he
  subst he
  cases node with
  | directory path =>
      obtain ⟨name, -, he⟩ := List.mem_map.1 hchild
      unfold entry at he
      dsimp only at he
      split at he
      · cases he
      · cases he
  | detached tree =>
      obtain ⟨child, -, he⟩ := List.mem_map.1 hchild
      cases he
  | text node =>
      cases node with
      | file path => cases hchild
      | binding handle grammar context index born name => cases hchild
      | occurrence handle grammar context index born =>
          obtain ⟨capture, -, he⟩ := List.mem_map.1 hchild
          cases he
      | member node =>
          cases htree : w.resolve? node with
          | none =>
              have hnil : (Act.memberChildren node w).1 = [] := by
                rw [Act.memberChildren_run, htree]
                rfl
              exact absurd (hnil ▸ hchild : _ ∈ []) List.not_mem_nil
          | some tree =>
              have hlocus : some (member.file, member.language, member.location) ∈
                  (Act.memberChildren node w).1.map Node.locus? := List.mem_map.2 ⟨_, hchild, rfl⟩
              rw [Act.map_locus?_memberChildren htree] at hlocus
              obtain ⟨entry, hentry, he⟩ := List.mem_map.1 hlocus
              obtain ⟨hfile, hplace⟩ := Prod.mk.inj (Option.some.inj he)
              obtain ⟨hlanguage, hlocation⟩ := Prod.mk.inj hplace
              unfold resolve?
              rw [← hfile, ← hlanguage, ← hlocation, View.at?_child htree hentry]
              rfl

end Workspace

theorem Workspace.Unmoved.member (h : w.Unmoved v) {node twin : MemberNode}
    (ht : (Node.text (.member node)).Twin (.text (.member twin)))
    (hr : w.Resolves (.text (.member node))) : v.member twin = w.member node := by
  have hresolved : v.resolve? twin = w.resolve? node := by
    rw [h.resolve?]
    cases ht with
    | same => rfl
    | members file language location =>
        unfold Workspace.resolve?
        rw [file, language, location]
  obtain ⟨tree, htree⟩ := Option.isSome_iff_exists.1 (hr node rfl)
  unfold Workspace.member
  rw [hresolved, htree]

/-- Twins have the same name. -/
theorem Node.Twin.name (ht : node.Twin twin) (h : w.Unmoved v) (hr : w.Resolves node) :
    v.name twin = w.name node := by
  cases ht with
  | members file language location =>
      exact congrArg Member.name (h.member (.members file language location) hr)
  | same =>
      cases node with
      | detached tree => rfl
      | directory path =>
          show v.directoryName path = w.directoryName path
          unfold Workspace.directoryName
          rw [h.project]
      | text node =>
          cases node with
          | member node => exact congrArg Member.name (h.member (.same _) hr)
          | file path => rfl
          | occurrence handle grammar context index born => rfl
          | binding handle grammar context index born name => rfl

/-- Twins carry the same tags. -/
theorem Node.Twin.tags (ht : node.Twin twin) (h : w.Unmoved v) (hr : w.Resolves node) :
    v.tags twin = w.tags node := by
  cases ht with
  | members file language location =>
      exact congrArg Member.tags (h.member (.members file language location) hr)
  | same =>
      cases node with
      | detached tree => rfl
      | directory path => rfl
      | text node =>
          cases node with
          | member node => exact congrArg Member.tags (h.member (.same _) hr)
          | file path => rfl
          | occurrence handle grammar context index born => rfl
          | binding handle grammar context index born name => rfl

-- ===================================================== in two states

/-- Computations compared in any two workspaces in which all nodes stand where they stand in a
given one: they move none, and what they return is related. -/
def twinning (w : Workspace grammars) : Query.Comparison (Act grammars) (Act grammars) where
  World := Unit
  le _ _ := True
  refl _ := trivial
  trans _ _ := trivial
  Alike W R a b := ∀ u v, w.Unmoved u → w.Unmoved v →
    w.Unmoved (a u).2 ∧ w.Unmoved (b v).2 ∧ R W (a u).1 (b v).1
  pure h u v hu hv := ⟨hu, hv, h⟩
  bind ha hf u v hu hv := by
    obtain ⟨hu', hv', hx⟩ := ha u v hu hv
    exact hf () _ _ trivial hx _ _ hu' hv'

namespace Act

open Query (Comparison)

/-- The nodes are twins, and are there. -/
def Twinned (w : Workspace grammars) (_ : Unit) (node twin : Node) : Prop :=
  w.Resolves node ∧ node.Twin twin

theorem persistent_twinned : (twinning w).Persistent (Twinned w) := fun _ _ _ _ _ h => h

theorem alike_children (w : Workspace grammars) (node : Node) :
    (twinning w).Alike () ((twinning w).Each (Twinned w)) (children node) (children node) := by
  intro u v hu hv
  refine ⟨hu.trans (unmoved_children node u), hv.trans (unmoved_children node v), ?_⟩
  refine (List.forall₂_and_left _ _).2 ⟨fun child hchild member he => ?_,
    twins_children (.same node) (hu.symm.trans hv)⟩
  rw [← hu.resolve?]
  exact u.resolves_children node child hchild member he

theorem alike_name {node twin : Node} (h : Twinned w () node twin) :
    (twinning w).Alike () (twinning w).Same ((Workspace.forest grammars).name node)
      ((Workspace.forest grammars).name twin) := by
  intro u v hu hv
  have hu := hu.trans (asks_look node u).1
  have hv := hv.trans (asks_look twin v).1
  refine ⟨hu, hv, ?_⟩
  show (look node u).2.name node = (look twin v).2.name twin
  rw [(Node.Twin.same node).name hu h.1, h.2.name hv h.1]

theorem alike_hasTag {node twin : Node} (h : Twinned w () node twin) (tag : String) :
    (twinning w).Alike () (twinning w).Same ((Workspace.forest grammars).hasTag node tag)
      ((Workspace.forest grammars).hasTag twin tag) := by
  intro u v hu hv
  have hu := hu.trans (asks_look node u).1
  have hv := hv.trans (asks_look twin v).1
  refine ⟨hu, hv, ?_⟩
  show ((look node u).2.tags node).contains tag = ((look twin v).2.tags twin).contains tag
  rw [(Node.Twin.same node).tags hu h.1, h.2.tags hv h.1]

/-- A test chooses the same from the children of a node. -/
theorem alike_select_child (w : Workspace grammars) (test : Expression.NodeTest) (node : Node) :
    (twinning w).Alike () ((twinning w).Each (Twinned w))
      (Query.select (Workspace.forest grammars) ⟨.child, test, []⟩ node)
      (Query.select (Workspace.forest grammars) ⟨.child, test, []⟩ node) := by
  refine (twinning w).bind (alike_children w node) fun _ nodes twins _ hnodes => ?_
  cases test with
  | any => exact (twinning w).pure hnodes
  | type tag =>
      exact Comparison.alike_filterM persistent_twinned hnodes fun _ _ _ _ h => alike_hasTag h tag
  | name name =>
      refine Comparison.alike_filterM persistent_twinned hnodes fun _ _ _ _ h => ?_
      refine (twinning w).bind (alike_name h) fun _ first second _ he => ?_
      exact (twinning w).pure (congrArg (· == name) he)

end Act

-- ============================================================= children

namespace Engine

open Expression (Step NodeTest)

variable (engine : Engine grammars)

theorem childrenOf_of_isTag {name : String} (h : engine.registry.isTag name = true) (node : Node) :
    engine.childrenOf node name =
      Query.select (Workspace.forest grammars) ⟨.child, .type name, []⟩ node :=
  bind_congr fun _ => if_pos h

theorem childrenOf_of_not_isTag {name : String} (h : engine.registry.isTag name = false)
    (node : Node) : engine.childrenOf node name =
      Query.select (Workspace.forest grammars) ⟨.child, .name name, []⟩ node :=
  bind_congr fun _ => if_neg (by rw [h]; exact Bool.false_ne_true)

/-- An expression of one step selects from where it is evaluated, and leaves its program behind. -/
theorem evaluate_alone {expression text : String} {step : Step}
    {resolution : Option (Query.Resolution (NodeType grammars))}
    (compiled : Expression.compile expression = .ok ⟨text, [step]⟩)
    (resolved : Query.resolveStep engine.registry step = .ok resolution)
    (unregistered : ∀ name type, resolution ≠ some (.registered name type))
    (bare : step.predicates = []) (node : Node) (w : Workspace grammars) :
    (({ engine with dedupe := false } : Engine grammars).evaluate expression node).run w =
      (Except.ok <$> Query.select (Workspace.forest grammars) step node : Act grammars _)
        { w with programs := (w.programs.fetch expression).2 } := by
  rw [evaluate_run, Act.bind_apply, program_eq, compiled]
  show ((Query.evaluate (Workspace.forest grammars) engine.registry false ⟨text, [step]⟩
    node).run >>= _) { w with programs := (w.programs.fetch expression).2 } = _
  rw [Query.evaluate_alone resolved unregistered bare, bind_map_left]
  rfl

/-- What a test chooses from the children of a node is what the expression of the test finds. -/
theorem exists_evaluated {expression text : String} {test : NodeTest}
    {resolution : Option (Query.Resolution (NodeType grammars))}
    (compiled : Expression.compile expression = .ok ⟨text, [⟨.child, test, []⟩]⟩)
    (resolved : Query.resolveStep engine.registry ⟨.child, test, []⟩ = .ok resolution)
    (unregistered : ∀ name type, resolution ≠ some (.registered name type)) (node : Node)
    (h : w.Unmoved v) :
    ∃ found later, (({ engine with dedupe := false } : Engine grammars).evaluate expression
        node).run v = (.ok found, later) ∧ v.Unmoved later ∧
      (Query.select (Workspace.forest grammars) ⟨.child, test, []⟩ node w).1.map Node.address =
        found.map Node.address := by
  have hfetched : v.Unmoved { v with programs := (v.programs.fetch expression).2 } :=
    ⟨rfl, rfl, fun _ _ => rfl, fun _ => rfl⟩
  obtain ⟨-, hlater, htwins⟩ :=
    Act.alike_select_child w test node w _ (.refl w) (h.trans hfetched)
  refine ⟨_, _, engine.evaluate_alone compiled resolved unregistered rfl node v,
    h.symm.trans hlater, map_address_of_twins ?_⟩
  exact ((List.forall₂_and_left _ _).1 htwins).2

/-- Asking for the children of a name is evaluating the expression for them: that of the name, or,
if the name is a known tag, that of the tag, unless a registered type is in its way. Nothing moves,
so it does not matter which of the two is done first, nor what has been asked before and since: the
addresses are the same, in the same order, none of them dropped. -/
theorem childrenOf_as_evaluated {name : String} (hn : Expression.IsName name) (node : Node)
    (h : w.Unmoved v) :
    w.Unmoved (engine.childrenOf node name w).2 ∧
      (engine.registry.isTag name = false → ∃ found later,
        (({ engine with dedupe := false } : Engine grammars).evaluate ("/" ++ name) node).run v =
          (.ok found, later) ∧ v.Unmoved later ∧
        (engine.childrenOf node name w).1.map Node.address = found.map Node.address) ∧
      (engine.registry.isTag name = true → engine.registry.type? name = none → ∃ found later,
        (({ engine with dedupe := false } : Engine grammars).evaluate ("/" ++ name ++ "()")
          node).run v = (.ok found, later) ∧ v.Unmoved later ∧
        (engine.childrenOf node name w).1.map Node.address = found.map Node.address) := by
  have hunmoved : ∀ test, w.Unmoved (Query.select (Workspace.forest grammars)
      ⟨.child, test, []⟩ node w).2 := fun test =>
    (Act.alike_select_child w test node w w (.refl w) (.refl w)).1
  refine ⟨?_, fun htag => ?_, fun htag hfree => ?_⟩
  · cases htag : engine.registry.isTag name with
    | true =>
        rw [engine.childrenOf_of_isTag htag]
        exact hunmoved _
    | false =>
        rw [engine.childrenOf_of_not_isTag htag]
        exact hunmoved _
  · rw [engine.childrenOf_of_not_isTag htag]
    refine engine.exists_evaluated (Expression.compile_name hn) rfl ?_ node h
    rintro _ _ ⟨⟩
  · have hknown : Query.resolveStep engine.registry ⟨.child, .type name, []⟩ =
        .ok (some (.tag name)) := by
      have hresolve := Query.Registry.resolve?_eq_tag_iff.2 ⟨hfree, htag⟩
      simp only [Query.resolveStep, Step.typeName?, hresolve]
    rw [engine.childrenOf_of_isTag htag]
    refine engine.exists_evaluated (Expression.compile_type hn) hknown ?_ node h
    rintro _ _ ⟨⟩

-- ============================================================ a sample

open View (listed listedRoot listings)

/-- An engine that knows the tag of strings. -/
def strings : Engine listings := bare.addTags ["YamlString"]

/-- The items of a list are found by their tag, after they have been found by their name. -/
theorem childrenOf_as_evaluated_listed :
    ∃ found later, (strings.evaluate "/YamlString()" (.text (.member (listedRoot .yaml)))).run
        (strings.childrenOf (.text (.member (listedRoot .yaml))) "item" listed).2 =
      (.ok found, later) ∧
    found.map Node.address = ["/a.yml/YamlFile()/item", "/a.yml/YamlFile()/item[1]"] := by
  have hitem : Expression.IsName "item" := by decide
  have hstring : Expression.IsName "YamlString" := by decide
  obtain ⟨hasked, -, -⟩ := strings.childrenOf_as_evaluated hitem
    (.text (.member (listedRoot .yaml))) (.refl listed)
  obtain ⟨-, -, htag⟩ := strings.childrenOf_as_evaluated hstring
    (.text (.member (listedRoot .yaml))) hasked
  obtain ⟨found, later, hrun, -, haddresses⟩ := htag (by decide) rfl
  refine ⟨found, later, hrun, haddresses.symm.trans ?_⟩
  decide +kernel

end Engine

end TreeQuery
