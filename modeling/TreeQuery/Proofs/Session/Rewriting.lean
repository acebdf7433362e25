/-
Writing through one handle again and again.

The first write may leave a text that the parsers make something else of, and an occurrence whose
text is none of its grammar's any more. The handle works on all the same: it does not look itself
up in the text again, but goes by the place it has been found at, and then by the place it has
written to.

# What is offered

`Offers s node` says that the handle is good to begin with: a file; a live node in a view; or an
occurrence that a microgrammar has just been found in the text of such a node, and so on within
occurrences, with nothing but questions since. Every such node stands somewhere in its file
(`Offers.stands`), and what has just been found has a handle that none of the nodes it was found in
has.

# The writes

`Overwrites node s texts t` is a run from `s` to `t` in which the texts are written through the
node, one after the other, with any questions in between. The invariant is that the node stands
between the same two texts (`Overwrites.stands`): an update keeps it by `Stands.update`, a question
because it moves nothing.
-/
import TreeQuery.Proofs.Session.Genuine
import TreeQuery.Proofs.Session.Live
import TreeQuery.Proofs.Session.Stale
import TreeQuery.Proofs.Workspace.Batches
import TreeQuery.Proofs.Workspace.Standing

namespace TreeQuery.Session

open Text (Span)

variable {grammars : Grammars} {s t : Session grammars} {node : TextNode}

-- ============================================================== offers

/-- A file, a live node in a view, or an occurrence just found in one of these or in another such
occurrence, with nothing but questions since. -/
inductive Offers : Session grammars → TextNode → Prop
  | file {changes : ProjectPath → Nat} {s : Session grammars} {path : ProjectPath} :
      Reached changes s → (∀ file, changes file < UInt64.size) → .text (.file path) ∈ s.held →
      Offers s (.file path)
  | member {changes : ProjectPath → Nat} {notes : List Note} {s : Session grammars}
      {node : MemberNode} :
      Recorded changes notes s → (∀ file, changes file < UInt64.size) →
      .text (.member node) ∈ s.held → s.Live notes node → Offers s (.member node)
  | found {s : Session grammars} {context node : TextNode} (grammar : Microgrammar) :
      Offers s context →
      .text node ∈ ((Action.find (.microgrammar grammar) (.text context)).run s.workspace).1 →
      Offers (s.step (.find (.microgrammar grammar) (.text context))) node
  | asked {s : Session grammars} {node : TextNode} (action : Action) :
      Offers s node → action.isQuestion = true → (∀ n ∈ action.subject?, n ∈ s.held) →
      Offers (s.step action) node

/-- The texts are written through the node, in this order and with any questions in between. -/
inductive Overwrites (node : TextNode) :
    Session grammars → List String → Session grammars → Prop
  | nil (s : Session grammars) : Overwrites node s [] s
  | write {s t : Session grammars} {texts : List String} (text : String) :
      Overwrites node s texts t →
      Overwrites node s (texts ++ [text]) (t.step (.update node text))
  | asked {s t : Session grammars} {texts : List String} (action : Action) :
      Overwrites node s texts t → action.isQuestion = true →
      (∀ n ∈ action.subject?, n ∈ t.held) → Overwrites node s texts (t.step action)

/-- A question changes no text, and is asked by those who hold what it is about. -/
theorem Reached.asked {changes : ProjectPath → Nat} (hr : Reached changes s) {action : Action}
    (hq : action.isQuestion = true) (subject : ∀ n ∈ action.subject?, n ∈ s.held) :
    Reached changes (s.step action) := by
  have hgenuine := genuine_of_reached hr
  obtain ⟨hmoved, -⟩ :=
    Action.asks_run hq (fun n hn => hgenuine.nodes n (subject n hn)) s.workspace
  exact hr.still action subject fun file => changed_of_project hmoved.project

/-- What is offered is held after some run. -/
theorem Offers.reached (h : Offers s node) : ∃ changes, Reached changes s ∧
    (∀ file, changes file < UInt64.size) ∧ .text node ∈ s.held := by
  induction h with
  | @file changes s path hr few held => exact ⟨changes, hr, few, held⟩
  | @member changes notes s node hr few held hlive => exact ⟨changes, hr.reached, few, held⟩
  | @found s context node grammar h hfound ih =>
      obtain ⟨changes, hr, few, held⟩ := ih
      refine ⟨changes, hr.asked rfl fun n hn => ?_, few, List.mem_append_right _ hfound⟩
      rw [← Option.mem_some_iff.1 hn]
      exact held
  | asked action h hq subject ih =>
      obtain ⟨changes, hr, few, held⟩ := ih
      exact ⟨changes, hr.asked hq subject, few, List.mem_append_left _ held⟩

-- =========================================================== invariant

/-- A search for a microgrammar in the text of a node finds occurrences under new handles. -/
theorem run_find (w : Workspace grammars) (grammar : Microgrammar) (context : TextNode) :
    (Action.find (.microgrammar grammar) (.text context)).run w =
      ((grammar.scan (w.value context).1).zipIdx.map fun entry =>
          .text (.occurrence ((w.value context).2.nextHandle + entry.2) grammar context entry.2
            entry.1),
        { (w.value context).2 with
          nextHandle := (w.value context).2.nextHandle +
            (grammar.scan (w.value context).1).length }) := by
  have hrun : (Action.find (.microgrammar grammar) (.text context)).run w =
      (Action.foundOr ((NodeType.ofMicrogrammar grammar).find (.text context) w).1,
        ((NodeType.ofMicrogrammar grammar).find (.text context) w).2) := rfl
  rw [hrun, Act.find_ofMicrogrammar]
  rfl

/-- An occurrence just found stands where it was found in what it was found in. -/
theorem stands_of_found {context : TextNode} {grammar : Microgrammar} {before whole after : String}
    (hcontext : s.workspace.Stands context before whole after) (hw : s.workspace.Coherent)
    (hknown : s.workspace.KnowsText context)
    (hfound : .text node ∈
      ((Action.find (.microgrammar grammar) (.text context)).run s.workspace).1) :
    ∃ left text right,
      (s.step (.find (.microgrammar grammar) (.text context))).workspace.Stands node
        (before ++ left) text (right ++ after) := by
  obtain ⟨-, honward, -⟩ := Act.keeps_value hknown hw
  have hlater : (s.step (.find (.microgrammar grammar) (.text context))).workspace = _ :=
    congrArg Prod.snd (run_find s.workspace grammar context)
  rw [run_find] at hfound
  obtain ⟨⟨seen, index⟩, hentry, hnode⟩ := List.mem_map.1 hfound
  obtain rfl := (Node.text.inj hnode).symm
  -- the handle is a new one: it is none of the context's, and nothing is recorded under it
  let handle : Handle := (s.workspace.value context).2.nextHandle + index
  have hlarge : s.workspace.nextHandle ≤ handle :=
    Nat.le_trans honward.handles (Nat.le_add_right _ index)
  have hnew : handle ∉ context.handles := fun hm =>
    Nat.not_lt.2 hlarge (hknown.2 handle hm)
  have hborn : (s.step (.find (.microgrammar grammar) (.text context))).workspace.found handle
      seen = seen := by
    rw [hlater]
    show ((s.workspace.value context).2.occurrences.lookup handle).getD seen = seen
    rw [(s.workspace.value_fields context).2, hw.occurrences handle hlarge]
    rfl
  have hmoved : s.workspace.Unmoved
      (s.step (.find (.microgrammar grammar) (.text context))).workspace := by
    rw [hlater]
    exact hcontext.unmoved_value.trans ⟨rfl, rfl, fun _ _ => rfl, fun _ => rfl⟩
  have hslice := Microgrammar.slice?_of_mem_scan (List.fst_mem_of_mem_zipIdx hentry)
  rw [hcontext.value] at hslice
  obtain ⟨left, right, hparted⟩ := Text.slice?_eq_some_iff_parted.1 hslice
  exact ⟨left, seen.text, right,
    .occurrence (hcontext.unmoved hmoved) hnew (by rw [hborn]) (by rw [hborn]; exact hparted)⟩

/-- What is offered stands in its file. -/
theorem Offers.stands (h : Offers s node) (aligned : grammars.Aligned) :
    ∃ before text after, s.workspace.Stands node before text after := by
  induction h with
  | @file changes s path hr few held =>
      exact ⟨"", _, "", .file ((sound_of_reached hr few).known _ held).1 rfl⟩
  | @member changes notes s node hr few held hlive =>
      obtain ⟨span, hspan⟩ := Option.isSome_iff_exists.1 ((isSome_span?_iff hr few held).2 hlive)
      obtain ⟨before, text, after, hparted⟩ := parted_of_recorded aligned hr few held rfl hspan
      exact ⟨before, text, after, .member ((genuine_of_reached hr.reached).nodes _ held)
        ((sound_of_reached hr.reached few).known _ held).1 hspan hparted⟩
  | @found s context node grammar h hfound ih =>
      obtain ⟨before, whole, after, hcontext⟩ := ih
      obtain ⟨changes, hr, few, held⟩ := h.reached
      have hsound := sound_of_reached hr few
      obtain ⟨left, text, right, hstands⟩ :=
        stands_of_found hcontext hsound.coherent (hsound.known _ held) hfound
      exact ⟨_, text, _, hstands⟩
  | asked action h hq subject ih =>
      obtain ⟨before, text, after, hstands⟩ := ih
      obtain ⟨changes, hr, few, held⟩ := h.reached
      obtain ⟨hmoved, -⟩ :=
        Action.asks_run hq (fun n hn => (genuine_of_reached hr).nodes n (subject n hn)) _
      exact ⟨before, text, after, hstands.unmoved hmoved⟩

/-- Through all writes and questions the node stands between the same two texts. -/
theorem Overwrites.stands {texts : List String} (h : Overwrites node s texts t)
    (hgenuine : s.Genuine) (held : .text node ∈ s.held) {before text after : String}
    (hstands : s.workspace.Stands node before text after) :
    t.Genuine ∧ .text node ∈ t.held ∧
      t.workspace.Stands node before (texts.getLast?.getD text) after := by
  induction h with
  | nil => exact ⟨hgenuine, held, hstands⟩
  | @write t texts new h ih =>
      obtain ⟨hgenuine, held, hstands⟩ := ih
      obtain ⟨later, hrun, hlater⟩ := hstands.update new
      refine ⟨hgenuine.step _ fun n hn => ?_, List.mem_append_left _ held, ?_⟩
      · rw [← Option.mem_some_iff.1 hn]
        exact held
      · have hstep : (t.step (.update node new)).workspace = later := by
          show ((Act.update node new).run t.workspace).2 = later
          rw [hrun]
        rw [hstep, List.getLast?_concat, Option.getD_some]
        exact hlater
  | @asked t texts action h hq subject ih =>
      obtain ⟨hgenuine, held, hstands⟩ := ih
      obtain ⟨hmoved, -⟩ :=
        Action.asks_run hq (fun n hn => hgenuine.nodes n (subject n hn)) t.workspace
      exact ⟨hgenuine.step action subject, List.mem_append_left _ held, hstands.unmoved hmoved⟩

-- ============================================================== writing

/-- What is offered stands between two texts of its file, and can be written through one handle
again and again: after any texts have been written through it, with questions in between, it has
the last one, the file has that between the same two texts, and the next write goes through. Only
for a node in a view to stand somewhere at first, the parsers have to answer with ranges of the
text. -/
theorem overwritten_of_offers (aligned : grammars.Aligned) (h : Offers s node) :
    ∃ before after,
      s.workspace.Stands node before (s.workspace.value node).1 after ∧
      s.workspace.content node.owner = before ++ (s.workspace.value node).1 ++ after ∧
      ∀ texts t, Overwrites node s texts t →
        (∀ text, ∃ later, (Act.update node text).run t.workspace = (.ok (), later)) ∧
        t.workspace.content node.owner =
          before ++ texts.getLast?.getD (s.workspace.value node).1 ++ after ∧
        (t.workspace.value node).1 = texts.getLast?.getD (s.workspace.value node).1 := by
  obtain ⟨before, text, after, hstands⟩ := h.stands aligned
  obtain ⟨changes, hr, few, held⟩ := h.reached
  obtain rfl := hstands.value.symm
  refine ⟨before, after, hstands, hstands.content, fun texts t hwrites => ?_⟩
  obtain ⟨-, -, hlast⟩ := hwrites.stands (genuine_of_reached hr) held hstands
  refine ⟨fun text => ?_, hlast.content, hlast.value⟩
  obtain ⟨later, hrun, -⟩ := hlast.update text
  exact ⟨later, hrun⟩

-- ============================================================ a sample

/-- The grammar of one small letter. -/
def small : Microgrammar where
  name := "small"
  grammar := "$c"
  submatchers := [("c", "[a-z]")]
  bindings := ["c"]
  inner := .capture "c" (.one [(97, 122)])
  whole := .seq (.seq (.assertion .textStart) (.capture "c" (.one [(97, 122)])))
    (.assertion .textEnd)

/-- A session in which the first letter of the file has been found. -/
def searched : Session initials := opened.step (.children (.text (.member rootNode)))

/-- A session in which a small letter has been found in that. -/
def spotted : Session initials :=
  searched.step (.find (.microgrammar small) (.text (.member letterNode)))

/-- The small letter found. -/
def smallNode : TextNode :=
  .occurrence 2 small (.member letterNode) 0 ⟨⟨0, 1⟩, "p", [("c", ⟨0, 1⟩)]⟩

theorem live_searched : Live [] searched letterNode := .inr (by decide)

theorem offers_spotted : Offers spotted smallNode := by
  obtain ⟨changes, hr, hmost⟩ := recorded_children_opened
  refine .found small (.member hr (fun file => Nat.lt_of_le_of_lt (hmost file) (by decide))
    (List.mem_of_getLast? rfl) live_searched) ?_
  exact List.mem_of_getLast? rfl

/-- The case of a letter that becomes two characters, none of them small, is asked for its text,
and is taken away. -/
theorem overwritten_of_offers_small :
    initials.Aligned ∧ Offers spotted smallNode ∧
      ∃ before after, "pq" = before ++ "p" ++ after ∧
        ∃ t, Overwrites smallNode spotted ["Q!", ""] t ∧
          t.workspace.content ["a.py"] = before ++ "" ++ after ∧
          (t.workspace.value smallNode).1 = "" := by
  obtain ⟨before, after, -, hcontent, hwrites⟩ :=
    overwritten_of_offers aligned_initials offers_spotted
  have hrun : Overwrites smallNode spotted (([] ++ ["Q!"]) ++ [""])
      (((spotted.step (.update smallNode "Q!")).step (.value smallNode)).step
        (.update smallNode "")) := by
    refine .write "" (.asked _ (.write "Q!" (.nil spotted)) rfl fun n hn => ?_)
    obtain rfl := Option.mem_some_iff.1 hn
    exact List.mem_of_getLast? rfl
  obtain ⟨-, hafter, hvalue⟩ := hwrites _ _ hrun
  exact ⟨aligned_initials, offers_spotted, before, after, hcontent, _, hrun, hafter, hvalue⟩

end TreeQuery.Session
