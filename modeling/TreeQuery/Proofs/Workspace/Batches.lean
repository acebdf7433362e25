/-
Updates of several nodes, one after the other.

Each update finds out anew where its node stands, in the text that the updates before it have
left. What is said of a batch is therefore said turn by turn: `Rewrites` lists the spans at
which nodes in views stood when their turns came, and `Microgrammar.Rewrites` the places at
which occurrences were found again. Either way the texts of the file are those of splices made
at these places one after the other, and no other file changes.
-/
import TreeQuery.Proofs.Microgrammar.Locate
import TreeQuery.Proofs.Workspace.Writing

namespace TreeQuery

open Text (Span Replacement)

variable {grammars : Grammars}

namespace Workspace

variable {w v later : Workspace grammars} {file : ProjectPath} {span : Span} {text : String}

/-- One file has the text at a span replaced, and no other file changes. -/
structure Rewritten (w later : Workspace grammars) (file : ProjectPath) (span : Span)
    (text : String) : Prop where
  content : Text.splice? (w.content file) span text = some (later.content file)
  files : ∀ other, (later.project.document? other).isSome = (w.project.document? other).isSome
  others : ∀ other, other ≠ file →
    later.project.document? other = w.project.document? other

/-- A file whose text has been cut and put together again has been rewritten. -/
theorem rewritten_of_cut {before middle after : List Char} (document : Document)
    (hf : (w.project.document? file).isSome)
    (hcut : Text.cut? (w.content file).toList span = some (before, middle, after))
    (hdoc : document.content = String.ofList (before ++ text.toList ++ after))
    (hproject : later.project = if String.ofList middle = text then w.project
      else w.project.setDocument file document) :
    w.Rewritten later file span text := by
  by_cases he : String.ofList middle = text
  · rw [if_pos he] at hproject
    have hcontent := content_of_project hproject file
    refine ⟨?_, fun other => by rw [hproject], fun other _ => by rw [hproject]⟩
    rw [hcontent, Text.splice?_of_cut? hcut, ← he, String.toList_ofList,
      ← (Text.cut?_eq_some_iff.1 hcut).1, String.ofList_toList]
  · rw [if_neg he] at hproject
    have hcontent : later.content file = document.content :=
      congrArg Document.content (document_of_setDocument hf hproject)
    refine ⟨?_, fun other => ?_, fun other ho => ?_⟩
    · rw [hcontent, hdoc, Text.splice?_of_cut? hcut]
    · rw [hproject, Project.isSome_setDocument]
    · rw [hproject, Project.document?_setDocument, if_neg ho]

end Workspace

namespace Act

open Workspace

variable {w later : Workspace grammars} {file : ProjectPath} {text : String}

-- ==================================================== nodes in views

/-- An update of a node in a view rewrites its file where the node stands. -/
theorem rewritten_of_updateMember {node : MemberNode}
    (hf : (w.project.document? node.file).isSome)
    (h : (updateMember node text).run w = (.ok (), later)) :
    ∃ span, w.span? node = some span ∧ w.Rewritten later node.file span text := by
  rcases updateMember_cases node text w with ⟨e, hresult, -⟩ |
    ⟨span, before, middle, after, hspan, hcut, -, hproject⟩
  · rw [h] at hresult
    cases hresult
  · rw [h] at hproject
    exact ⟨span, hspan, rewritten_of_cut _ hf hcut rfl hproject⟩

end Act

namespace Workspace

/-- One text is written to nodes in views one after the other, to each at the span where it stands
when its turn comes. -/
inductive Rewrites (text : String) :
    Workspace grammars → List MemberNode → List Span → Workspace grammars → Prop
  | nil (w : Workspace grammars) : Rewrites text w [] [] w
  | cons {w v later : Workspace grammars} {node : MemberNode} {span : Span}
      {nodes : List MemberNode} {spans : List Span} :
      w.span? node = some span →
      (Act.update (.member node) text).run w = (.ok (), v) →
      w.Rewritten v node.file span text →
      Rewrites text v nodes spans later →
      Rewrites text w (node :: nodes) (span :: spans) later

variable {w later : Workspace grammars} {nodes : List MemberNode} {spans : List Span}
  {file : ProjectPath} {text : String}

/-- The first node stands where it was found, so what is to be known is where the others stand. -/
theorem Rewrites.eq_turns (h : Rewrites text w nodes spans later) {first : List Span}
    (stand : nodes.map w.span? = first.map some)
    (others : spans.tail = (Text.turns [] (first.map fun span => ⟨span, text⟩)).tail) :
    spans = Text.turns [] (first.map fun span => ⟨span, text⟩) := by
  cases h with
  | nil =>
      obtain rfl := List.map_eq_nil_iff.1 stand.symm
      rfl
  | @cons _ v _ node span nodes rest hspan _ _ _ =>
      cases first with
      | nil => cases stand
      | cons found first =>
          obtain ⟨hfound, -⟩ := List.cons.inj stand
          obtain rfl : span = found := Option.some.inj (hspan.symm.trans hfound)
          exact congrArg (span :: ·) others

/-- The text of the file is that of splices one after the other, and no other file changes. -/
theorem Rewrites.content (h : Rewrites text w nodes spans later)
    (hfile : ∀ node ∈ nodes, node.file = file) :
    Text.spliceAll (w.content file) (spans.map fun span => ⟨span, text⟩) =
        some (later.content file) ∧
      ∀ other, other ≠ file → later.project.document? other = w.project.document? other := by
  induction h with
  | nil w => exact ⟨rfl, fun _ _ => rfl⟩
  | @cons w v later node span nodes spans _ _ hone _ ih =>
      obtain ⟨hcontent, hothers⟩ := ih fun node hn => hfile node (List.mem_cons_of_mem _ hn)
      obtain rfl := hfile node List.mem_cons_self
      refine ⟨?_, fun other ho => (hothers other ho).trans (hone.others other ho)⟩
      show (Text.splice? _ span text).bind _ = _
      rw [hone.content]
      exact hcontent

end Workspace

namespace Act

open Workspace

variable {w later : Workspace grammars} {file : ProjectPath} {text : String}

/-- Writes a text to a node, if it is one that has a text. -/
def rewrite (text : String) (node : Node) : Act grammars (Except NodeError Unit) :=
  match node.asText? with
  | some node => (update node text).run
  | none => return .error (.backend "not a text node")

/-- Visits go on for as long as they succeed. -/
theorem visit_cons {β ε : Type} (action : Node → Act grammars (Except ε β)) (node : Node)
    (rest : List Node) (w : Workspace grammars) :
    Engine.visit action (node :: rest) w = match action node w with
      | (.error e, v) => (([], some e), v)
      | (.ok answer, v) =>
        ((answer :: (Engine.visit action rest v).1.1, (Engine.visit action rest v).1.2),
          (Engine.visit action rest v).2) := by
  rw [Engine.visit, bind_apply]
  obtain ⟨result, v⟩ := action node w
  cases result with
  | error e => rfl
  | ok answer => rfl

/-- A visit of nodes in views that succeeds at each of them has rewritten each of them. -/
theorem rewrites_of_visit {nodes : List MemberNode} {answers : List Unit}
    (hf : ∀ node ∈ nodes, (w.project.document? node.file).isSome)
    (h : Engine.visit (rewrite text) (nodes.map fun node => .text (.member node)) w =
      ((answers, none), later)) :
    answers.length = nodes.length ∧ ∃ spans, Rewrites text w nodes spans later := by
  induction nodes generalizing w answers with
  | nil =>
      obtain ⟨hans, rfl⟩ := Prod.mk.inj h
      obtain ⟨rfl, -⟩ := Prod.mk.inj hans
      exact ⟨rfl, [], .nil _⟩
  | cons node nodes ih =>
      rw [List.map_cons, visit_cons] at h
      cases hone : rewrite text (.text (.member node)) w with
      | mk result v =>
          rw [hone] at h
          cases result with
          | error e =>
              obtain ⟨hans, -⟩ := Prod.mk.inj h
              cases hans
          | ok answer =>
              obtain ⟨hans, hlater⟩ := Prod.mk.inj h
              obtain ⟨rfl, hfail⟩ := Prod.mk.inj hans
              obtain ⟨span, hspan, hrew⟩ := rewritten_of_updateMember
                (hf node List.mem_cons_self) hone
              obtain ⟨hlen, spans, hrest⟩ := ih
                (fun other ho => by rw [hrew.files]; exact hf other (List.mem_cons_of_mem _ ho))
                (Prod.ext (Prod.ext rfl hfail) hlater)
              refine ⟨by rw [List.length_cons, List.length_cons, hlen], span :: spans, ?_⟩
              exact .cons hspan hone hrew hrest

-- ======================================================== occurrences

/-- An update of an occurrence in a file rewrites the file where the occurrence is found again, and
nothing is remembered of other occurrences that was not before. -/
theorem rewritten_of_updateOccurrence {handle : Handle} {grammar : Microgrammar} {index : Nat}
    {born : Occurrence} (hf : (w.project.document? file).isSome)
    (h : (update (.occurrence handle grammar (.file file) index born) text).run w =
      (.ok (), later)) :
    ∃ span, grammar.locate? (w.found handle born) (w.content file) = some span ∧
      w.Rewritten later file span text ∧
      ∀ other, other ≠ handle →
        later.occurrences.lookup other = w.occurrences.lookup other := by
  unfold update at h
  rw [updateOccurrence_run] at h
  simp only [show w.value (.file file) = (w.content file, w) from rfl] at h
  have hfound : ∀ {v : Workspace grammars} {occurrence : Occurrence} (other : Handle),
      other ≠ handle →
        (v.setFound handle occurrence).occurrences.lookup other = v.occurrences.lookup other := by
    intro v occurrence other ho
    show List.lookup other ((handle, occurrence) :: _) = _
    rw [lookup_cons_filter, if_neg ho]
  cases hloc : grammar.locate? (w.found handle born) (w.content file) with
  | none =>
      rw [hloc] at h
      cases (Prod.mk.inj h).1
  | some span =>
      obtain ⟨before, after, hcut⟩ :=
        Text.slice?_eq_some_iff.1 (Microgrammar.slice?_of_locate? hloc)
      simp only [hloc, Edit.apply_replacing hcut, String.ofList_toList] at h
      refine ⟨span, rfl, ?_⟩
      by_cases he : (w.found handle born).text = text
      · rw [if_pos he] at h
        obtain rfl := (Prod.mk.inj h).2
        refine ⟨rewritten_of_cut ((w.document file).written _) hf hcut rfl ?_, hfound⟩
        rw [String.ofList_toList, if_pos he]
        rfl
      · rw [if_neg he] at h
        obtain rfl := (Prod.mk.inj h).2
        refine ⟨rewritten_of_cut ((w.document file).replaceAll _).2 hf hcut
          (Document.content_replaceAll _ _) ?_, hfound⟩
        rw [String.ofList_toList, if_neg he]
        rfl

/-- Updates nodes one after the other, until that fails. -/
def updateAll : List (TextNode × String) → ExceptT NodeError (Act grammars) Unit
  | [] => pure ()
  | (node, text) :: rest => do
    update node text
    updateAll rest

end Act

/-- An occurrence in a file, under its handle, and the text that is to take its place. -/
structure Rewording where
  handle : Handle
  index : Nat
  seen : Occurrence
  text : String
deriving DecidableEq, Repr

namespace Rewording

/-- The occurrence as a node. -/
def node (grammar : Microgrammar) (file : ProjectPath) (u : Rewording) : TextNode :=
  .occurrence u.handle grammar (.file file) u.index u.seen

/-- What was seen, and the text for it. -/
def pair (u : Rewording) : Occurrence × String := (u.seen, u.text)

/-- What is replaced, if the occurrence is where it was seen. -/
def change (u : Rewording) : Replacement := ⟨u.seen.span, u.text⟩

theorem changes_pair (updates : List Rewording) :
    Microgrammar.changes (updates.map (·.pair)) = updates.map (·.change) := List.map_map

end Rewording

namespace Act

open Workspace

variable {w later : Workspace grammars} {file : ProjectPath} {grammar : Microgrammar}

/-- Updates of different occurrences in a file that all succeed put the texts where the occurrences
are found again, and change no other file. -/
theorem rewrites_of_updateAll {updates : List Rewording}
    (hf : (w.project.document? file).isSome)
    (fresh : ∀ u ∈ updates, w.occurrences.lookup u.handle = none)
    (once : (updates.map (·.handle)).Nodup)
    (h : (updateAll (updates.map fun u => (u.node grammar file, u.text))).run w =
      (.ok (), later)) :
    (∃ spans, grammar.Rewrites (w.content file) (updates.map (·.pair)) spans
        (later.content file)) ∧
      ∀ other, other ≠ file → later.project.document? other = w.project.document? other := by
  induction updates generalizing w with
  | nil =>
      obtain rfl := (Prod.mk.inj h).2
      exact ⟨⟨[], .nil _⟩, fun _ _ => rfl⟩
  | cons u rest ih =>
      rw [List.map_cons, List.nodup_cons] at once
      have hcons : updateAll ((u :: rest).map fun u => (u.node grammar file, u.text)) =
          (update (u.node grammar file) u.text >>= fun _ =>
            updateAll (rest.map fun u => (u.node grammar file, u.text)) :
              ExceptT NodeError (Act grammars) Unit) := rfl
      rw [hcons, run_bind_apply] at h
      cases hone : (update (u.node grammar file) u.text).run w with
      | mk result v =>
          rw [hone] at h
          cases result with
          | error e => cases (Prod.mk.inj h).1
          | ok _ =>
              obtain ⟨span, hloc, hrew, hocc⟩ := rewritten_of_updateOccurrence hf hone
              have hne : ∀ r ∈ rest, r.handle ≠ u.handle := fun r hr he =>
                once.1 (he ▸ List.mem_map_of_mem hr)
              obtain ⟨⟨spans, hspans⟩, hothers⟩ := ih (by rw [hrew.files]; exact hf)
                (fun r hr => by
                  rw [hocc _ (hne r hr)]
                  exact fresh r (List.mem_cons_of_mem _ hr)) once.2 h
              have hfound : w.found u.handle u.seen = u.seen := by
                unfold Workspace.found
                rw [fresh u List.mem_cons_self]
                rfl
              rw [hfound] at hloc
              refine ⟨⟨span :: spans, .cons hloc hrew.content hspans⟩, fun other ho => ?_⟩
              rw [hothers other ho, hrew.others other ho]

/-- A new node for an occurrence found in the text of a node. -/
def newOccurrence (grammar : Microgrammar) (context : TextNode) (entry : Occurrence × Nat) :
    Act grammars Node := do
  return .text (.occurrence (← newHandle) grammar context entry.2 entry.1)

theorem mapM_newOccurrence (context : TextNode) (found : List Occurrence) (base start : Nat)
    (w : Workspace grammars) (hw : w.nextHandle = base + start) :
    (found.zipIdx start).mapM (newOccurrence grammar context) w =
      ((found.zipIdx start).map fun entry =>
          .text (.occurrence (base + entry.2) grammar context entry.2 entry.1),
        { w with nextHandle := w.nextHandle + found.length }) := by
  induction found generalizing start w with
  | nil => rfl
  | cons seen rest ih =>
      have hih := ih (start + 1) { w with nextHandle := w.nextHandle + 1 }
        (by rw [← Nat.add_assoc, ← hw])
      have hmapM : ((seen :: rest).zipIdx start).mapM (newOccurrence grammar context) w =
          (.text (.occurrence w.nextHandle grammar context start seen) ::
            ((rest.zipIdx (start + 1)).mapM (newOccurrence grammar context)
              { w with nextHandle := w.nextHandle + 1 }).1,
          ((rest.zipIdx (start + 1)).mapM (newOccurrence grammar context)
            { w with nextHandle := w.nextHandle + 1 }).2) := by
        rw [List.zipIdx_cons, List.mapM_cons]
        rfl
      rw [hmapM, hih, List.zipIdx_cons, List.map_cons, List.length_cons, ← hw]
      simp only [Nat.add_assoc, Nat.add_comm 1]

/-- The occurrences in the text of a node are found under new handles, one after the other. -/
theorem find_ofMicrogrammar (w : Workspace grammars) (grammar : Microgrammar)
    (context : TextNode) :
    (NodeType.ofMicrogrammar grammar).find (.text context) w =
      (.ok ((grammar.scan (w.value context).1).zipIdx.map fun entry =>
          .text (.occurrence ((w.value context).2.nextHandle + entry.2) grammar context entry.2
            entry.1)),
        { (w.value context).2 with
          nextHandle := (w.value context).2.nextHandle +
            (grammar.scan (w.value context).1).length }) := by
  have hrun : (NodeType.ofMicrogrammar grammar).find (.text context) w =
      (.ok ((grammar.scan (w.value context).1).zipIdx.mapM (newOccurrence grammar context)
          (w.value context).2).1,
        ((grammar.scan (w.value context).1).zipIdx.mapM (newOccurrence grammar context)
          (w.value context).2).2) := rfl
  rw [hrun, mapM_newOccurrence context _ (w.value context).2.nextHandle 0 _ rfl]

/-- The case of a file. -/
theorem find_ofMicrogrammar_file (w : Workspace grammars) (grammar : Microgrammar)
    (file : ProjectPath) :
    (NodeType.ofMicrogrammar grammar).find (.file file) w =
      (.ok ((grammar.scan (w.content file)).zipIdx.map fun entry =>
          .text (.occurrence (w.nextHandle + entry.2) grammar (.file file) entry.2 entry.1)),
        { w with nextHandle := w.nextHandle + (grammar.scan (w.content file)).length }) :=
  find_ofMicrogrammar w grammar (.file file)

end Act

end TreeQuery
