/-
Updates as splices. Whatever kind of node is updated, and however deep it lies in others, an
update replaces what the node's value was by the new text, in one place of one file, or it
fails and changes no document.

# The chain

A file is replaced as a whole, a node in a view by an edit of its span. An occurrence is found
again in the value of its context, spliced there, and the context is updated with the result;
a binding is spliced into its occurrence first. Each link is a decomposition of a text: if the
context's value is `before ++ old ++ after`, then so is the file's, with more on either side.
`Workspace.Spliced` is what holds at every link, and the induction over the nesting adds the
two ends of one link to those of the next.

# What is read is what is replaced

The value of a context is asked for before it is updated. Asking changes no document, and a
node asked twice in a row answers twice the same (`value_value`); so the text an occurrence is
spliced into is the one its context replaces.
-/
import TreeQuery.Proofs.Microgrammar.Locate
import TreeQuery.Proofs.Workspace.Coherent

namespace TreeQuery

open Text (Span)

variable {grammars : Grammars}

namespace Project

/-- Putting back the document of a file, or one for a file there is not, changes nothing. -/
theorem setDocument_getD (project : Project) (path : ProjectPath) (other : Document) :
    project.setDocument path ((project.document? path).getD other) = project := by
  cases h : project.document? path with
  | some document => exact setDocument_self h
  | none =>
      rw [Option.getD_none]
      refine eq_of_files rfl ?_
      show (project.files.map fun entry =>
        if entry.1 = path then (path, other) else entry) = project.files
      refine (List.map_congr_left fun entry he => ?_).trans (List.map_id _)
      rw [if_neg]
      · rfl
      · rintro rfl
        rw [mem_files_iff.1 he] at h
        cases h

end Project

namespace Workspace

variable {w later : Workspace grammars}

theorem setDocument_document (w : Workspace grammars) (file : ProjectPath) :
    (w.setDocument file (w.document file)).project = w.project :=
  w.project.setDocument_getD file _

-- ======================================================= asking twice

/-- Holding a view does not change what the view is. -/
theorem view_holdView (w : Workspace grammars) (file other : ProjectPath)
    (language language' : Language) :
    (w.holdView file language).view other language' = w.view other language' := by
  unfold holdView
  simp only
  split
  · rfl
  · rename_i hfresh
    unfold view viewSlot
    show (((List.lookup (other, language') (_ :: _)).getD ({} : Slot View)).get?
      (w.document other).generation).getD (grammars.view language' (w.content other)) = _
    rw [lookup_cons_filter]
    by_cases he : (other, language') = (file, language)
    · obtain ⟨rfl, rfl⟩ := Prod.mk.inj he
      rw [if_pos rfl]
      simp only [Option.getD_some, Slot.put, Slot.get?, if_true]
    · rw [if_neg he]

theorem resolve?_holdView (w : Workspace grammars) (file : ProjectPath) (language : Language)
    (node : MemberNode) : (w.holdView file language).resolve? node = w.resolve? node := by
  unfold resolve?
  rw [view_holdView]

/-- What a member's text is said to be depends on these. -/
theorem pinned?_congr (node : MemberNode) (hp : later.project = w.project)
    (hm : (later.memory node).pinned = (w.memory node).pinned) :
    later.pinned? node = w.pinned? node := by
  unfold pinned? document
  rw [hm, hp]

/-- Asking a node for its text changes no document and no occurrence. -/
theorem value_fields (w : Workspace grammars) (node : TextNode) :
    (w.value node).2.project = w.project ∧ (w.value node).2.occurrences = w.occurrences := by
  cases node with
  | file path => exact ⟨rfl, rfl⟩
  | occurrence handle grammar context index born => exact ⟨rfl, rfl⟩
  | binding handle grammar context index born name => exact ⟨rfl, rfl⟩
  | member node =>
      have hheld := w.holdView_fields node.file node.language
      show (w.memberValue node).2.project = _ ∧ (w.memberValue node).2.occurrences = _
      unfold memberValue
      split
      · exact ⟨rfl, rfl⟩
      · simp only
        split
        · exact ⟨hheld.1, hheld.2.2⟩
        · exact ⟨hheld.1, hheld.2.2⟩

/-- The text of a node in a view, as it can be said without remembering anything. -/
def memberText (w : Workspace grammars) (node : MemberNode) : String :=
  match (w.pinned? node).bind (w.document node.file).slice? with
  | some text => text
  | none =>
    match w.resolve? node with
    | some tree => (w.observe node.file tree.label).text
    | none => (w.memory node).text

/-- What a node in a view answers, and the three ways the workspace goes on. -/
theorem memberValue_cases (w : Workspace grammars) (node : MemberNode) :
    w.memberValue node = (w.memberText node, w) ∨
      (w.resolve? node = none ∧
        w.memberValue node = (w.memberText node, w.holdView node.file node.language)) ∨
      ((w.resolve? node).isSome ∧ ∃ memory : Memory,
        memory.pinned = (w.memory node).pinned ∧
        w.memberValue node =
          (w.memberText node, (w.holdView node.file node.language).remember node memory)) := by
  obtain ⟨hp, hm, -⟩ := w.holdView_fields node.file node.language
  have hmem : (w.holdView node.file node.language).memory node = w.memory node := by
    unfold memory
    rw [hm]
  have hobs : ∀ member, (w.holdView node.file node.language).observe node.file member =
      w.observe node.file member := by
    intro member
    unfold observe content document
    rw [hp]
  unfold memberValue memberText
  cases (w.pinned? node).bind (w.document node.file).slice? with
  | some text => exact .inl rfl
  | none =>
      simp only [resolve?_holdView, hmem, hobs]
      cases w.resolve? node with
      | none => exact .inr (.inl ⟨rfl, rfl⟩)
      | some tree =>
          refine .inr (.inr ⟨rfl, _, ?_, rfl⟩)
          rfl

theorem memberValue_fst (w : Workspace grammars) (node : MemberNode) :
    (w.memberValue node).1 = w.memberText node := by
  rcases w.memberValue_cases node with h | ⟨-, h⟩ | ⟨-, memory, -, h⟩ <;> rw [h]

/-- A node that is asked for its text twice in a row answers twice the same. -/
theorem value_value (w : Workspace grammars) (node : TextNode) :
    ((w.value node).2.value node).1 = (w.value node).1 := by
  cases node with
  | file path => rfl
  | occurrence handle grammar context index born => rfl
  | binding handle grammar context index born name => rfl
  | member node =>
      show ((w.memberValue node).2.memberValue node).1 = (w.memberValue node).1
      rw [memberValue_fst, memberValue_fst]
      obtain ⟨hp, hm, -⟩ := w.holdView_fields node.file node.language
      rcases w.memberValue_cases node with h | ⟨hnone, h⟩ | ⟨hsome, memory, hpin, h⟩
      · rw [h]
      · rw [h]
        have hmem : (w.holdView node.file node.language).memory node = w.memory node := by
          unfold Workspace.memory
          rw [hm]
        unfold memberText document
        rw [resolve?_holdView, hnone, pinned?_congr node hp (by rw [hmem]), hmem, hp]
      · rw [h]
        have hmem : ((w.holdView node.file node.language).remember node memory).memory node =
            memory := by
          rw [memory_remember, if_pos rfl]
        have hproj : ((w.holdView node.file node.language).remember node memory).project =
            w.project := hp
        have hres : ((w.holdView node.file node.language).remember node memory).resolve? node =
            w.resolve? node := w.resolve?_holdView _ _ node
        obtain ⟨tree, htree⟩ := Option.isSome_iff_exists.1 hsome
        unfold memberText observe content document
        rw [hres, htree, pinned?_congr node hproj (by rw [hmem, hpin]), hproj]

-- ============================================================== splices

/-- What an update from one text to another may do: fail and change no document, or put the new
text in the place of the old one in a file, which is nothing to do if they are the same. -/
def Spliced (w : Workspace grammars) (file : ProjectPath) (old new : String)
    (outcome : Except NodeError Unit × Workspace grammars) : Prop :=
  match outcome.1 with
  | .error _ => outcome.2.project = w.project
  | .ok () => (new = old ∧ outcome.2.project = w.project) ∨
      (new ≠ old ∧ ∃ before after, w.content file = before ++ old ++ after ∧
        outcome.2.project = w.project.setDocument file
          ((w.document file).written (before ++ new ++ after)))

/-- A splice is one for every workspace with the same project, and whatever else changes. -/
theorem Spliced.congr {v u u' : Workspace grammars} {file : ProjectPath} {old new : String}
    {result : Except NodeError Unit} (h : v.Spliced file old new (result, u))
    (hv : v.project = w.project) (hu : u'.project = u.project) :
    w.Spliced file old new (result, u') := by
  unfold Spliced Workspace.content document at h ⊢
  rw [hv] at h
  rw [hu]
  exact h

/-- A splice within a text that is itself spliced in. -/
theorem Spliced.within {file : ProjectPath} {before old new after : String}
    {outcome : Except NodeError Unit × Workspace grammars}
    (h : w.Spliced file (before ++ old ++ after) (before ++ new ++ after) outcome) :
    w.Spliced file old new outcome := by
  obtain ⟨result, later⟩ := outcome
  cases result with
  | error e => exact h
  | ok _ =>
      rcases h with ⟨heq, hproject⟩ | ⟨hne, left, right, hcontent, hproject⟩
      · refine .inl ⟨?_, hproject⟩
        have hlist := congrArg String.toList heq
        simp only [String.toList_append, List.append_assoc, List.append_cancel_left_eq,
          List.append_cancel_right_eq] at hlist
        exact String.toList_inj.1 hlist
      · refine .inr ⟨fun he => hne (by rw [he]), left ++ before, after ++ right, ?_, ?_⟩
        · rw [hcontent]
          simp only [String.append_assoc]
        · rw [hproject]
          simp only [String.append_assoc]

end Workspace

-- ============================================================= updates

namespace Act

open Workspace

variable {w : Workspace grammars}

theorem spliced_setContent (w : Workspace grammars) (file : ProjectPath) (text : String) :
    w.Spliced file (w.content file) text ((update (.file file) text).run w) := by
  show w.Spliced file (w.content file) text
    (.ok (), w.setDocument file ((w.document file).replaceAll text).2)
  by_cases ht : text = w.content file
  · refine .inl ⟨ht, ?_⟩
    rw [Document.replaceAll_snd, if_pos (show text = (w.document file).content from ht)]
    exact w.setDocument_document file
  · refine .inr ⟨ht, "", "", by simp, ?_⟩
    rw [Document.replaceAll_snd, if_neg (show text ≠ (w.document file).content from ht)]
    simp only [String.empty_append, String.append_empty]
    rfl

-- ==================================================== nodes in views

/-- Asking a node for its span changes no document and nothing a node remembers. -/
theorem span?_eq (node : MemberNode) (w : Workspace grammars) :
    (span? node w).1 = w.span? node ∧ (span? node w).2.project = w.project ∧
      (span? node w).2.memories = w.memories ∧
      (span? node w).2.occurrences = w.occurrences := by
  obtain ⟨hp, hm, ho⟩ := w.holdView_fields node.file node.language
  have hspan : (w.holdView node.file node.language).span? node = w.span? node := by
    unfold Workspace.span?
    rw [resolve?_holdView, pinned?_congr node hp (by unfold Workspace.memory; rw [hm])]
  have hrun : span? node w = (if (w.pinned? node).isNone
      then (consult node.file node.language >>= fun _ => get >>= fun v => pure (v.span? node))
      else get >>= fun v => pure (v.span? node) : Act grammars (Option Span)) w := rfl
  cases hpin : (w.pinned? node).isNone with
  | true =>
      have h : span? node w = ((w.holdView node.file node.language).span? node,
          w.holdView node.file node.language) := by
        rw [hrun, if_pos hpin]
        rfl
      rw [h]
      exact ⟨hspan, hp, hm, ho⟩
  | false =>
      have h : span? node w = (w.span? node, w) := by
        rw [hrun, if_neg (by rw [hpin]; exact Bool.false_ne_true)]
        rfl
      rw [h]
      exact ⟨rfl, rfl, rfl, rfl⟩

theorem updateMember_run (node : MemberNode) (text : String) (w : Workspace grammars) :
    (updateMember node text).run w =
      match span? node w with
      | (none, v) => (.error (.stale node.address), v)
      | (some span, v) =>
        match (v.document node.file).apply
            (.replacing (v.document node.file).content span text) with
        | .error e => (.error (.edit node.address e), v)
        | .ok (_, changed) => (.ok (), (v.setDocument node.file changed).remember node
            { v.memory node with
              text
              pinned := some (changed.generation,
                ⟨span.start, span.start + text.utf8ByteSize⟩) }) := by
  unfold updateMember
  have hbind : ∀ f : Option Span → Act grammars (Except NodeError Unit),
      (span? node >>= f) w = f (span? node w).1 (span? node w).2 := fun _ => rfl
  rw [run_lift_bind, hbind]
  obtain ⟨found, v⟩ := span? node w
  cases found with
  | none => rfl
  | some span =>
      simp only
      show (ExceptT.run (match (v.document node.file).apply
        (.replacing (v.document node.file).content span text) with
        | .error e => throw (.edit node.address e)
        | .ok (_, changed) => set <| (v.setDocument node.file changed).remember node
            { v.memory node with
              text
              pinned := some (changed.generation,
                ⟨span.start, span.start + text.utf8ByteSize⟩) } : ExceptT NodeError
                  (Act grammars) Unit)) v = _
      cases (v.document node.file).apply
          (.replacing (v.document node.file).content span text) with
      | error e => rfl
      | ok result => rfl

/-- What stands at the span of a node in a view is what the node answers. -/
theorem memberText_of_span? {node : MemberNode} {span : Span} {text : String}
    (hspan : w.span? node = some span)
    (hs : Text.slice? (w.content node.file) span = some text) : w.memberText node = text := by
  unfold Workspace.span? at hspan
  unfold memberText
  rcases Option.or_eq_some_iff.1 hspan with hpin | ⟨hpin, hres⟩
  · have hslice : (w.document node.file).slice? span = some text := hs
    rw [hpin, Option.bind_some, hslice]
  · obtain ⟨tree, htree, rfl⟩ := Option.map_eq_some_iff.1 hres
    rw [hpin, htree]
    show (Text.slice? (w.content node.file) tree.label.span).getD "" = text
    rw [hs, Option.getD_some]

/-- How an update of a node in a view ends: it fails and changes no document, or the node stands at
a span of its file, and what stands there is replaced. -/
theorem updateMember_cases (node : MemberNode) (text : String) (w : Workspace grammars) :
    (∃ e, ((updateMember node text).run w).1 = .error e ∧
        ((updateMember node text).run w).2.project = w.project) ∨
      ∃ span before middle after, w.span? node = some span ∧
        Text.cut? (w.content node.file).toList span = some (before, middle, after) ∧
        ((updateMember node text).run w).1 = .ok () ∧
        ((updateMember node text).run w).2.project =
          if String.ofList middle = text then w.project
          else w.project.setDocument node.file
            ((w.document node.file).written (String.ofList (before ++ text.toList ++ after))) := by
  rw [updateMember_run]
  obtain ⟨hspan, hproject, -, -⟩ := span?_eq node w
  generalize span? node w = result at hspan hproject ⊢
  obtain ⟨found, v⟩ := result
  have hspan : found = w.span? node := hspan
  have hproject : v.project = w.project := hproject
  have hdoc := document_of_project hproject node.file
  cases found with
  | none => exact .inl ⟨_, rfl, hproject⟩
  | some span =>
      simp only [hdoc]
      unfold Document.apply
      rw [show (w.document node.file).content = w.content node.file from rfl]
      cases hcut : Text.cut? (w.content node.file).toList span with
      | none =>
          rcases @Edit.apply_replacing_of_none _ text _ hcut with he | he
          · rw [he]
            exact .inl ⟨_, rfl, hproject⟩
          · rw [he]
            exact .inl ⟨_, rfl, hproject⟩
      | some parts =>
          obtain ⟨before, middle, after⟩ := parts
          rw [Edit.apply_replacing hcut]
          refine .inr ⟨span, before, middle, after, hspan.symm, hcut, ?_⟩
          by_cases he : String.ofList middle = text
          · rw [if_pos he, if_pos he]
            refine ⟨rfl, ?_⟩
            show v.project.setDocument node.file (w.document node.file) = w.project
            rw [hproject]
            exact w.setDocument_document node.file
          · rw [if_neg he, if_neg he]
            refine ⟨rfl, ?_⟩
            show v.project.setDocument node.file _ = _
            rw [hproject]

theorem spliced_updateMember (node : MemberNode) (text : String) (w : Workspace grammars) :
    w.Spliced node.file (w.memberText node) text ((updateMember node text).run w) := by
  have hcases := updateMember_cases node text w
  generalize (updateMember node text).run w = outcome at hcases ⊢
  obtain ⟨result, later⟩ := outcome
  rcases hcases with ⟨e, hresult, hproject⟩ |
    ⟨span, before, middle, after, hspan, hcut, hresult, hproject⟩
  · obtain rfl : result = .error e := hresult
    exact hproject
  · obtain rfl : result = .ok () := hresult
    have hproject : later.project = _ := hproject
    have hold : w.memberText node = String.ofList middle :=
      memberText_of_span? hspan
        (Text.slice?_eq_some_iff.2 ⟨before, after, by rw [hcut, String.toList_ofList]⟩)
    have hcontent : w.content node.file =
        String.ofList before ++ w.memberText node ++ String.ofList after := by
      rw [hold, ← String.ofList_append, ← String.ofList_append,
        ← (Text.cut?_eq_some_iff.1 hcut).1, String.ofList_toList]
    by_cases he : String.ofList middle = text
    · rw [if_pos he] at hproject
      exact .inl ⟨he.symm.trans hold.symm, hproject⟩
    · rw [if_neg he, String.ofList_append, String.ofList_append, String.ofList_toList] at hproject
      exact .inr ⟨fun h => he (hold.symm.trans h.symm), _, _, hcontent, hproject⟩

-- ======================================================== occurrences

theorem updateOccurrence_run (handle : Handle) (grammar : Microgrammar) (context : TextNode)
    (born : Occurrence) (address : String)
    (updateContext : String → ExceptT NodeError (Act grammars) Unit) (text : String)
    (w : Workspace grammars) :
    (updateOccurrence handle grammar context born address updateContext text).run w =
      match grammar.locate? ((w.value context).2.found handle born) (w.value context).1 with
      | none => (.error (.stale address), (w.value context).2)
      | some span =>
        match (Edit.replacing (w.value context).1 span text).apply (w.value context).1 with
        | .ok (.applied changed) =>
          match (updateContext changed).run (w.value context).2 with
          | (.error e, v) => (.error e, v)
          | (.ok (), v) => (.ok (), v.setFound handle (grammar.written span.start text))
        | .ok .alreadyApplied =>
          (.ok (), (w.value context).2.setFound handle (grammar.written span.start text))
        | .error (.unexpectedText ..) => (.error (.stale address), (w.value context).2)
        | .error e => (.error (.edit address e), (w.value context).2) := by
  unfold updateOccurrence
  have hbind : ∀ f : String → Act grammars (Except NodeError Unit),
      (value context >>= f) w = f (w.value context).1 (w.value context).2 := fun _ => rfl
  rw [run_lift_bind, hbind]
  generalize w.value context = result
  obtain ⟨whole, v⟩ := result
  have hget : ∀ f : Workspace grammars → ExceptT NodeError (Act grammars) Unit,
      (get >>= f).run v = (f v).run v := fun _ => rfl
  simp only
  rw [run_get_bind]
  cases grammar.locate? (v.found handle born) whole with
  | none => rfl
  | some span =>
      simp only
      cases (Edit.replacing whole span text).apply whole with
      | ok outcome =>
          cases outcome with
          | alreadyApplied => rfl
          | applied changed =>
              simp only
              rw [run_bind_apply]
              obtain ⟨result, u⟩ := (updateContext changed).run v
              cases result with
              | error e => rfl
              | ok _ => rfl
      | error e =>
          cases e with
          | unexpectedText => rfl
          | outOfRange => rfl
          | splitsCharacter => rfl

/-- An occurrence is spliced into its context, given how the context is updated. -/
theorem spliced_updateOccurrence {handle : Handle} {grammar : Microgrammar}
    {context : TextNode} {born : Occurrence} {address : String}
    {updateContext : String → ExceptT NodeError (Act grammars) Unit}
    (hcontext : ∀ (v : Workspace grammars) (text : String),
      v.Spliced context.owner (v.value context).1 text ((updateContext text).run v))
    (text : String) (w : Workspace grammars) :
    w.Spliced context.owner (w.found handle born).text text
      ((updateOccurrence handle grammar context born address updateContext text).run w) := by
  rw [updateOccurrence_run]
  obtain ⟨hproject, hocc⟩ := w.value_fields context
  have htwice := w.value_value context
  generalize w.value context = result at hproject hocc htwice ⊢
  obtain ⟨whole, v⟩ := result
  have hproject : v.project = w.project := hproject
  have hfound : v.found handle born = w.found handle born := by
    unfold Workspace.found
    rw [hocc]
  simp only [hfound]
  cases hloc : grammar.locate? (w.found handle born) whole with
  | none => exact hproject
  | some span =>
      obtain ⟨before, after, hcut⟩ :=
        Text.slice?_eq_some_iff.1 (Microgrammar.slice?_of_locate? hloc)
      have hwhole : whole =
          String.ofList before ++ (w.found handle born).text ++ String.ofList after := by
        rw [← String.toList_inj, (Text.cut?_eq_some_iff.1 hcut).1]
        simp only [String.toList_append, String.toList_ofList]
      simp only [Edit.apply_replacing hcut, String.ofList_toList]
      by_cases he : (w.found handle born).text = text
      · rw [if_pos he]
        exact .inl ⟨he.symm, hproject⟩
      · rw [if_neg he]
        have hchanged : String.ofList (before ++ text.toList ++ after) =
            String.ofList before ++ text ++ String.ofList after := by
          rw [String.ofList_append, String.ofList_append, String.ofList_toList]
        have hsplice := hcontext v (String.ofList (before ++ text.toList ++ after))
        rw [show (v.value context).1 = whole from htwice, hwhole, hchanged] at hsplice
        simp only [hchanged]
        have hsplice := hsplice.within
        generalize (updateContext (String.ofList before ++ text ++ String.ofList after)).run v =
          outcome at hsplice ⊢
        obtain ⟨result, u⟩ := outcome
        cases result with
        | error e => exact hsplice.congr hproject rfl
        | ok _ => exact hsplice.congr hproject rfl

-- ============================================================ any node

/-- An update of any node, however deep it lies in others, is a splice in one file. -/
theorem spliced_update (node : TextNode) (text : String) (w : Workspace grammars) :
    w.Spliced node.owner (w.value node).1 text ((update node text).run w) := by
  induction node generalizing text w with
  | file path => exact spliced_setContent w path text
  | member node =>
      rw [show (w.value (.member node)).1 = w.memberText node from w.memberValue_fst node]
      exact spliced_updateMember node text w
  | occurrence handle grammar context index born ih =>
      exact spliced_updateOccurrence (fun v text => ih text v) text w
  | binding handle grammar context index born name ih =>
      unfold update
      rw [run_get_bind]
      simp only
      cases hsplice : ((w.found handle born).captures.lookup name).bind
          (Text.splice? (w.found handle born).text · text) with
      | none => rfl
      | some spliced =>
          obtain ⟨span, hlookup, hsplice⟩ := Option.bind_eq_some_iff.1 hsplice
          obtain ⟨before, middle, after, hcut, hresult⟩ := Text.splice?_eq_some_iff.1 hsplice
          have hold : (w.value (.binding handle grammar context index born name)).1 =
              String.ofList middle := by
            show (((w.found handle born).captures.lookup name).bind
              (Text.slice? (w.found handle born).text)).getD "" = _
            rw [hlookup, Option.bind_some, Text.slice?_eq_some_iff.2
              ⟨before, after, by rw [hcut, String.toList_ofList]⟩, Option.getD_some]
          have hwhole : (w.found handle born).text =
              String.ofList before ++ String.ofList middle ++ String.ofList after := by
            rw [← String.ofList_append, ← String.ofList_append,
              ← (Text.cut?_eq_some_iff.1 hcut).1, String.ofList_toList]
          have hspliced : spliced = String.ofList before ++ text ++ String.ofList after := by
            rw [← String.toList_inj, hresult]
            simp only [String.toList_append, String.toList_ofList]
          have h := @spliced_updateOccurrence grammars handle grammar context born
            (TextNode.occurrenceAddress context.address grammar index) (update context)
            (fun v text => ih text v) spliced w
          rw [hwhole, hspliced] at h
          rw [hold, hspliced]
          exact h.within

end Act

end TreeQuery
