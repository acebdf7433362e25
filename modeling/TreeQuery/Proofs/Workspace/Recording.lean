/-
Recording: types, evaluations and updates keep what is known of the nodes in views.

# Evaluations

An evaluation and the telling of it are one program run in two forests. Compared question by
question (`recording`), they find the same nodes in the same workspace, and the notes that the
telling has taken lead from one kept record to another; so an evaluation keeps its contract with
these notes (`tells_evaluate`). The types' contracts are all that has to be put in.

# Updates

An update changes a text, so it goes from one record to another as far as there is room for the
change (`Record.Leads`). It follows the nesting of the node: the node that an occurrence was found
in is asked for its text, which is one note, and is updated in turn.
-/
import TreeQuery.Proofs.Workspace.Records

namespace TreeQuery

open Text (Span)
open Query (Comparison)

variable {grammars : Grammars} {law : Law grammars} {r : Record grammars}

namespace Record

/-- What a type answers with: nodes the record knows, or an error. -/
def Finds (r : Record grammars) (found : Except NodeError (List Node)) : Prop :=
  ∀ nodes, found = .ok nodes → ∀ n ∈ nodes, r.Knows n

theorem finds_nil : r.Finds (.ok []) := by
  rintro nodes ⟨⟩ n hm
  cases hm

end Record

namespace Act

open NodeType Record

-- ============================================================== layout

theorem tells_occurrenceExtent {handle : Handle} {grammar : Microgrammar} {context : TextNode}
    {born : Occurrence} {contextExtent : Act grammars (Option Layout.Extent)}
    {notes : Workspace grammars → List Note} (hn : r.KnowsText context)
    (hc : Tells law r contextExtent notes fun _ _ => True) :
    Tells law r (occurrenceExtent handle grammar context born contextExtent)
      (fun w => notes w ++ match (contextExtent w).1 with
        | some _ => (contextExtent w).2.valueNotes context
        | none => []) fun _ _ => True := by
  refine hc.bind (fun base v => match base with
    | some _ => v.valueNotes context
    | none => []) fun s base hs _ => ?_
  cases base with
  | none => exact lawful_pure trivial
  | some base =>
      refine (tells_value (hs.knowsText hn)).then fun t whole _ _ => ?_
      exact lawful_get (lawful_pure trivial)

theorem tells_extent {node : TextNode} (hn : r.KnowsText node) :
    Tells law r (extent node) (Workspace.extentNotes node) fun _ _ => True := by
  induction node with
  | file path => exact lawful_get (lawful_pure trivial)
  | member node => exact (lawful_memberExtent hn).bind fun s extent _ _ => lawful_pure trivial
  | occurrence handle grammar context index born ih =>
      exact tells_occurrenceExtent hn.context (ih hn.context)
  | binding handle grammar context index born name ih =>
      have hcontext := hn.contextOfBinding
      refine (tells_occurrenceExtent hcontext (ih hcontext)).then fun s base _ _ => ?_
      cases base with
      | none => exact lawful_pure trivial
      | some base => exact lawful_get (lawful_pure trivial)

-- =============================================================== types

theorem lawful_findPattern (pattern : StructuralPattern) (source : String) :
    Lawful law r (findPattern pattern source) fun _ _ => True :=
  lawful_of_keeps (keeps_findPattern pattern source)
    (by rw [findPattern_eq]) fun _ _ _ => trivial

/-- The scope of a pattern is a node in a view. -/
theorem lawful_patternScope (language : Language) {node : Node} (hn : r.Knows node) :
    Lawful law r (patternScope language node)
      fun s scope => ∀ n ∈ scope, s.KnowsText (.member n) := by
  cases node with
  | directory path => exact lawful_pure fun n hm => by cases hm
  | detached tree => exact hn.elim
  | text node =>
      cases node with
      | occurrence handle grammar context index born =>
          exact lawful_pure fun n hm => by cases hm
      | binding handle grammar context index born name =>
          exact lawful_pure fun n hm => by cases hm
      | member node =>
          refine lawful_pure fun n hm => ?_
          split at hm
          · obtain rfl := Option.mem_some_iff.1 hm
            exact hn
          · cases hm
      | file path =>
          unfold patternScope
          simp only
          split
          · refine (lawful_viewRoot language hn.1.1).bind fun s n _ hroot => ?_
            refine lawful_pure fun m hm => ?_
            obtain rfl := Option.mem_some_iff.1 hm
            exact hroot
          · exact lawful_pure fun n hm => by cases hm

theorem lawful_find_ofLanguage (language : Language) {node : Node} (hn : r.Knows node) :
    Lawful law r ((ofLanguage language).find node) Record.Finds := by
  unfold ofLanguage
  dsimp only
  cases hf : node.asFile? with
  | none => exact lawful_pure Record.finds_nil
  | some path =>
      obtain rfl : node = .file path := by
        unfold Node.asFile? at hf
        split at hf
        · cases hf
          rfl
        · cases hf
      simp only
      split
      · refine (lawful_viewRoot language hn.1.1).bind fun s root _ hroot => lawful_pure ?_
        rintro nodes ⟨⟩ n hm
        obtain rfl := List.mem_singleton.1 hm
        exact hroot
      · exact lawful_pure Record.finds_nil

theorem lawful_find_ofPattern (name : String) (pattern : StructuralPattern) {node : Node}
    (hn : r.Knows node) : Lawful law r ((ofPattern name pattern).find node) Record.Finds := by
  refine (lawful_patternScope pattern.language hn).bind fun s scope _ hscope => ?_
  cases scope with
  | none => exact lawful_pure Record.finds_nil
  | some scope =>
      have hs := hscope scope rfl
      refine (lawful_span? hs).bind fun t span ht _ => ?_
      cases span with
      | none => exact lawful_pure Record.finds_nil
      | some span =>
          refine (lawful_consult scope.language (ht.knowsText hs).1.1).bind fun u _ hu _ => ?_
          refine lawful_get ((lawful_findPattern pattern _).bind fun v matched hv _ => ?_)
          have hvs := hv.knowsText (hu.knowsText (ht.knowsText hs))
          cases matched with
          | none =>
              refine lawful_pure ?_
              rintro nodes ⟨⟩
          | some matched =>
              refine (lawful_mapM (R := fun s n => s.Knows n) (fun s t n hst => hst.knows)
                fun entry _ q hq => ?_).bind fun q nodes _ hnodes => lawful_pure ?_
              · refine (lawful_newMember _ _ _ (hq.knowsText hvs).1.1).bind fun q n _ hn => ?_
                exact lawful_pure hn
              · rintro _ ⟨⟩
                exact hnodes

/-- A microgrammar reads the node it looks from. -/
theorem tells_find_ofMicrogrammar (grammar : Microgrammar) {node : Node} (hn : r.Knows node) :
    Tells law r ((ofMicrogrammar grammar).find node)
      (Workspace.findNotes (.microgrammar grammar) node) Record.Finds := by
  cases node with
  | directory path => exact lawful_pure Record.finds_nil
  | detached tree => exact hn.elim
  | text context =>
      refine (tells_value hn).then fun s text hs _ => ?_
      refine (lawful_mapM (R := fun s n => s.Knows n) (fun s t n hst => hst.knows)
        fun entry _ q hq => ?_).bind fun q nodes _ hnodes => lawful_pure ?_
      · refine lawful_newHandle.bind fun q handle hqq hlt => lawful_pure ?_
        have hc := hqq.knowsText (hq.knowsText (hs.knowsText hn))
        refine ⟨⟨hc.1.1, fun h hm => ?_⟩, hc.2⟩
        rcases List.mem_cons.1 hm with rfl | hm
        · exact hlt
        · exact hc.1.2 h hm
      · rintro _ ⟨⟩
        exact hnodes

/-- The library's types find what is known. -/
theorem tells_find (type : BuiltIn) {node : Node} (hn : r.Knows node) :
    Tells law r (type.provider.find node) (Workspace.findNotes type node) Record.Finds := by
  cases type with
  | language l => exact lawful_find_ofLanguage l hn
  | pattern name p => exact lawful_find_ofPattern name p hn
  | microgrammar g => exact tells_find_ofMicrogrammar g hn

end Act

-- ========================================================= evaluations

/-- The telling of a computation, compared with the computation: the same is returned in the same
workspace, and the notes lead from a kept record to a kept record. -/
def recording (law : Law grammars) : Comparison (Telling grammars) (Act grammars) where
  World := Record grammars
  le := Record.Extends
  refl := .refl
  trans := .trans
  Alike {α β} r R a b := r.Kept law → ∃ (s : Record grammars) (more : List Note) (x : α) (y : β),
    (∀ told, a told r.workspace = ((x, told ++ more), s.workspace)) ∧
      b r.workspace = (y, s.workspace) ∧ s.notes = r.notes ++ more ∧ r.Extends s ∧ s.Kept law ∧
      R s x y
  pure {α β r R x y} h := fun hr => ⟨r, [], x, y, fun told => by rw [List.append_nil]; rfl, rfl,
    (List.append_nil _).symm, .refl r, hr, h⟩
  bind {α β γ δ r R Q a b f g} ha hf := by
    intro hr
    obtain ⟨s, more, x, y, htold, hb, hnotes, hrs, hs, hxy⟩ := ha hr
    obtain ⟨t, more', x', y', htold', hg, hnotes', hst, ht, hq⟩ := hf s x y hrs hxy hs
    refine ⟨t, more ++ more', x', y', fun told => ?_, ?_, ?_, hrs.trans hst, ht, hq⟩
    · show f (a told r.workspace).1.1 (a told r.workspace).1.2 (a told r.workspace).2 = _
      rw [htold, htold', List.append_assoc]
    · show g (b r.workspace).1 (b r.workspace).2 = _
      rw [hb, hg]
    · rw [hnotes', hnotes, List.append_assoc]

namespace Act

variable {α : Type} {R : Record grammars → α → α → Prop}

/-- A computation that keeps its contract is what its telling says. -/
theorem Tells.alike {a : Act grammars α} {notes : Workspace grammars → List Note}
    (h : Tells law r a notes fun s x => R s x x) :
    (recording law).Alike r R (a.telling notes) a := by
  intro hr
  obtain ⟨s, hs, hnotes, hrs, hkept, hx⟩ := h hr
  refine ⟨s, notes r.workspace, _, _, fun told => ?_, ?_, hnotes, hrs, hkept, hx⟩
  · rw [hs]
    rfl
  · rw [hs]
    rfl

/-- What tellings find is known. -/
def SameRecorded (s : Record grammars) (x y : Node) : Prop := x = y ∧ s.Knows x

variable (law) in
theorem each_sameRecorded {s : Record grammars} {xs ys : List Node} :
    (recording law).Each SameRecorded s xs ys ↔ xs = ys ∧ ∀ x ∈ xs, s.Knows x :=
  Comparison.each_same_iff

theorem lawful_look_then {node : Node} (hn : r.Knows node) (f : Workspace grammars → α) :
    Lawful law r (do Act.look node; return f (← get)) fun _ _ => True :=
  (lawful_look hn).bind fun _ _ _ _ => lawful_get (lawful_pure trivial)

variable (law) in
/-- The forest in which nothing is noted answers as the forest does. -/
theorem forests_recording : (recording law).Forests SameRecorded (Workspace.silentForest grammars)
    (Workspace.forest grammars) where
  persistent := by
    rintro s t x y hst ⟨rfl, hx⟩
    exact ⟨rfl, hst.knows hx⟩
  address := by
    rintro s x y ⟨rfl, hx⟩
    rfl
  name := by
    rintro s x y ⟨rfl, hx⟩
    exact ((lawful_look_then hx fun w => w.name x).imp fun _ _ _ _ => rfl).alike
  tags := by
    rintro s x y ⟨rfl, hx⟩
    exact ((lawful_look_then hx fun w => w.tags x).imp fun _ _ _ _ => rfl).alike
  property := by
    rintro s x y key ⟨rfl, hx⟩
    exact ((lawful_look_then hx fun w => w.property x key).imp fun _ _ _ _ => rfl).alike
  children := by
    rintro s x y ⟨rfl, hx⟩
    exact ((lawful_children hx).imp fun _ _ _ h => (each_sameRecorded law).2 ⟨rfl, h⟩).alike
  extent := by
    rintro s x y ⟨rfl, hx⟩
    have hsilent : Lawful law s (fun w => (w.bound x, w)) fun _ _ => True :=
      fun hs => ⟨s, rfl, (List.append_nil _).symm, .refl s, hs, trivial⟩
    exact (hsilent.imp fun _ _ _ _ => rfl).alike

theorem types_recording (type : BuiltIn) :
    (recording law).Types SameRecorded type.tellingProvider type.provider := by
  rintro s x y ⟨rfl, hx⟩
  refine ((tells_find type hx).imp fun t found _ h => ?_).alike
  cases found with
  | error e => exact rfl
  | ok nodes => exact (each_sameRecorded law).2 ⟨rfl, h nodes rfl⟩

theorem registries_recording (types : Query.Registry BuiltIn) :
    (recording law).Registries SameRecorded (types.map BuiltIn.tellingProvider)
      (types.map BuiltIn.provider) :=
  Comparison.registries_map types_recording types

/-- A program that is told finds what the program finds, with the notes it takes. -/
theorem tells_program (types : Query.Registry BuiltIn) (dedupe : Bool)
    (program : Expression.Program) {root : Node} (hr : r.Knows root) :
    Tells law r (Query.evaluate (Workspace.forest grammars) (types.map BuiltIn.provider) dedupe
        program root).run
      (fun w => ((Query.evaluate (Workspace.silentForest grammars)
        (types.map BuiltIn.tellingProvider) dedupe program root).run [] w).1.2)
      fun s found => ∀ nodes, found = .ok nodes → ∀ n ∈ nodes, s.Knows n := by
  have halike := Comparison.alike_evaluate (forests_recording law)
    (registries_recording types) dedupe program (show SameRecorded r root root from ⟨rfl, hr⟩)
  intro hkept
  obtain ⟨s, more, x, y, htold, hrun, hnotes, hrs, hs, hxy⟩ := halike hkept
  rw [hrun]
  refine ⟨s, rfl, ?_, hrs, hs, ?_⟩
  · simp only [htold, hnotes, List.nil_append]
  · rintro nodes rfl
    cases x with
    | error e => exact hxy.elim
    | ok found =>
        obtain ⟨rfl, hknown⟩ := (each_sameRecorded law).1 hxy
        exact hknown

/-- Whatever an expression finds is known. -/
theorem tells_evaluate (types : Query.Registry BuiltIn) (dedupe : Bool) (expression : String)
    {root : Node} (hr : r.Knows root) :
    Tells law r ((Engine.ofTypes grammars types dedupe).evaluate expression root).run
      (Workspace.evaluateNotes types dedupe expression root)
      fun s result => ∀ nodes, result = .ok nodes → ∀ n ∈ nodes, s.Knows n := by
  rw [Engine.evaluate_run]
  have hprogram : Lawful law r (Engine.program expression).run fun _ _ => True :=
    lawful_of_keeps (Engine.keeps_program expression) (by rw [Engine.program_eq])
      fun _ _ _ => trivial
  refine Tells.bind hprogram (Workspace.programNotes types dedupe root) fun s result hs _ => ?_
  cases result with
  | error e =>
      refine lawful_pure ?_
      rintro nodes ⟨⟩
  | ok program =>
      refine (tells_program types dedupe program (hs.knows hr)).then fun t found _ hf => ?_
      cases found with
      | error failure =>
          refine lawful_pure ?_
          rintro nodes ⟨⟩
      | ok found =>
          refine lawful_pure ?_
          rintro nodes ⟨⟩
          exact hf found rfl

end Act

-- ============================================================= updates

namespace Record

/-- A step that takes notes leads from a kept record to a kept record, if there is room for its
changes. -/
def Leads (law : Law grammars) (r : Record grammars) (later : Workspace grammars)
    (more : List Note) : Prop :=
  r.Kept law → r.workspace.Room later → ∃ s : Record grammars, s.workspace = later ∧
    s.notes = r.notes ++ more ∧ r.workspace.nextHandle ≤ later.nextHandle ∧
    (∀ handle node, r.issued handle = some node → s.issued handle = some node) ∧ s.Kept law

/-- A step that leaves all memories alone. -/
theorem leads_still {later : Workspace grammars} (step : r.Kept law → r.workspace.Stepped later)
    (hm : later.memories = r.workspace.memories) : r.Leads law later [] :=
  fun hr room => ⟨r.moved later [], rfl, rfl, (step hr).advances.handles, fun _ _ h => h,
    hr.still (step hr) room hm⟩

theorem leads_refl : r.Leads law r.workspace [] :=
  leads_still (fun hr => (Workspace.Onward.refl _).stepped hr.coherent) rfl

/-- A question, and then a step. -/
theorem Leads.after {α : Type} {a : Act grammars α} {notes : Workspace grammars → List Note}
    {R : Record grammars → α → Prop} {later : Workspace grammars} {more : List Note}
    (ha : Act.Tells law r a notes R)
    (h : ∀ s : Record grammars, s.workspace = (a r.workspace).2 → r.Extends s →
      s.Leads law later more) : r.Leads law later (notes r.workspace ++ more) := by
  intro hr room
  obtain ⟨s, hs, hnotes, hrs, hkept, -⟩ := ha hr
  obtain ⟨t, ht, hnotes', hhandles, hissued, hkept'⟩ :=
    h s hs hrs hkept (room.of_project hrs.onward.project rfl)
  refine ⟨t, ht, ?_, Nat.le_trans hrs.onward.handles hhandles,
    fun handle node hn => hissued _ _ (hrs.issued _ _ hn), hkept'⟩
  rw [hnotes', hnotes, List.append_assoc]

/-- A step, after which an occurrence becomes another one. -/
theorem Leads.setFound {later : Workspace grammars} {more : List Note} {handle : Handle}
    (h : r.Leads law later more) (hlt : handle < r.workspace.nextHandle)
    (occurrence : Occurrence) : r.Leads law (later.setFound handle occurrence) more := by
  intro hr room
  obtain ⟨s, rfl, hnotes, hhandles, hissued, hkept⟩ := h hr (room.of_project rfl rfl)
  have hon : s.workspace.Onward (s.workspace.setFound handle occurrence) := ⟨rfl, Nat.le_refl _⟩
  have hcoherent := hkept.coherent.setFound occurrence (Nat.lt_of_lt_of_le hlt hhandles)
  exact ⟨s.moved _ [], rfl, (List.append_nil _).trans hnotes, hhandles, hissued,
    hkept.still (hon.stepped hcoherent) (Workspace.room_of_project rfl) rfl⟩

end Record

namespace Act

open Record

/-- Replacing the span of a node is remembered by that node at most, and if it fails by none. -/
theorem memory_updateMember (w : Workspace grammars) {node other : MemberNode} (text : String)
    (ho : other.handle ≠ node.handle ∨ ∃ e, ((updateMember node text).run w).1 = .error e) :
    ((updateMember node text).run w).2.memory other = w.memory other := by
  obtain ⟨-, -, hm, -⟩ := span?_eq node w
  rw [updateMember_run] at ho ⊢
  generalize span? node w = result at hm ho ⊢
  obtain ⟨found, v⟩ := result
  have hmemory : v.memory other = w.memory other := Workspace.memory_eq hm other
  cases found with
  | none => exact hmemory
  | some span =>
      simp only at ho ⊢
      cases happ : (v.document node.file).apply
          (.replacing (v.document node.file).content span text) with
      | error e => exact hmemory
      | ok answer =>
          rw [happ] at ho
          rcases ho with ho | ⟨e, he⟩
          · show ((v.setDocument node.file answer.2).remember node _).memory other = _
            rw [Workspace.memory_remember, if_neg ho]
            exact hmemory
          · cases he

theorem leads_updateMember {node : MemberNode} (text : String)
    (hn : r.KnowsText (.member node)) :
    r.Leads law ((updateMember node text).run r.workspace).2
      (r.workspace.memberNotes node text) := by
  intro hr room
  have hstep := stepped_update text hr.coherent hn.1
  unfold update at hstep
  refine ⟨r.moved _ _, rfl, rfl, hstep.advances.handles, fun _ _ h => h, ?_⟩
  refine kept_of_step hr hn hstep room
    (fun other ho => memory_updateMember r.workspace text (.inl ho)) (fun note hm => ?_)
    fun h => ?_
  · unfold Workspace.memberNotes at hm
    split at hm
    · rw [List.mem_singleton.1 hm]
    · cases hm
  · cases hrun : (updateMember node text).run r.workspace with
    | mk result later =>
        rw [hrun] at hstep room
        cases result with
        | ok _ => exact law.update hr.coherent hn.1.1 hrun room h
        | error e =>
            have hmemory : ((updateMember node text).run r.workspace).2.memory node =
                r.workspace.memory node :=
              memory_updateMember r.workspace text (.inr ⟨e, by rw [hrun]⟩)
            rw [hrun] at hmemory
            unfold Workspace.memberNotes
            rw [hrun]
            exact law.elsewhere h hmemory (hstep.advances.revised _ hn.1.1) (room node.file)
              fun note hm => by cases hm

theorem leads_updateOccurrence {handle : Handle} {grammar : Microgrammar} {context : TextNode}
    {born : Occurrence} {address : String}
    {updateContext : String → ExceptT NodeError (Act grammars) Unit}
    {contextNotes : String → Workspace grammars → List Note} (hn : r.KnowsText context)
    (hh : handle < r.workspace.nextHandle)
    (hcontext : ∀ (s : Record grammars) (text : String), s.KnowsText context →
      s.Leads law ((updateContext text).run s.workspace).2 (contextNotes text s.workspace))
    (text : String) :
    r.Leads law
      ((updateOccurrence handle grammar context born address updateContext text).run
        r.workspace).2
      (Workspace.occurrenceNotes handle grammar context born contextNotes text r.workspace) := by
  refine Leads.after (tells_value hn) fun s hs hrs => ?_
  have hlt : handle < s.workspace.nextHandle := Nat.lt_of_lt_of_le hh hrs.onward.handles
  have hs : s.workspace = (r.workspace.value context).2 := hs
  rw [updateOccurrence_run, ← hs]
  cases grammar.locate? (s.workspace.found handle born) (r.workspace.value context).1 with
  | none => exact leads_refl
  | some span =>
      simp only
      cases (Edit.replacing (r.workspace.value context).1 span text).apply
          (r.workspace.value context).1 with
      | error e => cases e <;> exact leads_refl
      | ok outcome =>
          cases outcome with
          | alreadyApplied => exact leads_refl.setFound hlt _
          | applied changed =>
              simp only
              have hleads := hcontext s changed (hrs.knowsText hn)
              generalize (updateContext changed).run s.workspace = answer at hleads ⊢
              obtain ⟨result, later⟩ := answer
              cases result with
              | error e => exact hleads
              | ok _ => exact hleads.setFound hlt _

/-- An update of any node leads to a kept record. -/
theorem leads_update {node : TextNode} (text : String) {r : Record grammars}
    (hn : r.KnowsText node) :
    r.Leads law ((update node text).run r.workspace).2
      (Workspace.updateNotes node text r.workspace) := by
  induction node generalizing text r with
  | file path =>
      exact leads_still (fun _ => stepped_setContent text hn.1.1) rfl
  | member node => exact leads_updateMember text hn
  | occurrence handle grammar context index born ih =>
      unfold update
      exact leads_updateOccurrence hn.context (hn.1.2 _ List.mem_cons_self)
        (fun s text hs => ih text hs) text
  | binding handle grammar context index born name ih =>
      unfold update Workspace.updateNotes
      rw [run_get_bind]
      simp only
      cases ((r.workspace.found handle born).captures.lookup name).bind
          (Text.splice? (r.workspace.found handle born).text · text) with
      | none => exact leads_refl
      | some spliced =>
          exact leads_updateOccurrence hn.contextOfBinding (hn.1.2 _ List.mem_cons_self)
            (fun s text hs => ih text hs) spliced

end Act

end TreeQuery
