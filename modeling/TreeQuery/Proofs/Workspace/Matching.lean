/-
What a structural pattern finds: nodes for its matches.

# From a match to a row

A pattern says of each match the span and the kind, and nothing else; the member is looked for by
these in the table of the view. Rows may share a span, so the search prefers the kind. Where some
row below the root has both, it ends in one that has both (`View.findBySpan?_of_row`), and every
named syntax node below named ones has such a row (`View.exists_row_of_mem_namedThroughout`).

# From a row to a node

The node made for a row is a new one. Nothing is remembered under its handle, so it stands where
the row does, with the row's kind and the text at its span, and its address leads back to the row
(`Workspace.portrays_of_row`).

# The search as a whole

Looking from a node moves no other, and what has been looked at before does not matter: the rows
are those of the view of the present text (`Act.find_ofPattern`). There is one for each match in
the span of the node that is looked from, which for a node that has just written is the span of
what it wrote.
-/
import Mathlib.Data.List.Forall2
import TreeQuery.Proofs.View.Members
import TreeQuery.Proofs.Workspace.Asking

namespace TreeQuery

open Text (Span)

variable {grammars : Grammars}

-- =============================================================== lists

/-- A search that answers for each entry gives one answer for each. -/
theorem forall₂_filterMap {α β : Type} {R : α → β → Prop} {f : α → Option β}
    {entries : List α} (h : ∀ a ∈ entries, ∃ b, f a = some b ∧ R a b) :
    List.Forall₂ R entries (entries.filterMap f) := by
  induction entries with
  | nil => exact .nil
  | cons a rest ih =>
      obtain ⟨b, hb, hab⟩ := h a List.mem_cons_self
      rw [List.filterMap_cons_some hb]
      exact .cons hab (ih fun c hc => h c (List.mem_cons_of_mem _ hc))

/-- What is related to the entries of a list is related to them under numbers. -/
theorem forall₂_zipIdx {α β : Type} {R : α → β → Prop} {left : List α} {right : List β}
    (h : List.Forall₂ R left right) (first : Nat) :
    List.Forall₂ (fun a row => R a row.1 ∧ first ≤ row.2) left (right.zipIdx first) := by
  induction h generalizing first with
  | nil => exact .nil
  | cons hab _ ih =>
      rw [List.zipIdx_cons]
      exact .cons ⟨hab, Nat.le_refl _⟩
        ((ih (first + 1)).imp fun _ _ hrow => ⟨hrow.1, Nat.le_of_succ_le hrow.2⟩)

-- ================================================================ rows

namespace View

variable {view : View} {span : Span} {kind : String}

/-- What is found by a span and a kind has both, if some row below the root does. -/
theorem findBySpan?_of_row {entry : Entry} (h : entry ∈ view.entries.tail)
    (hspan : entry.member.span = span) (hkind : entry.member.kind = kind) :
    ∃ index row, view.findBySpan? span kind = some (index, row) ∧ row ∈ view.entries ∧
      row.member.span = span ∧ row.member.kind = kind := by
  let covering := (view.entries.zipIdx.map fun row => (row.2, row.1)).filter
    fun row => row.1 != 0 && row.2.member.span == span
  have hsome : ∃ row ∈ covering, (row.2.member.kind == kind) = true := by
    obtain ⟨below, hbelow⟩ := List.mem_iff_getElem?.1 h
    rw [List.getElem?_tail] at hbelow
    refine ⟨(below + 1, entry), List.mem_filter.2 ⟨?_, ?_⟩, beq_iff_eq.2 hkind⟩
    · exact List.mem_map.2 ⟨(entry, below + 1), List.mem_zipIdx_iff_getElem?.2 hbelow, rfl⟩
    · rw [Bool.and_eq_true, bne_iff_ne, beq_iff_eq]
      exact ⟨Nat.succ_ne_zero _, hspan⟩
  obtain ⟨⟨index, row⟩, hfound⟩ := Option.isSome_iff_exists.1 (List.find?_isSome.2 hsome)
  have hfirst : view.findBySpan? span kind = some (index, row) :=
    (congrArg (Option.or · _) hfound).trans Option.some_or
  have hsame : (row.member.kind == kind) = true :=
    List.find?_some (p := fun row : Nat × Entry => row.2.member.kind == kind) hfound
  obtain ⟨hmem, hcovers⟩ := mem_entries_of_findBySpan? hfirst
  exact ⟨index, row, hfirst, hmem, hcovers, beq_iff_eq.1 hsame⟩

/-- The address of a row leads back to it. -/
theorem indexOf?_of_row {index : Nat} {entry : Entry} (h : view.entries[index]? = some entry)
    (root : String) : view.indexOf? root (entry.location.address root) = some index := by
  obtain ⟨hlt, rfl⟩ := List.getElem?_eq_some_iff.1 h
  exact view.indexOf?_addressAt root ⟨index, hlt⟩

/-- A named syntax node below named ones has a row. -/
theorem exists_row_of_mem_namedThroughout {language : Language} (hl : language ≠ .yaml)
    (source : String) {tree : SyntaxTree} {node : SyntaxNode} (h : node ∈ tree.namedThroughout) :
    ∃ entry ∈ (project language source tree).entries.tail,
      entry.member.span = node.span ∧ entry.member.kind = node.kind := by
  have hrows := @map_tail_entries_project language source _
    (fun member => (member.span, member.kind)) (fun node => (node.span, node.kind))
    (fun _ => rfl) hl tree
  have hmem := List.mem_map_of_mem (f := fun node => (node.span, node.kind)) h
  rw [← hrows] at hmem
  obtain ⟨entry, hentry, hsame⟩ := List.mem_map.1 hmem
  exact ⟨entry, hentry, Prod.mk.inj hsame⟩

/-- The rows of a view that the matches in a span lead to. -/
def matchedRows (view : View) (span : Span) (matched : List PatternMatch) : List Entry :=
  (matched.filter fun m => m.span.within span).filterMap fun m =>
    (view.findBySpan? m.span m.kind).map (·.2)

/-- Where all matches are named syntax nodes below named ones, each leads to a row with its span and
kind. -/
theorem forall₂_matchedRows {language : Language} (hl : language ≠ .yaml) (source : String)
    {tree : SyntaxTree} {matched : List PatternMatch}
    (named : ∀ m ∈ matched, ∃ node ∈ tree.namedThroughout,
      node.span = m.span ∧ node.kind = m.kind) (span : Span) :
    List.Forall₂ (fun m row => row ∈ (project language source tree).entries ∧
        row.member.span = m.span ∧ row.member.kind = m.kind)
      (matched.filter fun m => m.span.within span)
      (matchedRows (project language source tree) span matched) := by
  refine forall₂_filterMap fun m hm => ?_
  obtain ⟨node, hnode, hspan, hkind⟩ := named m (List.mem_filter.1 hm).1
  obtain ⟨entry, hentry, hspan', hkind'⟩ := exists_row_of_mem_namedThroughout hl source hnode
  obtain ⟨index, row, hfound, hrow⟩ :=
    findBySpan?_of_row hentry (hspan'.trans hspan) (hkind'.trans hkind)
  refine ⟨row, ?_, hrow⟩
  rw [hfound]
  rfl

end View

-- =============================================================== nodes

namespace Workspace

variable {w : Workspace grammars} {file : ProjectPath} {language : Language}

/-- The node stands for a match of a pattern in a file: in the view of the present text, with the
span, the kind and the text of the match, and at the address of a row that has them. -/
structure Portrays (w : Workspace grammars) (file : ProjectPath) (language : Language)
    (found : PatternMatch) (node : MemberNode) : Prop where
  inFile : node.file = file
  inLanguage : node.language = language
  span : w.span? node = some found.span
  kind : (w.member node).kind = found.kind
  text : (w.value (.member node)).1 = (Text.slice? (w.content file) found.span).getD ""
  row : ∃ index entry,
    (grammars.view language (w.content file)).entries[index]? = some entry ∧
    (grammars.view language (w.content file)).indexOf? (viewAddress file language) node.address =
      some index ∧
    entry.member.span = found.span ∧ entry.member.kind = found.kind

/-- A node that has been found and written nothing is pinned to no span. -/
theorem pinned?_of_fresh {node : MemberNode} (hborn : node.born.pinned = none)
    (hfresh : w.memories.lookup node.handle = none) : w.pinned? node = none := by
  unfold pinned? memory
  rw [hfresh, Option.getD_none, hborn]

/-- A new node at the place of a row stands for the match that the row has the span and the kind
of. -/
theorem portrays_of_row (hw : w.Coherent) {found : PatternMatch} {entry : View.Entry}
    (hentry : entry ∈ (w.view file language).entries)
    (hspan : entry.member.span = found.span) (hkind : entry.member.kind = found.kind)
    {node : MemberNode} (hfile : node.file = file) (hlanguage : node.language = language)
    (hlocation : node.location = entry.location) (hborn : node.born.pinned = none)
    (hfresh : w.memories.lookup node.handle = none) :
    w.Portrays file language found node := by
  subst hfile hlanguage
  obtain ⟨part, hpart, hlabel⟩ := View.at?_of_mem_entries hentry
  obtain ⟨index, hindex⟩ := List.mem_iff_getElem?.1 hentry
  have hresolve : w.resolve? node = some part := by
    unfold resolve?
    rw [hlocation, hpart]
  have hpinned := pinned?_of_fresh hborn hfresh
  refine ⟨rfl, rfl, ?_, ?_, ?_, index, entry, ?_⟩
  · unfold span?
    rw [hpinned, hresolve, Option.none_or, Option.map_some, hlabel, hspan]
  · unfold member
    rw [hresolve]
    show part.label.kind = found.kind
    rw [hlabel, hkind]
  · show (w.memberValue node).1 = _
    rw [memberValue_fst]
    unfold memberText
    rw [hpinned, hresolve]
    show (Text.slice? (w.content node.file) part.label.span).getD "" = _
    rw [hlabel, hspan]
  · rw [← hw.view]
    refine ⟨hindex, ?_, hspan, hkind⟩
    unfold MemberNode.address
    rw [hlocation]
    exact View.indexOf?_of_row hindex _

/-- Where a pattern of a language looks from a node: in the file, and in which span of it. -/
inductive Scope (w : Workspace grammars) (language : Language) :
    Node → ProjectPath → Span → Prop
  /-- From a file of the language it looks in the whole. -/
  | file {path : ProjectPath}
      (written : Language.ofPath? (ProjectPath.write path) = some language) :
      Scope w language (.file path) path (.whole (w.content path))
  /-- From a node in a view of the language, where the node stands. -/
  | member {node : MemberNode} {span : Span} (same : node.language = language)
      (stands : w.span? node = some span) :
      Scope w language (.text (.member node)) node.file span

end Workspace

-- ============================================================= searches

namespace Act

open Workspace NodeType

variable {w : Workspace grammars} {language : Language} {file : ProjectPath} {context : Node}
  {span : Span}

/-- The root of a view stands for all of the file. -/
theorem span?_viewRoot (hw : w.Coherent) (file : ProjectPath) (language : Language)
    (hf : (w.project.document? file).isSome) :
    (viewRoot file language w).2.span? (viewRoot file language w).1 =
      some (.whole (w.content file)) := by
  have hv : (w.holdView file language).Coherent := hw.holdView language hf
  obtain ⟨hproject, hmemories, -⟩ := w.holdView_fields file language
  have hpinned : (viewRoot file language w).2.pinned? (viewRoot file language w).1 = none :=
    pinned?_of_fresh rfl (hv.memories _ (Nat.le_refl _))
  have hresolve : (viewRoot file language w).2.resolve? (viewRoot file language w).1 =
      some ((w.holdView file language).view file language) := rfl
  unfold Workspace.span?
  rw [hpinned, hresolve, hv.view, content_of_project hproject]
  rfl

/-- The node a pattern looks below has the span of the scope. -/
theorem patternScope_eq (hw : w.Coherent) (hn : w.Knows context)
    (scope : w.Scope language context file span) :
    ∃ node v, patternScope language context w = (some node, v) ∧ node.file = file ∧
      node.language = language ∧ v.span? node = some span := by
  cases scope with
  | @member node span same stands =>
      have hrun : patternScope language (.text (.member node)) w =
          (if node.language = language then some node else none, w) := rfl
      rw [if_pos same] at hrun
      exact ⟨node, w, hrun, rfl, same, stands⟩
  | file written =>
      have hrun : patternScope language (.file file) w =
          (some (viewRoot file language w).1, (viewRoot file language w).2) := by
        show (if Language.ofPath? (ProjectPath.write file) = some language
          then (do return some (← viewRoot file language))
          else (do return none) : Act grammars (Option MemberNode)) w = _
        rw [if_pos written]
        rfl
      exact ⟨_, _, hrun, rfl, rfl, span?_viewRoot hw file language hn.1⟩

/-- A new node for a row of the view of a file. -/
def newRow (file : ProjectPath) (language : Language) (entry : View.Entry) : Act grammars Node := do
  return .text (.member (← newMember file language entry.location entry.member))

/-- The node for a row, under a handle. -/
def rowNode (w : Workspace grammars) (file : ProjectPath) (language : Language)
    (row : View.Entry × Handle) : MemberNode where
  handle := row.2
  file := file
  language := language
  location := row.1.location
  born := w.observe file row.1.member

/-- Nodes for some rows are made under new handles, one after the other. -/
theorem mapM_newRow (file : ProjectPath) (language : Language) (entries : List View.Entry)
    (w : Workspace grammars) :
    entries.mapM (newRow file language) w =
      ((entries.zipIdx w.nextHandle).map fun row => .text (.member (rowNode w file language row)),
        { w with nextHandle := w.nextHandle + entries.length }) := by
  induction entries generalizing w with
  | nil => rfl
  | cons entry rest ih =>
      have hmapM : (entry :: rest).mapM (newRow file language) w =
          (.text (.member (rowNode w file language (entry, w.nextHandle))) ::
            (rest.mapM (newRow file language) { w with nextHandle := w.nextHandle + 1 }).1,
          (rest.mapM (newRow file language) { w with nextHandle := w.nextHandle + 1 }).2) := by
        rw [List.mapM_cons]
        rfl
      rw [hmapM, ih, List.zipIdx_cons, List.map_cons, List.length_cons, Nat.add_right_comm,
        Nat.add_assoc]
      rfl

/-- The search step by step: for the node to look below, for its span, and for the matches in the
text of its file, whose view is held by then. -/
theorem find_ofPattern_steps {pattern : StructuralPattern} {node : MemberNode}
    {v₁ v₂ v₃ v : Workspace grammars} {source : String} {matched : List PatternMatch}
    (hscope : patternScope pattern.language context w = (some node, v₁))
    (hlanguage : node.language = pattern.language)
    (hspan : span? node v₁ = (some span, v₂))
    (hheld : v₂.holdView node.file pattern.language = v₃)
    (hcontent : v₃.content node.file = source)
    (hfound : findPattern pattern source v₃ = (some matched, v)) (name : String) :
    (ofPattern name pattern).find context w =
      Prod.map .ok id ((View.matchedRows (v₃.view node.file pattern.language) span matched).mapM
        (newRow node.file pattern.language) v) := by
  have hconsult : consult node.file pattern.language v₂ = ((), v₃) := Prod.ext rfl hheld
  have hget : (get : Act grammars _) v₃ = (v₃, v₃) := rfl
  unfold ofPattern
  simp only [bind_apply, hscope, hlanguage, hspan, hconsult, hget, hcontent, hfound]
  rfl

/-- From a node that has a scope, a pattern finds new nodes for the rows that the matches in the
scope lead to in the view of the present text. -/
theorem find_ofPattern (hw : w.Coherent) (hn : w.Knows context) {pattern : StructuralPattern}
    (scope : w.Scope pattern.language context file span) {matched : List PatternMatch}
    (hmatched : grammars.find pattern.language pattern.text (w.content file) = some matched)
    (name : String) :
    let rows := View.matchedRows (w.view file pattern.language) span matched
    ∃ v, v.Coherent ∧ (ofPattern name pattern).find context w =
      (.ok ((rows.zipIdx v.nextHandle).map fun row =>
          .text (.member (rowNode v file pattern.language row))),
        { v with nextHandle := v.nextHandle + rows.length }) := by
  intro rows
  -- each step keeps the workspace coherent and moves no node
  obtain ⟨node, v₁, hscope, rfl, hlanguage, hstands⟩ := patternScope_eq hw hn scope
  obtain ⟨hv₁, -, hnode⟩ := keeps_patternScope pattern.language hn hw
  have hmoved₁ := (asks_patternScope pattern.language context w).1
  rw [hscope] at hv₁ hnode hmoved₁
  have hnode : v₁.KnowsText (.member node) := hnode node rfl
  have hspan : span? node v₁ = (some span, (span? node v₁).2) :=
    Prod.ext ((span?_eq node v₁).1.trans hstands) rfl
  obtain ⟨hv₂, honward, -⟩ := keeps_span? hnode hv₁
  have hmoved₂ := hmoved₁.trans (asks_span? node v₁).1
  generalize (span? node v₁).2 = v₂ at hspan hv₂ honward hmoved₂
  have hv₃ : (v₂.holdView node.file pattern.language).Coherent :=
    hv₂.holdView _ (honward.knowsText hnode).1
  have hmoved₃ := hmoved₂.trans (unmoved_holdView v₂ node.file pattern.language)
  obtain ⟨v, hfound⟩ : ∃ v, findPattern pattern (w.content node.file)
      (v₂.holdView node.file pattern.language) = (some matched, v) :=
    ⟨_, by rw [findPattern_eq, hmatched]⟩
  obtain ⟨hv, -, -⟩ := keeps_findPattern pattern (w.content node.file) hv₃
  rw [hfound] at hv
  refine ⟨v, hv, ?_⟩
  rw [find_ofPattern_steps hscope hlanguage hspan rfl (hmoved₃.content _) hfound, hmoved₃.view,
    mapM_newRow]
  rfl

/-- Where all matches are named syntax nodes below named ones, a pattern finds one node for each
match in the scope, in their order, and it stands for the match. -/
theorem portrays_of_find (hw : w.Coherent) (hn : w.Knows context) {pattern : StructuralPattern}
    (hl : pattern.language ≠ .yaml) (scope : w.Scope pattern.language context file span)
    {matched : List PatternMatch}
    (hmatched : grammars.find pattern.language pattern.text (w.content file) = some matched)
    (named : ∀ m ∈ matched,
      ∃ node ∈ (grammars.parse pattern.language (w.content file)).namedThroughout,
        node.span = m.span ∧ node.kind = m.kind) (name : String) :
    ∃ found later, (ofPattern name pattern).find context w =
        (.ok (found.map fun node => .text (.member node)), later) ∧ w.Unmoved later ∧
      List.Forall₂ (later.Portrays file pattern.language)
        (matched.filter fun m => m.span.within span) found := by
  obtain ⟨v, hv, hfind⟩ := find_ofPattern hw hn scope hmatched name
  obtain ⟨hlater, -, -⟩ := keeps_find_ofPattern name pattern hn hw
  have hunmoved := (asks_find_ofPattern name pattern context w).1
  have hrows := View.forall₂_matchedRows hl (w.content file) named span
  rw [show View.project _ _ _ = w.view file pattern.language from (hw.view _ _).symm] at hrows
  rw [hfind] at hlater hunmoved
  generalize View.matchedRows (w.view file pattern.language) span matched = rows at *
  refine ⟨(rows.zipIdx v.nextHandle).map (rowNode v file pattern.language), _, ?_, hunmoved, ?_⟩
  · rw [hfind, List.map_map]
    rfl
  · rw [List.forall₂_map_right_iff]
    refine (forall₂_zipIdx hrows v.nextHandle).imp fun m row hrow => ?_
    obtain ⟨⟨hmem, hspan, hkind⟩, hhandle⟩ := hrow
    rw [← hunmoved.view] at hmem
    exact portrays_of_row hlater hmem hspan hkind rfl rfl rfl rfl (hv.memories _ hhandle)

end Act

end TreeQuery
