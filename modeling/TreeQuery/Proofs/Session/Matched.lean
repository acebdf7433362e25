/-
Structural patterns in sessions.

Whatever has been done before, a pattern that is looked for from a file of its language, or from a
node held in a view of it that still stands somewhere, finds one node for each match in the span
looked in. This is about patterns all of whose matches have members: named syntax nodes with named
ones above them. The parsers say where a pattern matches, in the text as a whole, and nothing else
is asked of them.
-/
import TreeQuery.Proofs.Session.Members
import TreeQuery.Proofs.Session.Recorded
import TreeQuery.Proofs.Workspace.Matching

namespace TreeQuery.Session

open Text (Span)

variable {grammars : Grammars} {changes : ProjectPath → Nat} {s : Session grammars}

/-- After any run, a pattern of a program finds one node for each match that lies in the span of the
node it looks from, in the order of the matches, if these are named syntax nodes below named ones.
The node has the span, the kind and the text of the match, and the address of a row of the view of
the present text with that span and kind. -/
theorem portrays_of_reached (hr : Reached changes s) (few : ∀ file, changes file < UInt64.size)
    {context : Node} (held : context ∈ s.held) {pattern : StructuralPattern}
    (hl : pattern.language ≠ .yaml) {file : ProjectPath} {span : Span}
    (scope : s.workspace.Scope pattern.language context file span) {matched : List PatternMatch}
    (hmatched : grammars.find pattern.language pattern.text (s.workspace.content file) =
      some matched)
    (named : ∀ m ∈ matched,
      ∃ node ∈ (grammars.parse pattern.language (s.workspace.content file)).namedThroughout,
        node.span = m.span ∧ node.kind = m.kind) (name : String) :
    ∃ found later, (NodeType.ofPattern name pattern).find context s.workspace =
        (.ok (found.map fun node => .text (.member node)), later) ∧
      later.project = s.workspace.project ∧
      List.Forall₂ (later.Portrays file pattern.language)
        (matched.filter fun m => m.span.within span) found := by
  have hs := sound_of_reached hr few
  obtain ⟨found, later, hfind, hmoved, hportrays⟩ :=
    Act.portrays_of_find hs.coherent (hs.known context held) hl scope hmatched named name
  exact ⟨found, later, hfind, hmoved.project, hportrays⟩

-- ============================================================ a sample

/-- A parser of statements that are one letter, each on a line of its own. Every pattern matches the
letters. -/
def spelling : Grammars where
  parse _ source := .node ⟨"module", .whole source, true, false, false, none⟩
    ((List.range (source.utf8ByteSize / 2)).map fun line =>
      View.plainNode "expression_statement" (2 * line) (2 * line + 1)
        [View.plainNode "identifier" (2 * line) (2 * line + 1) []])
  find _ _ source := some ((List.range (source.utf8ByteSize / 2)).map fun line =>
    ⟨⟨2 * line, 2 * line + 1⟩, "identifier"⟩)

/-- The root of the view of two such statements. -/
def linesRoot : MemberNode where
  handle := 0
  file := ["a.py"]
  language := .python
  location := []
  born := {
    member := ⟨"PythonFile", "module", ["PythonFile", "PythonNode"], ⟨0, 4⟩, []⟩
    text := "p\nq\n" }

/-- A session in which two statements have been found. -/
def spelt : Session spelling :=
  (((start "p" .empty .empty).step (.addFile "a.py" "p\nq\n")).step
    (.viewRoot ["a.py"] .python)).step (.children (.text (.member linesRoot)))

/-- A session in which two lines have been written to the first of them. -/
def respelt : Session spelling := spelt.step (.update (.member (statementAt 0 "p")) "z\nz")

theorem statement_mem_spelt : .text (.member (statementAt 0 "p")) ∈ spelt.held :=
  List.mem_of_getElem? (i := 3) rfl

theorem reached_respelt : ∃ changes, Reached changes respelt ∧ ∀ file, changes file ≤ 4 := by
  have hadded := Recorded.next (Recorded.begun "p" .empty (.empty : PatternCache spelling))
    (.addFile "a.py" "p\nq\n") fun node hn => by cases hn
  have hopened := Recorded.next hadded (.viewRoot ["a.py"] .python) fun node hn =>
    Option.mem_some_iff.1 hn ▸ List.mem_of_getLast? rfl
  have hspelt := Recorded.next hopened (.children (.text (.member linesRoot))) fun node hn =>
    Option.mem_some_iff.1 hn ▸ List.mem_of_getLast? rfl
  obtain ⟨changes, hr, hmost⟩ := Recorded.next hspelt
    (.update (.member (statementAt 0 "p")) "z\nz") fun node hn =>
      Option.mem_some_iff.1 hn ▸ statement_mem_spelt
  exact ⟨changes, hr.reached, hmost⟩

/-- The case of a statement that two lines have been written to. It stands at both by then, though
the view has a statement of its own for each, and the letter of either line is found. -/
theorem portrays_of_reached_respelt :
    ∃ found later, (NodeType.ofPattern "Letter" ⟨.python, "$A"⟩).find
        (.text (.member (statementAt 0 "p"))) respelt.workspace =
        (.ok (found.map fun node => .text (.member node)), later) ∧
      later.content ["a.py"] = "z\nz\nq\n" ∧
      List.Forall₂ (later.Portrays ["a.py"] .python)
        [⟨⟨0, 1⟩, "identifier"⟩, ⟨⟨2, 3⟩, "identifier"⟩] found := by
  obtain ⟨changes, hr, hmost⟩ := reached_respelt
  have few : ∀ file, changes file < UInt64.size := fun file =>
    Nat.lt_of_le_of_lt (hmost file) (by decide)
  have held : .text (.member (statementAt 0 "p")) ∈ respelt.held := statement_mem_spelt
  have hcontent : respelt.workspace.content ["a.py"] = "z\nz\nq\n" := by decide +kernel
  have scope : respelt.workspace.Scope .python (.text (.member (statementAt 0 "p"))) ["a.py"]
      ⟨0, 3⟩ := .member rfl (by decide +kernel)
  have program : (⟨.python, "$A"⟩ : StructuralPattern).language ≠ .yaml := by decide
  have hmatched : spelling.find .python "$A" (respelt.workspace.content ["a.py"]) =
      some [⟨⟨0, 1⟩, "identifier"⟩, ⟨⟨2, 3⟩, "identifier"⟩, ⟨⟨4, 5⟩, "identifier"⟩] := by
    rw [hcontent]
    decide +kernel
  obtain ⟨found, later, hfind, hproject, hportrays⟩ :=
    portrays_of_reached hr few held program scope hmatched
      (by rw [hcontent]; decide +kernel) "Letter"
  exact ⟨found, later, hfind, (Workspace.content_of_project hproject _).trans hcontent, hportrays⟩

end TreeQuery.Session
