/-
Batches of updates of nodes in views.

One text is written to each node that an expression finds. The nodes are those found before the
first of them is written to. What can become of them later is that they stand elsewhere: a
node is where its address leads in the view of the text there is by then. An update after
which there are more or fewer siblings of a name leaves their addresses to other nodes, and a
later update replaces what stands there.

What holds of every batch is the account turn by turn. It comes to a replacement of all the
spans at once whenever each address after the first leads, at its turn, to the span it led to
before, moved by what the updates have changed to the left of it.
-/
import TreeQuery.Proofs.Session.Basic
import TreeQuery.Proofs.Workspace.Batches

namespace TreeQuery

open Text (Span)

variable {grammars : Grammars}

/-- A visit of matches that succeeds has visited what the expression finds. -/
theorem Engine.visit_of_visitMatches {β ε : Type} {engine : Engine grammars}
    {expression : String} {root : Node} {action : Node → Act grammars (Except ε β)}
    {w v later : Workspace grammars} {found : List Node} {outcome : List β × Option ε}
    (heval : (engine.evaluate expression root).run w = (.ok found, v))
    (h : (engine.visitMatches expression root action).run w = (.ok outcome, later)) :
    visit action found v = (outcome, later) := by
  unfold visitMatches at h
  rw [Act.run_bind_apply, heval] at h
  obtain ⟨hresult, hlater⟩ := Prod.mk.inj h
  exact Prod.ext (Except.ok.inj hresult) hlater

namespace Session

variable {changes : ProjectPath → Nat} {s : Session grammars}

/-- A text written to all nodes that an expression finds, which stand apart in views of one file.
There is one answer for each, the text is put in turn where each node stands, and no other file
changes. If each after the first stands at its own place then, all spans have been replaced at
once. -/
theorem visitMatches_of_reached (hr : Reached changes s) (few : ∀ file, changes file < UInt64.size)
    {root : Node} (held : root ∈ s.held) {types : Query.Registry BuiltIn} {dedupe : Bool}
    {expression text : String} {found : List MemberNode} {w : Workspace grammars}
    (heval : ((Engine.ofTypes grammars types dedupe).evaluate expression root).run s.workspace =
      (.ok (found.map fun node => .text (.member node)), w))
    {file : ProjectPath} (within : ∀ node ∈ found, node.file = file)
    {spans : List Span} (stand : found.map w.span? = spans.map some)
    (separate : Text.Separate spans) {answers : List Unit} {later : Workspace grammars}
    (hok : ((Engine.ofTypes grammars types dedupe).visitMatches expression root
      (Act.rewrite text)).run s.workspace = (.ok (answers, none), later)) :
    answers.length = found.length ∧
      (∀ other, other ≠ file →
        later.project.document? other = s.workspace.project.document? other) ∧
      ∃ picks, Workspace.Rewrites text w found picks later ∧
        Text.spliceAll (s.workspace.content file) (picks.map fun span => ⟨span, text⟩) =
          some (later.content file) ∧
        (picks.tail = (Text.turns [] (spans.map fun span => ⟨span, text⟩)).tail →
          Text.Replaced (s.workspace.content file) (spans.map fun span => ⟨span, text⟩)
            (later.content file)) := by
  have hs := sound_of_reached hr few
  have hkept := Engine.keeps_evaluate types dedupe expression (hs.known root held) hs.coherent
  rw [heval] at hkept
  obtain ⟨-, onward, hknown⟩ := hkept
  have hproject : w.project = s.workspace.project := onward.project
  have hcontent := Workspace.content_of_project hproject file
  have hexists : ∀ node ∈ found, (w.project.document? node.file).isSome := fun node hn =>
    (hknown _ rfl _ (List.mem_map_of_mem hn)).1
  obtain ⟨hlen, picks, hrew⟩ := Act.rewrites_of_visit hexists
    (Engine.visit_of_visitMatches heval hok)
  obtain ⟨hsplices, hothers⟩ := hrew.content within
  rw [hcontent] at hsplices
  rw [hproject] at hothers
  refine ⟨hlen, hothers, picks, hrew, hsplices, fun hturns => ?_⟩
  have hpicks := hrew.eq_turns stand hturns
  have hcount : picks.length = spans.length := by
    rw [hpicks, Text.length_turns, List.length_map]
  rw [← Text.placed_map text hcount, hpicks] at hsplices
  refine Text.replaced_of_spliceAll ?_ hsplices
  rw [List.map_map]
  exact (List.map_id spans).symm ▸ separate

-- ============================================================ a sample

/-- A parser of statements that are one letter, each on a line of its own. -/
def letterStatements : Grammars where
  parse _ source := .node ⟨"module", .whole source, true, false, false, none⟩
    ((List.range (source.utf8ByteSize / 2)).map fun line =>
      .node ⟨"expression_statement", ⟨2 * line, 2 * line + 1⟩, true, false, false, none⟩ [])
  find _ _ _ := some []

/-- A session in which a file of two statements has been added. -/
def lined : Session letterStatements :=
  (start "p" .empty .empty).step (.addFile "a.py" "p\nq\n")

theorem reached_lined : Reached (fun _ => 0) lined :=
  .still (.start _ _ _) _ (fun node hn => by cases hn) fun file => rfl

/-- An engine that knows one language. -/
def pythonEngine : Engine letterStatements :=
  .ofTypes letterStatements
    (Query.Registry.core.register "PythonFile" (.language .python)) false

/-- The statement of a line as it is found at first, with its letter. -/
def statementAt (line : Nat) (letter : String) : MemberNode where
  handle := line + 1
  file := ["a.py"]
  language := .python
  location := [⟨"expression_statement", line⟩]
  born := {
    member := ⟨"expression_statement", "expression_statement",
      ["PythonNode", "expression_statement"], ⟨2 * line, 2 * line + 1⟩, []⟩
    text := letter }

/-- The workspace once the statements have been found. -/
def viewed : Workspace letterStatements :=
  ((pythonEngine.evaluate "/a.py/PythonFile()/*" (.directory [])).run lined.workspace).2

/-- The node as one in a view, if it is one. -/
def asMember? : Node → Option MemberNode
  | .text (.member node) => some node
  | _ => none

theorem eq_of_asMember? {nodes : List Node} {found : List MemberNode}
    (h : nodes.mapM asMember? = some found) :
    nodes = found.map fun node => .text (.member node) := by
  induction nodes generalizing found with
  | nil =>
      obtain rfl := Option.some.inj h
      rfl
  | cons node rest ih =>
      rw [List.mapM_cons] at h
      obtain ⟨member, hmember, h⟩ := Option.bind_eq_some_iff.1 h
      obtain ⟨members, hrest, h⟩ := Option.bind_eq_some_iff.1 h
      obtain rfl := Option.some.inj h
      obtain rfl : node = .text (.member member) := by
        unfold asMember? at hmember
        split at hmember
        · rw [Option.some.inj hmember]
        · cases hmember
      rw [ih hrest, List.map_cons]

theorem evaluate_lined :
    (pythonEngine.evaluate "/a.py/PythonFile()/*" (.directory [])).run lined.workspace =
      (.ok ([statementAt 0 "p", statementAt 1 "q"].map fun node => .text (.member node)),
        viewed) := by
  have hfound : (((pythonEngine.evaluate "/a.py/PythonFile()/*" (.directory [])).run
      lined.workspace).1.toOption.bind fun nodes => nodes.mapM asMember?) =
        some [statementAt 0 "p", statementAt 1 "q"] := by decide +kernel
  obtain ⟨nodes, hnodes, hmembers⟩ := Option.bind_eq_some_iff.1 hfound
  rw [eq_of_asMember? hmembers] at hnodes
  exact run_eq_of_toOption hnodes

theorem span?_viewed : [statementAt 0 "p", statementAt 1 "q"].map viewed.span? =
    [(⟨0, 1⟩ : Span), ⟨2, 3⟩].map some := by decide +kernel

theorem separate_lines : Text.Separate [⟨0, 1⟩, ⟨2, 3⟩] :=
  ⟨by decide, by decide⟩

/-- The case of two statements, each of which stays a statement on its line. -/
theorem visitMatches_of_reached_lined :
    ∃ later, (pythonEngine.visitMatches "/a.py/PythonFile()/*" (.directory [])
        (Act.rewrite "z")).run lined.workspace = (.ok ([(), ()], none), later) ∧
      later.content ["a.py"] = "z\nz\n" ∧
      Text.Replaced "p\nq\n" [⟨⟨0, 1⟩, "z"⟩, ⟨⟨2, 3⟩, "z"⟩] "z\nz\n" := by
  have within : ∀ node ∈ [statementAt 0 "p", statementAt 1 "q"], node.file = ["a.py"] := by
    decide
  have hrun := run_eq_of_toOption (a := pythonEngine.visitMatches "/a.py/PythonFile()/*"
    (.directory []) (Act.rewrite "z")) (w := lined.workspace) (x := ([(), ()], none))
    (by decide +kernel)
  have hcontent : ((pythonEngine.visitMatches "/a.py/PythonFile()/*" (.directory [])
      (Act.rewrite "z")).run lined.workspace).2.content ["a.py"] = "z\nz\n" := by
    decide +kernel
  obtain ⟨-, -, picks, hrew, -, hreplaced⟩ := visitMatches_of_reached reached_lined
    (fun _ => by decide) List.mem_cons_self evaluate_lined within span?_viewed separate_lines
    hrun
  have hsecond : ((Act.update (.member (statementAt 0 "p")) "z").run viewed).2.span?
      (statementAt 1 "q") = some ⟨2, 3⟩ := by decide +kernel
  have hpicks : picks.tail = [⟨2, 3⟩] := by
    cases hrew with
    | @cons _ v _ _ first _ rest _ hupdate _ hrest =>
        rw [hupdate] at hsecond
        cases hrest with
        | @cons _ _ _ _ second _ rest hspan _ _ hrest =>
            cases hrest
            rw [List.tail_cons, Option.some.inj (hspan.symm.trans hsecond)]
  rw [hcontent] at hreplaced
  exact ⟨_, hrun, hcontent, hreplaced hpicks⟩

/-- Two statements written to the first: the address of the second is then that of the second of
these, and the statement that was found is left as it is. -/
theorem statements_renumbered :
    Reached (fun _ => 0) lined ∧
      (pythonEngine.evaluate "/a.py/PythonFile()/*" (.directory [])).run lined.workspace =
        (.ok ([statementAt 0 "p", statementAt 1 "q"].map fun node => .text (.member node)),
          viewed) ∧
      [statementAt 0 "p", statementAt 1 "q"].map viewed.span? =
        [(⟨0, 1⟩ : Span), ⟨2, 3⟩].map some ∧
      Text.Separate [⟨0, 1⟩, ⟨2, 3⟩] ∧
      ∃ later, (pythonEngine.visitMatches "/a.py/PythonFile()/*" (.directory [])
          (Act.rewrite "a\nb")).run lined.workspace = (.ok ([(), ()], none), later) ∧
        lined.workspace.content ["a.py"] = "p\nq\n" ∧
        later.content ["a.py"] = "a\na\nb\nq\n" ∧
        ¬ Text.Replaced "p\nq\n" [⟨⟨0, 1⟩, "a\nb"⟩, ⟨⟨2, 3⟩, "a\nb"⟩] "a\na\nb\nq\n" := by
  have hrun := run_eq_of_toOption (a := pythonEngine.visitMatches "/a.py/PythonFile()/*"
    (.directory []) (Act.rewrite "a\nb")) (w := lined.workspace) (x := ([(), ()], none))
    (by decide +kernel)
  refine ⟨reached_lined, evaluate_lined, span?_viewed, separate_lines, _, hrun, rfl,
    by decide +kernel, fun replaced => ?_⟩
  have second : Text.ReplacedFrom 1 ['\n', 'q', '\n'] [⟨⟨2, 3⟩, "a\nb"⟩]
      ['\n', 'a', '\n', 'b', '\n'] :=
    @Text.ReplacedFrom.piece 1 ['\n'] ['q'] ['\n'] ['\n'] ⟨2, 3⟩ "a\nb" [] rfl rfl
      (.kept 3 ['\n'])
  have atOnce : Text.Replaced "p\nq\n" [⟨⟨0, 1⟩, "a\nb"⟩, ⟨⟨2, 3⟩, "a\nb"⟩]
      "a\nb\na\nb\n" :=
    ⟨_, .refl _, @Text.ReplacedFrom.piece 0 [] ['p'] _ _ ⟨0, 1⟩ "a\nb" _ rfl rfl second⟩
  exact absurd (replaced.unique atOnce (by decide)) (by decide)

end Session

end TreeQuery
