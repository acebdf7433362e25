/-
What an update does to the texts.

A node may stand in a file in many ways: as the file itself, as a member of its view, as an
occurrence or binding of a microgrammar in the text of another node, which again may be any of
these. The edit passes through all of them, and each may refuse it. In the end either no
document has changed, or one has: in the file the node stands in, the text the node had has
given way to the new one, and all around it is as it was.
-/
import TreeQuery.Proofs.Session.Basic

namespace TreeQuery.Session

open Generation (toNat_next)

variable {grammars : Grammars} {changes : ProjectPath → Nat} {s : Session grammars}

/-- What remains of the project after an update: all of it if the update fails or the text is the
old one, else all but the owner's document, in which the old text has been replaced. -/
theorem update_of_reached (hr : Reached changes s) (few : ∀ file, changes file + 1 < UInt64.size)
    {node : TextNode} (held : .text node ∈ s.held) (text : String)
    {before : Workspace grammars}
    (hb : before = s.workspace ∨ before = (s.workspace.value node).2) :
    match (Act.update node text).run before with
    | (.error _, after) => after.project = s.workspace.project
    | (.ok (), after) =>
      if text = (s.workspace.value node).1 then after.project = s.workspace.project
      else (∃ left right,
          s.workspace.content node.owner = left ++ (s.workspace.value node).1 ++ right ∧
          after.content node.owner = left ++ text ++ right) ∧
        (after.document node.owner).generation.toNat =
          (s.workspace.document node.owner).generation.toNat + 1 ∧
        (after.document node.owner).dirty = true ∧
        after.project.name = s.workspace.project.name ∧
        after.project.paths = s.workspace.project.paths ∧
        ∀ file, file ≠ node.owner →
          after.project.document? file = s.workspace.project.document? file := by
  have hs := sound_of_reached hr fun file => Nat.lt_of_succ_lt (few file)
  have hexists : (s.workspace.project.document? node.owner).isSome := (hs.known _ held).1
  have hproject : before.project = s.workspace.project := by
    rcases hb with rfl | rfl
    · rfl
    · exact (s.workspace.value_fields node).1
  have hvalue : (before.value node).1 = (s.workspace.value node).1 := by
    rcases hb with rfl | rfl
    · rfl
    · exact s.workspace.value_value node
  have hsplice := Act.spliced_update node text before
  rw [hvalue] at hsplice
  generalize (Act.update node text).run before = outcome at hsplice ⊢
  obtain ⟨result, after⟩ := outcome
  cases result with
  | error e => exact Eq.trans hsplice hproject
  | ok _ =>
      rcases hsplice with ⟨hsame, hp⟩ | ⟨hne, left, right, hcontent, hp⟩
      · simp only [hsame, if_true]
        exact Eq.trans hp hproject
      · simp only [if_neg hne]
        have hcontent : s.workspace.content node.owner =
            left ++ (s.workspace.value node).1 ++ right := by
          rw [← hcontent, Workspace.content_of_project hproject]
        have hp : after.project = s.workspace.project.setDocument node.owner
            ((s.workspace.document node.owner).written (left ++ text ++ right)) := by
          have hp : after.project = _ := hp
          rw [hp, Workspace.document_of_project hproject, hproject]
        have hdoc := Workspace.document_of_setDocument hexists hp
        refine ⟨⟨left, right, hcontent, ?_⟩, ?_, ?_, ?_, ?_, fun file hf => ?_⟩
        · show (after.document node.owner).content = _
          rw [hdoc]
          rfl
        · rw [hdoc]
          refine toNat_next ?_
          rw [hs.counted]
          exact few node.owner
        · rw [hdoc]
          rfl
        · rw [hp]
          rfl
        · rw [hp, Project.paths_setDocument]
        · rw [hp, Project.document?_setDocument, if_neg hf]

/-- The case of a letter in a file. -/
theorem update_of_reached_scanned :
    match (Act.update (letterAt 1) "ccc").run scanned.workspace with
    | (.error _, after) => after.project = scanned.workspace.project
    | (.ok (), after) =>
      if "ccc" = (scanned.workspace.value (letterAt 1)).1 then
        after.project = scanned.workspace.project
      else (∃ left right, scanned.workspace.content (letterAt 1).owner =
            left ++ (scanned.workspace.value (letterAt 1)).1 ++ right ∧
          after.content (letterAt 1).owner = left ++ "ccc" ++ right) ∧
        (after.document (letterAt 1).owner).generation.toNat =
          (scanned.workspace.document (letterAt 1).owner).generation.toNat + 1 ∧
        (after.document (letterAt 1).owner).dirty = true ∧
        after.project.name = scanned.workspace.project.name ∧
        after.project.paths = scanned.workspace.project.paths ∧
        ∀ file, file ≠ (letterAt 1).owner →
          after.project.document? file = scanned.workspace.project.document? file :=
  have held : .text (letterAt 1) ∈ scanned.held := by
    rw [held_scanned]
    simp
  update_of_reached reached_scanned (fun _ => by decide) held "ccc" (.inl rfl)

end TreeQuery.Session
