/-
What a caller reads after writing.

Any node but a binding answers with the text it has just been given. A binding has been written
into an occurrence, and what it answers with depends on what the grammar makes of the text the
occurrence has now: it is captured anew, and may be captured elsewhere, or nowhere. So a caller
who renames a setting to a text with a blank in it finds the file changed as asked, and the
setting's name empty.
-/
import TreeQuery.Proofs.Session.Basic
import TreeQuery.Proofs.Workspace.Rereading

namespace TreeQuery.Session

open Text (Span)

variable {grammars : Grammars}

/-- What a node answers with right after an update that has succeeded, in any workspace that has
the node's file. -/
theorem value_after_update {w later : Workspace grammars} {node : TextNode} {text : String}
    (present : (w.project.document? node.owner).isSome)
    (hok : (Act.update node text).run w = (.ok (), later)) :
    match node with
    | .binding handle grammar _ _ born name =>
      ∃ span spliced, (w.found handle born).captures.lookup name = some span ∧
        Text.splice? (w.found handle born).text span text = some spliced ∧
        (later.value node).1 = (((grammar.parseExact spliced).bind (·.lookup name)).bind
          (Text.slice? spliced)).getD "" ∧
        ((grammar.parseExact spliced).bind (·.lookup name) =
            some ⟨span.start, span.start + text.utf8ByteSize⟩ →
          (later.value node).1 = text)
    | _ => (later.value node).1 = text := by
  cases node with
  | file path => exact Act.value_of_setContent present hok
  | member node => exact Act.value_of_updateMember present hok
  | occurrence handle grammar context index born =>
      obtain ⟨start, hfound⟩ := Act.found_of_updateOccurrence hok
      exact congrArg Occurrence.text hfound
  | binding handle grammar context index born name =>
      obtain ⟨span, spliced, hlookup, hsplice, hvalue⟩ := Act.value_of_updateBinding hok
      refine ⟨span, spliced, hlookup, hsplice, hvalue, fun captured => ?_⟩
      rw [hvalue, captured, Option.bind_some, Text.slice?_of_splice? hsplice, Option.getD_some]

-- ============================================================ a sample

/-- One or more of the characters of a word. -/
def wordPattern : Regex :=
  .many (.one [(45, 46), (48, 57), (65, 90), (95, 95), (97, 122)]) 1 none true

/-- The pattern of the grammar `$key=$value`. -/
def settingPattern : Regex :=
  .seq (.seq (.capture "key" wordPattern) (.one [(61, 61)])) (.capture "value" wordPattern)

/-- The grammar `$key=$value`. -/
def setting : Microgrammar where
  name := "Kv"
  grammar := "$key=$value"
  submatchers := []
  bindings := ["key", "value"]
  inner := settingPattern
  whole := .seq (.seq (.assertion .textStart) settingPattern) (.assertion .textEnd)

/-- The setting of the sample, as it is found. -/
def foundSetting : Occurrence := ⟨⟨0, 3⟩, "a=b", [("key", ⟨0, 1⟩), ("value", ⟨2, 3⟩)]⟩

/-- The occurrence of the setting. -/
def settingNode : TextNode := .occurrence 0 setting (.file ["a.txt"]) 0 foundSetting

/-- The key of the setting. -/
def keyNode : TextNode := .binding 0 setting (.file ["a.txt"]) 0 foundSetting "key"

/-- A session in which a file with a setting has been added. -/
def configured : Session blind := (start "p" .empty .empty).step (.addFile "a.txt" "a=b")

/-- A session in which the setting has been found. -/
def sighted : Session blind := configured.step (.find (.microgrammar setting) (.file ["a.txt"]))

/-- A session in which the setting has been taken apart. -/
def parted : Session blind := sighted.step (.children (.text settingNode))

theorem held_parted : parted.held = [.directory [], .file ["a.txt"], .text settingNode,
    .text keyNode, .text (.binding 0 setting (.file ["a.txt"]) 0 foundSetting "value")] := rfl

theorem reached_parted : Reached (fun _ => 0) parted := by
  have hconfigured : Reached (fun _ => 0) configured :=
    .still (.start _ _ _) _ (fun node hn => by cases hn) fun file => rfl
  have hsighted : Reached (fun _ => 0) sighted := by
    refine hconfigured.still _ (fun node hn => ?_) fun file => changed_of_project rfl
    obtain rfl := Option.mem_some_iff.1 hn
    exact List.mem_cons_of_mem _ List.mem_cons_self
  refine hsighted.still _ (fun node hn => ?_) fun file => changed_of_project rfl
  obtain rfl := Option.mem_some_iff.1 hn
  exact List.mem_cons_of_mem _ (List.mem_cons_of_mem _ List.mem_cons_self)

/-- The case of a key that the grammar captures again. -/
theorem value_after_update_key :
    ∃ later, (Act.update keyNode "z").run parted.workspace = (.ok (), later) ∧
      (later.value keyNode).1 = "z" := by
  have hrun : (Act.update keyNode "z").run parted.workspace =
      (.ok (), ((Act.update keyNode "z").run parted.workspace).2) := rfl
  obtain ⟨span, spliced, hlookup, hsplice, -, captured⟩ :=
    value_after_update (w := parted.workspace) rfl hrun
  obtain rfl : ⟨0, 1⟩ = span := Option.some.inj hlookup
  obtain rfl : "z=b" = spliced := Option.some.inj (Eq.trans rfl hsplice)
  exact ⟨_, hrun, captured rfl⟩

/-- With a blank in its key the setting is no setting any more: the update succeeds, and the key
answers with nothing. -/
theorem key_lost :
    Reached (fun _ => 0) parted ∧ .text keyNode ∈ parted.held ∧
      ∃ later, (Act.update keyNode "x y").run parted.workspace = (.ok (), later) ∧
        later.content ["a.txt"] = "x y=b" ∧ (later.value keyNode).1 = "" := by
  refine ⟨reached_parted, ?_, _, rfl, rfl, rfl⟩
  rw [held_parted]
  simp

end TreeQuery.Session
