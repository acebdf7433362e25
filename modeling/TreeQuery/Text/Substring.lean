/-
Search and replacement of a fixed text. Occurrences are taken from the left and do not
overlap.
-/

namespace TreeQuery.Text

/-- What follows `lead` at the start of the text, if the text starts with it. -/
def afterLead? : (lead text : List Char) → Option (List Char)
  | [], text => some text
  | _ :: _, [] => none
  | c :: lead, d :: text => if c = d then afterLead? lead text else none

theorem afterLead?_eq_some {lead text rest : List Char} (h : afterLead? lead text = some rest) :
    text = lead ++ rest := by
  fun_induction afterLead? lead text with
  | case1 => simp_all
  | case2 => simp at h
  | case3 => simp_all
  | case4 => simp at h

/-- Whether `needle` occurs in the text. -/
def contains (needle : List Char) : List Char → Bool
  | [] => needle.isEmpty
  | c :: text => (afterLead? needle (c :: text)).isSome || contains needle text

/-- The text with every occurrence of a non-empty `old` replaced by `new`, and how many
occurrences there were. An empty `old` occurs nowhere. -/
def replaceCount (old new : List Char) (text : List Char) : List Char × Nat :=
  match old with
  | [] => (text, 0)
  | o :: old' => go o old' text
where
  /-- Replaces from the start of `text` on. -/
  go (o : Char) (old' : List Char) (text : List Char) : List Char × Nat :=
    match text with
    | [] => ([], 0)
    | c :: text' =>
      match _found : afterLead? (o :: old') (c :: text') with
      | some rest =>
        let (done, n) := go o old' rest
        (new ++ done, n + 1)
      | none =>
        let (done, n) := go o old' text'
        (c :: done, n)
  termination_by text.length
  decreasing_by
    · have := congrArg List.length (afterLead?_eq_some _found)
      simp at this ⊢
      omega
    · simp

end TreeQuery.Text
