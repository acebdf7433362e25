/-
The tokens of a text, told by what they are and not by how they are found.

A text falls into runs of white space, bindings and literal text between these, each as long as
it can be (`Tokenized`). There is one way at most in which it does, for it is the one in which
the text is read (`tokensFrom_eq_ok_iff`).
-/
import Mathlib.Data.List.TakeWhile
import TreeQuery.Microgrammar.Token
import TreeQuery.Proofs.Text.Unmixed

namespace TreeQuery.Microgrammar

open Text (Ends ends_nil ends_cons ends_run not_ends_run takeWhile_run dropWhile_run ends_dropWhile)
open Unicode (isWhitespace)

/-- Whether the character stands for itself in a grammar. -/
def isLiteral (c : Char) : Bool := !isWhitespace c && c != '$'

/-- The text is made of the tokens, each of which ends only where it has to. -/
inductive Tokenized : List Char → List Token → Prop
  | nil : Tokenized [] []
  | space {run ahead : List Char} {tokens : List Token} :
      run ≠ [] → (∀ c ∈ run, isWhitespace c = true) → Ends isWhitespace ahead →
      Tokenized ahead tokens → Tokenized (run ++ ahead) (.space run :: tokens)
  | binding {c : Char} {more ahead : List Char} {tokens : List Token} :
      isBindingStart c = true → (∀ d ∈ more, isBindingPart d = true) → Ends isBindingPart ahead →
      Tokenized ahead tokens →
      Tokenized ('$' :: c :: more ++ ahead) (.binding (c :: more) :: tokens)
  | literal {text ahead : List Char} {tokens : List Token} :
      text ≠ [] → (∀ c ∈ text, isLiteral c = true) → Ends isLiteral ahead →
      Tokenized ahead tokens → Tokenized (text ++ ahead) (.literal text :: tokens)

variable {offset : Nat} {ahead : List Char} {tokens : List Token}

theorem isLiteral_iff {c : Char} : isLiteral c = true ↔ isWhitespace c = false ∧ c ≠ '$' := by
  unfold isLiteral
  rw [Bool.and_eq_true, Bool.not_eq_true', bne_iff_ne]

theorem isWhitespace_dollar : isWhitespace '$' = false := by decide

/-- A text whose first token is not literal does not start with literal text. -/
theorem Tokenized.ends_literal (h : Tokenized ahead tokens)
    (other : ∀ text rest, tokens ≠ .literal text :: rest) : Ends isLiteral ahead := by
  cases h with
  | nil => exact ends_nil
  | space nonempty hrun _ _ => exact ends_run nonempty fun c hc => by simp [isLiteral, hrun c hc]
  | binding _ _ _ _ => exact ends_cons (by decide)
  | @literal text _ rest _ _ _ _ => exact absurd rfl (other text rest)

/-- A literal token ends where no literal text follows. -/
theorem Tokenized.not_literal (h : Tokenized ahead tokens) (ends : Ends isLiteral ahead)
    (text : List Char) (rest : List Token) : tokens ≠ .literal text :: rest := by
  rintro rfl
  cases h with
  | literal nonempty htext _ _ => exact not_ends_run nonempty htext ends

theorem consLiteral_of_not_literal {c : Char} (h : ∀ text rest, tokens ≠ .literal text :: rest) :
    consLiteral c tokens = .literal [c] :: tokens := by
  unfold consLiteral
  split
  · exact absurd rfl (h _ _)
  · rfl

/-- A literal character goes to the literal text after it, or stands alone. -/
theorem Tokenized.consLiteral {c : Char} (hc : isLiteral c = true) (h : Tokenized ahead tokens) :
    Tokenized (c :: ahead) (consLiteral c tokens) := by
  by_cases hliteral : ∃ text rest, tokens = .literal text :: rest
  · obtain ⟨text, rest, rfl⟩ := hliteral
    cases h with
    | literal _ htext hends hrest =>
        exact .literal (List.cons_ne_nil _ _) (List.forall_mem_cons.2 ⟨hc, htext⟩) hends hrest
  · have hother : ∀ text rest, tokens ≠ .literal text :: rest :=
      fun text rest he => hliteral ⟨text, rest, he⟩
    rw [consLiteral_of_not_literal hother]
    exact .literal (List.cons_ne_nil _ _) (List.forall_mem_singleton.2 hc) (h.ends_literal hother) h

theorem splitBinding_eq_cons {c : Char} {more left : List Char}
    (h : splitBinding ahead = (c :: more, left)) :
    ahead = c :: more ++ left ∧ isBindingStart c = true ∧
      (∀ d ∈ more, isBindingPart d = true) ∧ Ends isBindingPart left := by
  unfold splitBinding at h
  split at h
  · rename_i d rest
    split at h
    · rename_i hstart
      obtain ⟨he, rfl⟩ := Prod.mk.inj h
      obtain ⟨rfl, rfl⟩ := List.cons.inj he
      refine ⟨?_, hstart, fun e he => List.mem_takeWhile_imp he, ends_dropWhile _ _⟩
      rw [List.cons_append, List.takeWhile_append_dropWhile]
    · cases h
  · cases h

/-- What is read from a text are its tokens. -/
theorem tokenized_of_tokensFrom (h : tokensFrom offset ahead = .ok tokens) :
    Tokenized ahead tokens := by
  fun_induction tokensFrom offset ahead generalizing tokens with
  | case1 =>
      obtain rfl := Except.ok.inj h
      exact .nil
  | case2 _ c rest hc =>
      rename_i hmore ih
      obtain rfl := Except.ok.inj h
      have hsplit : c :: rest =
          c :: rest.takeWhile isWhitespace ++ rest.dropWhile isWhitespace := by
        rw [List.cons_append, List.takeWhile_append_dropWhile]
      rw [hsplit]
      exact .space (List.cons_ne_nil _ _)
        (List.forall_mem_cons.2 ⟨hc, fun d hd => List.mem_takeWhile_imp hd⟩)
        (ends_dropWhile _ _) (ih hmore)
  | case5 _ rest name left nonempty hsplit _ hmore _ ih =>
      obtain rfl := Except.ok.inj h
      cases name with
      | nil => exact absurd rfl nonempty
      | cons c more =>
          obtain ⟨rfl, hc, hname, hends⟩ := splitBinding_eq_cons hsplit
          exact .binding hc hname hends (ih hmore)
  | case7 _ c rest hspace hdollar _ hmore ih =>
      obtain rfl := Except.ok.inj h
      exact (ih hmore).consLiteral (isLiteral_iff.2 ⟨Bool.eq_false_iff.2 hspace, hdollar⟩)
  | case3 => cases h
  | case4 => cases h
  | case6 => cases h
  | case8 => cases h

theorem tokensFrom_literal {text : List Char} (nonempty : text ≠ [])
    (htext : ∀ c ∈ text, isLiteral c = true) (other : ∀ text rest, tokens ≠ .literal text :: rest)
    (h : ∀ offset, tokensFrom offset ahead = .ok tokens) :
    tokensFrom offset (text ++ ahead) = .ok (.literal text :: tokens) := by
  induction text generalizing offset with
  | nil => exact absurd rfl nonempty
  | cons c text ih =>
      obtain ⟨hc, htext⟩ := List.forall_mem_cons.1 htext
      obtain ⟨hspace, hdollar⟩ := isLiteral_iff.1 hc
      rw [List.cons_append, tokensFrom, if_neg (Bool.eq_false_iff.1 hspace), if_neg hdollar]
      cases text with
      | nil =>
          rw [List.nil_append, h]
          exact congrArg Except.ok (consLiteral_of_not_literal other)
      | cons d text =>
          rw [ih (List.cons_ne_nil _ _) htext]
          rfl

/-- A text is read as its tokens, wherever it starts. -/
theorem Tokenized.tokensFrom_eq (h : Tokenized ahead tokens) (offset : Nat) :
    tokensFrom offset ahead = .ok tokens := by
  induction h generalizing offset with
  | nil => rw [tokensFrom]
  | @space run ahead tokens nonempty hrun hends _ ih =>
      cases run with
      | nil => exact absurd rfl nonempty
      | cons c run =>
          obtain ⟨hc, hrun⟩ := List.forall_mem_cons.1 hrun
          rw [List.cons_append, tokensFrom, if_pos hc, takeWhile_run hrun hends,
            dropWhile_run hrun hends]
          dsimp only
          rw [ih]
  | @binding c more ahead tokens hc hmore hends _ ih =>
      have hsplit : splitBinding (c :: (more ++ ahead)) = (c :: more, ahead) := by
        unfold splitBinding
        dsimp only
        rw [if_pos hc, takeWhile_run hmore hends, dropWhile_run hmore hends]
      rw [List.cons_append, List.cons_append, tokensFrom, isWhitespace_dollar,
        if_neg Bool.false_ne_true, if_pos rfl]
      split
      · rename_i hnone
        rw [hsplit] at hnone
        cases hnone
      · rename_i hname
        rw [hsplit] at hname
        obtain ⟨rfl, rfl⟩ := Prod.mk.inj hname
        rw [ih]
  | literal nonempty htext hends hrest ih =>
      exact tokensFrom_literal nonempty htext (hrest.not_literal hends) ih

/-- A text is read as its tokens, if it has any: they are told by what they are. -/
theorem tokensFrom_eq_ok_iff : tokensFrom offset ahead = .ok tokens ↔ Tokenized ahead tokens :=
  ⟨tokenized_of_tokensFrom, fun h => h.tokensFrom_eq offset⟩

/-- A text is made of tokens in one way only. -/
theorem Tokenized.unique {others : List Token} (h : Tokenized ahead tokens)
    (h' : Tokenized ahead others) : tokens = others :=
  Except.ok.inj ((h.tokensFrom_eq 0).symm.trans (h'.tokensFrom_eq 0))

/-- A binding has a name. -/
theorem Tokenized.exists_name (h : Tokenized ahead tokens) {name : List Char}
    (hn : Token.binding name ∈ tokens) : ∃ c more, name = c :: more ∧ isBindingStart c = true ∧
      ∀ d ∈ more, isBindingPart d = true := by
  induction h with
  | nil => cases hn
  | space _ _ _ _ ih => exact ih ((List.mem_cons.1 hn).resolve_left (by simp))
  | literal _ _ _ _ ih => exact ih ((List.mem_cons.1 hn).resolve_left (by simp))
  | @binding c more _ _ hc hmore _ _ ih =>
      rcases List.mem_cons.1 hn with he | hn
      · obtain rfl := Token.binding.inj he
        exact ⟨c, more, rfl, hc, hmore⟩
      · exact ih hn

end TreeQuery.Microgrammar
