/-
What is wrong with a grammar that is not compiled.

A text is made of tokens exactly if a name follows each of its dollar signs: reading stops at no
other place, and no token can be made of such a sign (`exists_tokenized_iff`). A grammar that is
made of tokens is compiled unless two of its bindings have the same name, or one of its two patterns
is none. So whether a grammar is compiled can be told from what it is made of
(`compile_eq_error_iff`). That it holds nothing at all is a fault of its own, and found in grammars
of white space alone (`isBlank_of_emptyGrammar`).
-/
import TreeQuery.Proofs.Microgrammar.Pattern

namespace TreeQuery.Microgrammar

open Text (Ends ends_nil)

variable {offset e : Nat} {ahead piece : List Char} {tokens : List Token} {c : Char}

-- ==================================================== signs without names

/-- The text holds a dollar sign that no name follows. -/
def Dangling (text : List Char) : Prop :=
  ∃ before after, text = before ++ '$' :: after ∧ Ends isBindingStart after

theorem not_dangling_nil : ¬Dangling [] := by
  rintro ⟨before, after, he, -⟩
  simp at he

/-- The sign is the first character, or comes later. -/
theorem dangling_cons_iff :
    Dangling (c :: ahead) ↔ (c = '$' ∧ Ends isBindingStart ahead) ∨ Dangling ahead := by
  constructor
  · rintro ⟨before, after, he, hends⟩
    cases before with
    | nil =>
        obtain ⟨rfl, rfl⟩ := List.cons.inj he
        exact .inl ⟨rfl, hends⟩
    | cons d before =>
        obtain ⟨rfl, rfl⟩ := List.cons.inj he
        exact .inr ⟨before, after, rfl, hends⟩
  · rintro (⟨rfl, hends⟩ | ⟨before, after, rfl, hends⟩)
    · exact ⟨[], ahead, rfl, hends⟩
    · exact ⟨c :: before, after, rfl, hends⟩

/-- Nothing dangles in a piece that holds no such sign. -/
theorem dangling_append_iff (plain : ∀ c ∈ piece, c ≠ '$') :
    Dangling (piece ++ ahead) ↔ Dangling ahead := by
  induction piece with
  | nil => exact Iff.rfl
  | cons c piece ih =>
      obtain ⟨hc, plain⟩ := List.forall_mem_cons.1 plain
      rw [List.cons_append, dangling_cons_iff, ih plain]
      exact or_iff_right fun h => hc h.1

theorem ne_dollar_of_isBindingPart (h : isBindingPart c = true) : c ≠ '$' := by
  rintro rfl
  exact absurd h (by decide)

theorem ne_dollar_of_isWhitespace (h : Unicode.isWhitespace c = true) : c ≠ '$' := by
  rintro rfl
  rw [isWhitespace_dollar] at h
  cases h

theorem dangling_binding_iff {more : List Char} (hc : isBindingStart c = true)
    (hmore : ∀ d ∈ more, isBindingPart d = true) :
    Dangling ('$' :: c :: more ++ ahead) ↔ Dangling ahead := by
  have hname : ∀ d ∈ c :: more, d ≠ '$' := List.forall_mem_cons.2
    ⟨ne_dollar_of_isBindingPart (isBindingPart_of_isBindingStart hc),
      fun d hd => ne_dollar_of_isBindingPart (hmore d hd)⟩
  rw [List.cons_append, dangling_cons_iff, dangling_append_iff hname]
  refine or_iff_right fun h => ?_
  have hstart := h.2.of_cons
  rw [hc] at hstart
  cases hstart

-- ============================================================== tokens

/-- Nothing dangles in a text that is made of tokens. -/
theorem Tokenized.not_dangling (h : Tokenized ahead tokens) : ¬Dangling ahead := by
  induction h with
  | nil => exact not_dangling_nil
  | space _ hrun _ _ ih =>
      rwa [dangling_append_iff fun c hc => ne_dollar_of_isWhitespace (hrun c hc)]
  | binding hc hmore _ _ ih => rwa [dangling_binding_iff hc hmore]
  | literal _ htext _ _ ih =>
      rwa [dangling_append_iff fun c hc => (isLiteral_iff.1 (htext c hc)).2]

theorem ends_of_splitBinding {left : List Char} (h : splitBinding ahead = ([], left)) :
    Ends isBindingStart ahead := by
  unfold splitBinding at h
  split at h
  · split at h
    · cases h
    · rename_i hstart
      exact Text.ends_cons (Bool.eq_false_iff.2 hstart)
  · exact ends_nil

/-- Reading stops at a dollar sign without a name, the first of them, and nowhere else. -/
theorem stops_of_tokensFrom (h : tokensFrom offset ahead = .error e) :
    ∃ before after, ahead = before ++ '$' :: after ∧ Ends isBindingStart after ∧
      ¬Dangling before ∧ e = offset + Text.byteLength before := by
  fun_induction tokensFrom offset ahead generalizing e with
  | case3 _ c rest hc =>
      rename_i hmore ih
      obtain rfl := Except.error.inj h
      obtain ⟨before, after, hrest, hends, hbefore, rfl⟩ := ih hmore
      have hrun : ∀ d ∈ c :: rest.takeWhile Unicode.isWhitespace, d ≠ '$' :=
        List.forall_mem_cons.2 ⟨ne_dollar_of_isWhitespace hc,
          fun d hd => ne_dollar_of_isWhitespace (List.mem_takeWhile_imp hd)⟩
      refine ⟨c :: rest.takeWhile Unicode.isWhitespace ++ before, after, ?_, hends, ?_, ?_⟩
      · rw [List.append_assoc, ← hrest, List.cons_append, List.takeWhile_append_dropWhile]
      · rwa [dangling_append_iff hrun]
      · rw [Text.byteLength_append, Nat.add_assoc]
  | case4 _ rest _ hsplit =>
      obtain rfl := Except.error.inj h
      exact ⟨[], rest, rfl, ends_of_splitBinding hsplit, not_dangling_nil, rfl⟩
  | case6 _ rest name left nonempty hsplit _ hmore _ ih =>
      obtain rfl := Except.error.inj h
      cases name with
      | nil => exact absurd rfl nonempty
      | cons c more =>
          obtain ⟨rfl, hc, hname, -⟩ := splitBinding_eq_cons hsplit
          obtain ⟨before, after, rfl, hends, hbefore, rfl⟩ := ih hmore
          refine ⟨'$' :: c :: more ++ before, after, ?_, hends, ?_, ?_⟩
          · rw [List.append_assoc]
            rfl
          · rwa [dangling_binding_iff hc hname]
          · rw [Text.byteLength_append, Nat.add_assoc, Nat.add_assoc, ← Nat.add_assoc 1]
            rfl
  | case8 _ c rest _ hdollar _ hmore ih =>
      obtain rfl := Except.error.inj h
      obtain ⟨before, after, rfl, hends, hbefore, rfl⟩ := ih hmore
      refine ⟨c :: before, after, rfl, hends, ?_, Nat.add_assoc _ _ _⟩
      rw [dangling_cons_iff]
      exact not_or.2 ⟨fun hsign => hdollar hsign.1, hbefore⟩
  | case1 => cases h
  | case2 => cases h
  | case5 => cases h
  | case7 => cases h

theorem dangling_of_tokensFrom (h : tokensFrom offset ahead = .error e) : Dangling ahead := by
  obtain ⟨before, after, hahead, hends, -⟩ := stops_of_tokensFrom h
  exact ⟨before, after, hahead, hends⟩

/-- A text is made of tokens if nothing in it dangles. -/
theorem exists_tokenized_iff : (∃ tokens, Tokenized ahead tokens) ↔ ¬Dangling ahead := by
  constructor
  · rintro ⟨tokens, h⟩
    exact h.not_dangling
  · intro h
    cases hread : tokensFrom 0 ahead with
    | ok tokens => exact ⟨tokens, tokenized_of_tokensFrom hread⟩
    | error e => exact absurd (dangling_of_tokensFrom hread) h

-- ================================================================ blank

theorem trim_eq_nil_iff {text : List Char} : Text.trim text = [] ↔ Text.isBlank text = true := by
  have hstart : Text.trimStart text = [] ↔ ∀ c ∈ text, Unicode.isWhitespace c = true :=
    List.dropWhile_eq_nil_iff
  unfold Text.trim Text.isBlank
  rw [List.reverse_eq_nil_iff, List.all_eq_true, ← hstart]
  constructor
  · intro h
    have hall : ∀ c ∈ (Text.trimStart text).reverse, Unicode.isWhitespace c = true :=
      List.dropWhile_eq_nil_iff.1 h
    cases hrest : Text.trimStart text with
    | nil => rfl
    | cons c rest =>
        -- What is left would start with white space, of which the start has been cut off.
        have hends : Ends Unicode.isWhitespace (c :: rest) := by
          rw [← hrest]
          exact Text.ends_dropWhile _ _
        have hspace := hall c (by rw [hrest]; simp)
        rw [hends.of_cons] at hspace
        cases hspace
  · intro h
    rw [h]
    rfl

/-- A text made of no tokens is empty. -/
theorem tokenized_nil_iff : Tokenized ahead [] ↔ ahead = [] := by
  constructor
  · intro h
    cases h
    rfl
  · rintro rfl
    exact .nil

-- ========================================================== compilation

variable [Regex.Reader] {name grammar : String} {submatchers : List (String × String)}

/-- A pattern that can be read, both within a text and for a text as a whole. -/
structure Readable (pattern : List Char) : Prop where
  inner : (Regex.Reader.read? (String.ofList pattern)).isSome
  whole : (Regex.Reader.read? (String.ofList ("^(?:".toList ++ pattern ++ ")$".toList))).isSome

/-- What can be wrong with a grammar that holds something. -/
inductive Faulty (grammar : String) (submatchers : List (String × String)) : Prop
  /-- A dollar sign has no name. -/
  | dangling : Dangling (Text.trim grammar.toList) → Faulty grammar submatchers
  /-- Two bindings have the same name. -/
  | repeated {tokens : List Token} : Tokenized (Text.trim grammar.toList) tokens →
      ¬(bindingsOf tokens).Nodup → Faulty grammar submatchers
  /-- The pattern is none, or not one that a text can be matched with as a whole. -/
  | unreadable {tokens : List Token} : Tokenized (Text.trim grammar.toList) tokens →
      ¬Readable (patternFrom (sortSubmatchers submatchers) none tokens) →
      Faulty grammar submatchers

/-- A compiled grammar has none of these faults. -/
theorem not_faulty_of_compile {compiled : Microgrammar}
    (h : compile name grammar submatchers = .ok compiled) : ¬Faulty grammar submatchers := by
  obtain ⟨tokens, inner, whole, -, htokens, hrepeated, hinner, hwhole, -⟩ := compiled_of_compile h
  intro hfaulty
  cases hfaulty with
  | dangling hdangling => exact htokens.not_dangling hdangling
  | repeated hothers hnodup =>
      obtain rfl := htokens.unique hothers
      exact hnodup (nodup_of_firstRepeated? hrepeated).1
  | unreadable hothers hpattern =>
      obtain rfl := htokens.unique hothers
      exact hpattern ⟨Option.isSome_iff_exists.2 ⟨inner, hinner⟩,
        Option.isSome_iff_exists.2 ⟨whole, hwhole⟩⟩

/-- A grammar that holds something and has none of these faults is compiled. -/
theorem exists_compile_of_not_faulty (name : String) (filled : Text.isBlank grammar.toList = false)
    (h : ¬Faulty grammar submatchers) :
    ∃ compiled, compile name grammar submatchers = .ok compiled := by
  obtain ⟨tokens, htokens⟩ := exists_tokenized_iff.2 fun hd => h (.dangling hd)
  have nonempty : tokens ≠ [] := by
    rintro rfl
    rw [tokenized_nil_iff, trim_eq_nil_iff, filled] at htokens
    cases htokens
  have distinct : (bindingsOf tokens).Nodup := by
    by_contra hnot
    exact h (.repeated htokens hnot)
  have readable : Readable (patternFrom (sortSubmatchers submatchers) none tokens) := by
    by_contra hnot
    exact h (.unreadable htokens hnot)
  obtain ⟨inner, hinner⟩ := Option.isSome_iff_exists.1 readable.inner
  obtain ⟨whole, hwhole⟩ := Option.isSome_iff_exists.1 readable.whole
  exact ⟨_, compile_of_parsed name nonempty htokens distinct hinner hwhole⟩

/-- A grammar that holds something is compiled unless it has one of these faults. -/
theorem compile_eq_error_iff (filled : Text.isBlank grammar.toList = false) :
    (∃ e, compile name grammar submatchers = .error e) ↔ Faulty grammar submatchers := by
  constructor
  · rintro ⟨e, he⟩
    by_contra hnot
    obtain ⟨compiled, hcompiled⟩ := exists_compile_of_not_faulty name filled hnot
    rw [hcompiled] at he
    cases he
  · intro hfaulty
    cases hcompiled : compile name grammar submatchers with
    | error e => exact ⟨e, rfl⟩
    | ok compiled => exact absurd hfaulty (not_faulty_of_compile hcompiled)

/-- Only white space is taken for a grammar that holds nothing. -/
theorem isBlank_of_emptyGrammar {other : String}
    (h : compile name grammar submatchers = .error (.emptyGrammar other)) :
    Text.isBlank grammar.toList = true := by
  unfold compile at h
  dsimp only at h
  split at h
  · cases h
  · rename_i htokens
    rw [← trim_eq_nil_iff, ← tokenized_nil_iff]
    exact tokenized_of_tokensFrom htokens
  · split at h
    · cases h
    · split at h
      · cases h
      · cases h

end TreeQuery.Microgrammar
