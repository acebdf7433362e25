/-
The names a compiled grammar binds are words.

A binding is read as a dollar sign and the longest word after it, which is not empty, so the names
that an occurrence captures consist of letters, digits and underscores and are not empty.
-/
import TreeQuery.Microgrammar.Basic
import TreeQuery.Proofs.Microgrammar.Tokens

namespace TreeQuery.Microgrammar

open Text (Span)

/-- The name of a binding. -/
def IsWord (name : List Char) : Prop := name ≠ [] ∧ ∀ c ∈ name, isBindingPart c = true

theorem isBindingPart_of_isBindingStart {c : Char} (h : isBindingStart c = true) :
    isBindingPart c = true := by
  unfold isBindingStart at h
  unfold isBindingPart Char.isAlphanum
  rcases Bool.or_eq_true_iff.1 h with halpha | hunderscore
  · rw [halpha]
    rfl
  · rw [hunderscore, Bool.or_true]

theorem Tokenized.isWord {ahead : List Char} {tokens : List Token} (h : Tokenized ahead tokens)
    {name : List Char} (hn : Token.binding name ∈ tokens) : IsWord name := by
  obtain ⟨c, more, rfl, hc, hmore⟩ := h.exists_name hn
  exact ⟨List.cons_ne_nil _ _,
    List.forall_mem_cons.2 ⟨isBindingPart_of_isBindingStart hc, hmore⟩⟩

/-- What a compiled grammar is made from. -/
theorem compiled_of_compile [Regex.Reader] {name text : String}
    {submatchers : List (String × String)} {grammar : Microgrammar}
    (h : compile name text submatchers = .ok grammar) :
    ∃ tokens inner whole, tokens ≠ [] ∧ Tokenized (Text.trim text.toList) tokens ∧
      firstRepeated? [] (bindingsOf tokens) = none ∧
      Regex.Reader.read? (String.ofList (patternFrom (sortSubmatchers submatchers) none tokens)) =
        some inner ∧
      Regex.Reader.read? (String.ofList ("^(?:".toList ++
        patternFrom (sortSubmatchers submatchers) none tokens ++ ")$".toList)) = some whole ∧
      grammar = { name, grammar := text, submatchers := sortSubmatchers submatchers,
                  bindings := bindingsOf tokens, inner, whole } := by
  unfold compile at h
  dsimp only at h
  split at h
  · cases h
  · cases h
  · rename_i tokens nonempty htokens
    split at h
    · cases h
    · rename_i hdistinct
      split at h
      · rename_i inner whole hinner hwhole
        exact ⟨tokens, inner, whole, nonempty, tokenized_of_tokensFrom htokens, hdistinct, hinner,
          hwhole, (Except.ok.inj h).symm⟩
      · cases h

theorem name_of_compile [Regex.Reader] {name text : String} {submatchers : List (String × String)}
    {grammar : Microgrammar} (h : compile name text submatchers = .ok grammar) :
    grammar.name = name := by
  obtain ⟨tokens, inner, whole, -, -, -, -, -, rfl⟩ := compiled_of_compile h
  rfl

/-- The same, of the parts of the grammar. -/
theorem compile_eq_ok {name text : String} {submatchers : List (String × String)}
    {grammar : Microgrammar} (h : compile name text submatchers = .ok grammar) :
    ∃ tokens, tokens ≠ [] ∧ Tokenized (Text.trim text.toList) tokens ∧
      firstRepeated? [] (bindingsOf tokens) = none ∧ grammar.grammar = text ∧
      grammar.bindings = bindingsOf tokens ∧
      Regex.parse? (String.ofList (patternFrom grammar.submatchers none tokens)) =
        some grammar.inner ∧
      Regex.parse? (String.ofList ("^(?:".toList ++
        patternFrom grammar.submatchers none tokens ++ ")$".toList)) = some grammar.whole := by
  obtain ⟨tokens, inner, whole, nonempty, htokens, hdistinct, hinner, hwhole, rfl⟩ :=
    compiled_of_compile h
  exact ⟨tokens, nonempty, htokens, hdistinct, rfl, rfl, hinner, hwhole⟩

/-- What a compiled grammar binds. -/
theorem isWord_of_compile {name text : String} {submatchers : List (String × String)}
    {grammar : Microgrammar} (h : compile name text submatchers = .ok grammar) :
    ∀ binding ∈ grammar.bindings, IsWord binding.toList := by
  obtain ⟨tokens, -, htokens, -, -, hbindings, -⟩ := compile_eq_ok h
  intro binding hb
  rw [hbindings] at hb
  obtain ⟨token, htoken, he⟩ := List.mem_filterMap.1 hb
  match token, he with
  | .binding word, he =>
      obtain rfl := Option.some.inj he
      rw [String.toList_ofList]
      exact htokens.isWord htoken

/-- An occurrence captures some of what its grammar binds. -/
theorem mem_bindings_of_mem_captures {grammar : Microgrammar} {text : String} {seen : Occurrence}
    (hs : seen ∈ grammar.scan text) {capture : String × Span} (hc : capture ∈ seen.captures) :
    capture.1 ∈ grammar.bindings := by
  obtain ⟨found, -, rfl⟩ := List.mem_map.1 hs
  obtain ⟨binding, hb, hgroup⟩ := List.mem_filterMap.1 hc
  obtain ⟨places, -, rfl⟩ := Option.map_eq_some_iff.1 hgroup
  exact hb

/-- The names captured by an occurrence of a compiled grammar are words. -/
theorem isWord_of_mem_captures {name written text : String} {submatchers : List (String × String)}
    {grammar : Microgrammar} (h : compile name written submatchers = .ok grammar)
    {seen : Occurrence} (hs : seen ∈ grammar.scan text) {capture : String × Span}
    (hc : capture ∈ seen.captures) : IsWord capture.1.toList :=
  isWord_of_compile h _ (mem_bindings_of_mem_captures hs hc)

end TreeQuery.Microgrammar
