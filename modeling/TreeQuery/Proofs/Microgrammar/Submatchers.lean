/-
What bindings with submatchers of their own capture.

A submatcher is put into the pattern of its grammar as it is written, in parentheses. Whether it
stays there is not checked: `a))|(?:(?:b` closes the group of its binding and opens another, so that
a grammar is accepted with it although it is no pattern by itself, and finds an occurrence that
captures nothing (`strays`).

If each submatcher stays in its group (`Regex.Contained`), the pattern of a grammar is what its
tokens are read as, one after the other, and a binding is a group around what its submatcher is by
itself (`read_patternFrom`). Then an occurrence falls into pieces, one for each token: literals as
they stand, white space, and for each binding what it captures (`pieces_of_contained`).
-/
import TreeQuery.Proofs.Microgrammar.Language
import TreeQuery.Proofs.Regex.Containing

namespace TreeQuery.Microgrammar

open Regex (Captures Contained Draft Match Matches Reads Stands chain named)
open Text (Span byteLength)

variable {submatchers : List (String × String)} {own : String → Regex} {before : Option Token}
  {tokens : List Token} {pieces : List (List Char)} {draft : Draft} {fuel : Nat}
  {left : List Char} {r : Regex × List String × List Char} {text : Array Char} {start stop : Nat}
  {captures : Captures}

-- ============================================================= reading

/-- The items a token is read as, if bindings match patterns of their own. -/
def Token.parts (own : String → Regex) (before after : Option Token) : Token → List Regex
  | .binding n => [.capture (String.ofList n) (own (String.ofList n))]
  | token => token.items before after

/-- The items tokens are read as, given the token before them. -/
def partsFrom (own : String → Regex) : Option Token → List Token → List Regex
  | _, [] => []
  | before, token :: rest =>
    token.parts own before rest.head? ++ partsFrom own (some token) rest

theorem readPattern_of_bindingPattern {c : Char} {more : List Char} (hc : isBindingStart c = true)
    (hmore : ∀ d ∈ more, isBindingPart d = true) {regex : Regex}
    (contained : Contained (matcher submatchers (String.ofList (c :: more))) regex)
    (enough : (bindingPattern submatchers (String.ofList (c :: more)) ++ left).length < fuel)
    (h : Regex.readPattern fuel {} draft
      (bindingPattern submatchers (String.ofList (c :: more)) ++ left) = some r) :
    ∃ fuel' names, left.length < fuel' ∧
      Regex.readPattern fuel' {}
        { draft.push (some (.capture (String.ofList (c :: more)) regex)) with names := names }
        left = some r := by
  rw [bindingPattern_append] at h enough
  obtain ⟨fuel₁, body, names, left₁, rfl, -, hnamed, hrest⟩ := Regex.named_of_readPattern
    (isAlphabetic_of_isBindingStart hc)
    (fun d hd => isGroupNamePart_of_isBindingPart (hmore d hd)) h
  obtain ⟨fuel₂, body₂, names₂, left₂, rfl, -, hgroup, hclose⟩ := Regex.group_of_readPattern hnamed
  obtain ⟨hregex, -, hleft⟩ := contained.reads hgroup
  obtain rfl : body₂ = regex := hregex
  obtain rfl : left₂ = ')' :: left := (List.cons.inj hleft).2
  obtain ⟨hbody, -, hleft⟩ := (Prod.mk.inj (Regex.close_of_readPattern hclose)).imp_right
    Prod.mk.inj
  obtain rfl : left₁ = left := (List.cons.inj hleft).2
  obtain rfl : body = body₂ := hbody
  refine ⟨fuel₂ + 1, names, ?_, hrest⟩
  simp only [List.length_cons, List.length_append] at enough
  omega

/-- The pattern of tokens is read as their parts, one token after the other. -/
theorem read_patternFrom {written : List Char} (htokens : Tokenized written tokens)
    (contained : ∀ name ∈ bindingsOf tokens, Contained (matcher submatchers name) (own name))
    (enough : (patternFrom submatchers before tokens).length < fuel)
    (h : Regex.readPattern fuel {} draft (patternFrom submatchers before tokens) = some r) :
    r.1 = (extend draft [] (partsFrom own before tokens)).finish := by
  induction htokens generalizing before draft fuel with
  | nil => exact congrArg Prod.fst (Regex.end_of_readPattern h)
  | @literal text ahead tokens _ _ _ _ ih =>
      obtain ⟨fuel', henough, hreads⟩ := (reads_literal draft text _).reads fuel enough
      have hrest := ih contained henough (hreads ▸ h)
      rw [extend_extend] at hrest
      exact hrest
  | @space run ahead tokens _ _ _ _ ih =>
      obtain ⟨fuel', henough, hreads⟩ := (reads_spacePattern before tokens.head? draft
        (unmarked_patternFrom submatchers _ tokens)).reads fuel enough
      have hrest := ih contained henough (hreads ▸ h)
      rw [extend_extend] at hrest
      exact hrest
  | @binding c more ahead tokens hc hmore _ _ ih =>
      obtain ⟨hcontained, contained⟩ := List.forall_mem_cons.1 contained
      obtain ⟨fuel', names, henough, hreads⟩ := readPattern_of_bindingPattern hc hmore hcontained
        enough h
      have hrest := ih contained henough hreads
      -- The names that are known then are not part of the pattern.
      have hextend := congrArg Draft.finish (extend_extend draft [] []
        [.capture (String.ofList (c :: more)) (own (String.ofList (c :: more)))]
        (partsFrom own (some (.binding (c :: more))) tokens))
      exact hrest.trans hextend

/-- What a binding is by itself. -/
def alone (submatchers : List (String × String)) (binding : String) : Regex :=
  (Regex.parse? (matcher submatchers binding)).getD .empty

/-- What a binding without a submatcher matches stays in its group. -/
theorem contained_wordMatcher :
    Contained wordMatcher (.many (.one Regex.wordCharacters) 1 none true) := by
  have hreads := reads_wordMatcher { names := [] } [] (by simp)
  have hgrouped := Regex.reads_group { names := [] } (reads_wordMatcher { names := [] } [')']
    (by simp))
  rw [List.append_nil] at hreads
  have halone := Regex.parse?_eq hreads
  have hwhole : Regex.parse? ("(?:" ++ wordMatcher ++ ")") = _ := Regex.parse?_eq hgrouped
  refine ⟨halone.trans (if_pos (by decide)), ?_⟩
  rw [hwhole, if_pos (by decide)]
  rfl

/-- A grammar whose submatchers stay in their groups is its tokens in a row. -/
theorem inner_of_contained {name written : String} {grammar : Microgrammar}
    (h : compile name written submatchers = .ok grammar)
    (contained : ∀ binding ∈ grammar.bindings, ∀ pattern,
      grammar.submatchers.lookup binding = some pattern → ∃ regex, Contained pattern regex) :
    ∃ tokens, Tokenized (Text.trim written.toList) tokens ∧
      grammar.bindings = bindingsOf tokens ∧ (bindingsOf tokens).Nodup ∧
      grammar.inner = chain (partsFrom (alone grammar.submatchers) none tokens) ∧
      ∀ name, named name grammar.inner ≤ 1 := by
  obtain ⟨tokens, -, htokens, hrepeated, -, hbindings, hinner, -⟩ := compile_eq_ok h
  obtain ⟨distinct, -⟩ := nodup_of_firstRepeated? hrepeated
  have hcontained : ∀ binding ∈ bindingsOf tokens, Contained
      (matcher grammar.submatchers binding) (alone grammar.submatchers binding) := by
    intro binding hb
    have hregex : ∃ regex, Contained (matcher grammar.submatchers binding) regex := by
      unfold matcher
      cases hpattern : grammar.submatchers.lookup binding with
      | none => exact ⟨_, contained_wordMatcher⟩
      | some pattern => exact contained binding (hbindings ▸ hb) pattern hpattern
    obtain ⟨regex, hregex⟩ := hregex
    unfold alone
    rw [hregex.alone]
    exact hregex
  obtain ⟨names, hread⟩ := Regex.readPattern_of_parse? hinner
  rw [String.toList_ofList] at hread
  have hparts := read_patternFrom htokens hcontained (Nat.lt_succ_self _) hread
  exact ⟨tokens, htokens, hbindings, distinct, hparts.trans (finish_extend [] [] _),
    Regex.named_le_one hinner⟩

-- ============================================================== matching

/-- The token can stand for the piece; a binding can stand for any. -/
def Token.Fits (before after : Option Token) : Token → List Char → Prop
  | .binding _, _ => True
  | token, piece => token.Admits before after piece

/-- The tokens stand for the pieces one by one, bindings for any. -/
inductive Composed : Option Token → List Token → List (List Char) → Prop
  | nil (before : Option Token) : Composed before [] []
  | cons {before : Option Token} {token : Token} {rest : List Token} {piece : List Char}
      {pieces : List (List Char)} :
      token.Fits before rest.head? piece → Composed (some token) rest pieces →
      Composed before (token :: rest) (piece :: pieces)

theorem Composed.length_eq (h : Composed before tokens pieces) :
    pieces.length = tokens.length := by
  induction h with
  | nil => rfl
  | cons _ _ ih => rw [List.length_cons, List.length_cons, ih]

/-- What is between two places of a text stands there. -/
theorem stands_drop_take (hle : start ≤ stop) (hsize : stop ≤ max start text.size) :
    Stands text start ((text.toList.take stop).drop start) stop := by
  rw [List.drop_take]
  refine ⟨List.take_prefix _ _, ?_⟩
  rw [List.length_take, List.length_drop, Array.length_toList]
  omega

/-- What a token matches is a piece that it can stand for, and a binding records its own. -/
theorem fits_of_matches {token : Token} {after : Option Token}
    (h : Matches text (chain (token.parts own before after)) start stop captures) :
    ∃ piece, token.Fits before after piece ∧ Stands text start piece stop ∧
      ∀ entry ∈ recorded start [token] [piece], captures.head? = some entry := by
  cases token with
  | literal literal =>
      obtain ⟨piece, hadmits, hstands, -⟩ :=
        (matches_items_iff before after (.literal literal)).1 h
      exact ⟨piece, hadmits, hstands, fun _ he => absurd he List.not_mem_nil⟩
  | space run =>
      obtain ⟨piece, hadmits, hstands, -⟩ := (matches_items_iff before after (.space run)).1 h
      exact ⟨piece, hadmits, hstands, fun _ he => absurd he List.not_mem_nil⟩
  | binding n =>
      obtain ⟨hle, hsize⟩ := h.bounds
      obtain ⟨inner, -, rfl⟩ := h
      have hstands := stands_drop_take hle hsize
      refine ⟨_, trivial, hstands, fun entry he => ?_⟩
      obtain rfl := List.mem_singleton.1 he
      rw [← hstands.2]
      rfl

theorem named_parts {token : Token} {after : Option Token} {piece : List Char}
    {entry : String × Nat × Nat} (he : entry ∈ recorded start [token] [piece]) :
    1 ≤ ((token.parts own before after).map (named entry.1)).sum := by
  cases token with
  | literal text => cases he
  | space run => cases he
  | binding n =>
      obtain rfl := List.mem_singleton.1 he
      show 1 ≤ ((if String.ofList n = String.ofList n then 1 else 0) + _) + 0
      rw [if_pos rfl]
      omega

/-- What tokens match falls into pieces, and each binding records its own. -/
theorem composed_of_matches
    (unique : ∀ name, ((partsFrom own before tokens).map (named name)).sum ≤ 1)
    (h : Matches text (chain (partsFrom own before tokens)) start stop captures) :
    ∃ pieces, Composed before tokens pieces ∧ Stands text start pieces.flatten stop ∧
      ∀ entry ∈ recorded start tokens pieces, captures.lookup entry.1 = some entry.2 := by
  induction tokens generalizing before start stop captures with
  | nil =>
      obtain ⟨rfl, rfl⟩ := h
      exact ⟨[], .nil before, Regex.stands_nil.2 rfl, fun _ he => absurd he List.not_mem_nil⟩
  | cons token rest ih =>
      unfold partsFrom at h unique
      simp only [List.map_append, List.sum_append] at unique
      rw [Regex.matches_chain_append] at h
      obtain ⟨middle, earlier, later, htoken, hrest, rfl⟩ := h
      obtain ⟨piece, hfits, hpiece, hown⟩ := fits_of_matches htoken
      obtain ⟨pieces, hcomposed, hpieces, hothers⟩ := ih
        (fun name => by have := unique name; omega) hrest
      refine ⟨piece :: pieces, .cons hfits hcomposed,
        Regex.stands_append.2 ⟨middle, hpiece, hpieces⟩, fun entry he => ?_⟩
      rw [recorded_cons, List.mem_append, ← hpiece.2] at he
      rw [List.lookup_append]
      rcases he with he | he
      · -- No group behind the token has the name of its binding.
        have hzero : named entry.1 (chain (partsFrom own (some token) rest)) = 0 := by
          have hone := unique entry.1
          have hparts : 1 ≤ ((token.parts own before rest.head?).map (named entry.1)).sum :=
            named_parts he
          rw [Regex.named_chain]
          omega
        have hnone : later.lookup entry.1 = none := by
          refine List.lookup_eq_none_iff.2 fun other hother => bne_iff_ne.2 ?_
          rintro heq
          exact hrest.not_mem_of_named hzero (heq ▸ List.mem_map_of_mem hother)
        obtain ⟨more, rfl⟩ := List.head?_eq_some_iff.1 (hown entry he)
        rw [hnone, Option.none_or]
        exact List.lookup_cons_self
      · rw [hothers entry he]
        rfl

/-- If each submatcher that a grammar uses stays in its group, an occurrence falls into pieces in
the order of the tokens: literals as they stand, runs of white space, and what the bindings
capture. Each binding captures something. -/
theorem pieces_of_contained {name written : String} {grammar : Microgrammar}
    (h : compile name written submatchers = .ok grammar)
    (contained : ∀ binding ∈ grammar.bindings, ∀ pattern,
      grammar.submatchers.lookup binding = some pattern → ∃ regex, Contained pattern regex) :
    ∃ tokens, Tokenized (Text.trim written.toList) tokens ∧ ∀ input : String,
      ∀ found ∈ grammar.scan input, ∃ pieces, Composed none tokens pieces ∧
        pieces.flatten = found.text.toList ∧ found.captures = spansFrom 0 tokens pieces ∧
        found.captures.map (·.1) = grammar.bindings := by
  obtain ⟨tokens, htokens, hbindings, distinct, hinner, hnamed⟩ := inner_of_contained h contained
  refine ⟨tokens, htokens, fun input found hf => ?_⟩
  obtain ⟨m, hm, rfl⟩ := List.mem_map.1 hf
  have hmatches := Regex.matches_of_mem_findAll hm
  rw [hinner] at hmatches
  obtain ⟨pieces, hcomposed, hstands, hlookup⟩ := composed_of_matches (fun name => by
    rw [← Regex.named_chain, ← hinner]
    exact hnamed name) hmatches
  have hlength := hcomposed.length_eq
  have hcaptures : capturesOf grammar input.toList.toArray m.start m =
      spansFrom 0 tokens pieces := by
    have hzero : bytesBetween input.toList.toArray m.start m.start = 0 := by
      have := bytesBetween_add input.toList.toArray (Nat.le_refl m.start)
      omega
    unfold capturesOf Match.group?
    rw [hbindings, ← names_recorded hlength m.start, filterMap_lookup hlookup, ← hzero]
    exact map_recorded hlength (Nat.le_refl _) hstands
  refine ⟨pieces, hcomposed, ?_, hcaptures, ?_⟩
  · dsimp only
    rw [String.toList_ofList, drop_take_of_stands hstands]
  · dsimp only
    rw [hcaptures, names_spansFrom hlength, hbindings]

/-- The tokens of a grammar for one binding. -/
def oneBinding : List Token := [.binding ['v']]

theorem tokenized_oneBinding : Tokenized (Text.trim "$v".toList) oneBinding := by
  have htrim : Text.trim "$v".toList = '$' :: 'v' :: ([] ++ []) := by decide
  rw [htrim]
  exact .binding (by decide) (List.all_eq_true.1 (by decide)) Text.ends_nil .nil

/-- What a grammar for one binding is compiled to. -/
def oneBound (name pattern : String) (inner : Regex) : Microgrammar where
  name := name
  grammar := "$v"
  submatchers := [("v", pattern)]
  bindings := ["v"]
  inner := inner
  whole := .seq (.seq (.assertion .textStart) inner) (.assertion .textEnd)

theorem compile_oneBound (name : String) {pattern : String} {later : Draft}
    (hreads : ∀ left, Reads { names := [] } (bindingPattern [("v", pattern)] "v" ++ left) later
      left)
    (small : 80 + Regex.weight later.finish ≤ Regex.weightLimit) :
    compile name "$v" [("v", pattern)] = .ok (oneBound name pattern later.finish) := by
  have hpattern : patternFrom [("v", pattern)] none oneBinding =
      bindingPattern [("v", pattern)] "v" ++ [] := rfl
  refine compile_of_parsed name (by decide) tokenized_oneBinding (by decide) ?_ ?_
  · show Regex.parse? (String.ofList (patternFrom [("v", pattern)] none oneBinding)) = _
    rw [hpattern, Regex.parse?_eq (by rw [String.toList_ofList]; exact hreads []), if_pos]
    omega
  · show Regex.parse? (String.ofList ("^(?:".toList ++
      patternFrom [("v", pattern)] none oneBinding ++ ")$".toList)) = _
    have hwhole := Regex.reads_whole (hreads [')', '$'])
    rw [hpattern, List.append_nil, List.append_assoc,
      Regex.parse?_eq (by rw [String.toList_ofList]; exact hwhole)]
    refine if_pos ?_
    show 40 + Regex.weight later.finish + 40 ≤ _
    omega

/-- A choice of two letters, drafted. -/
def letterDraft (names : List String) : Draft where
  names := names
  branches := [.one (.singleton 'a')]
  items := [some (.one (.singleton 'b'))]

theorem reads_letter (names : List String) (left : List Char) :
    Reads { names := names } ("a|b".toList ++ left) (letterDraft names) left :=
  (Regex.reads_plain (by decide)).trans
    ((Regex.reads_branch _ _).trans (Regex.reads_plain (by decide)))

theorem contained_letter : Contained "a|b" (letterDraft []).finish := by
  have halone : Regex.parse? "a|b" = _ := Regex.parse?_eq (reads_letter [] [])
  have hgroup := Regex.reads_group { names := [] } (reads_letter [] [')'])
  have hgrouped : Regex.parse? ("(?:" ++ "a|b" ++ ")") = _ := Regex.parse?_eq hgroup
  refine ⟨halone.trans (if_pos (by decide)), ?_⟩
  rw [hgrouped, if_pos (by decide)]
  rfl

/-- The grammar for one of the letters. -/
def letter : Microgrammar := oneBound "letter" "a|b" (.capture "v" (letterDraft ["v"]).finish)

theorem compile_letter : compile "letter" "$v" [("v", "a|b")] = .ok letter := by
  have hreads : ∀ left, Reads { names := [] } (bindingPattern [("v", "a|b")] "v" ++ left)
      { names := ["v"], items := [some (.capture "v" (letterDraft ["v"]).finish)] } left := by
    intro left
    have hletter : Reads { names := String.ofList ['v'] :: ({ names := [] } : Draft).names }
      ((matcher [("v", "a|b")] (String.ofList ['v'])).toList ++ ')' :: ')' :: left)
      (letterDraft ["v"]) (')' :: ')' :: left) := reads_letter ["v"] _
    have hbinding := reads_binding (by decide) (fun _ hd => absurd hd List.not_mem_nil)
      List.not_mem_nil hletter
    exact hbinding
  exact compile_oneBound "letter" hreads (by decide)

theorem contained_submatchers_letter : ∀ binding ∈ letter.bindings, ∀ pattern,
    letter.submatchers.lookup binding = some pattern → ∃ regex, Contained pattern regex := by
  intro binding hb pattern hp
  obtain rfl := List.mem_singleton.1 hb
  obtain rfl := Option.some.inj hp
  exact ⟨_, contained_letter⟩

/-- The case of a letter between others. -/
theorem pieces_of_contained_letter :
    compile "letter" "$v" [("v", "a|b")] = .ok letter ∧
    (∀ binding ∈ letter.bindings, ∀ pattern,
      letter.submatchers.lookup binding = some pattern → ∃ regex, Contained pattern regex) ∧
    ∃ found ∈ letter.scan "xby", found.text = "b" ∧ found.captures.map (·.1) = ["v"] := by
  have hfound : (⟨⟨1, 2⟩, "b", [("v", ⟨0, 1⟩)]⟩ : Occurrence) ∈ letter.scan "xby" := by
    decide +kernel
  obtain ⟨tokens, -, hall⟩ := pieces_of_contained compile_letter contained_submatchers_letter
  obtain ⟨pieces, -, -, -, hnames⟩ := hall "xby" _ hfound
  exact ⟨compile_letter, contained_submatchers_letter, _, hfound, rfl, hnames⟩

/-- What is read of a submatcher that closes the group of its binding and opens another. -/
def strayDraft : Draft where
  names := ["v"]
  branches := [.capture "v" (.one (.singleton 'a'))]
  items := [some (.one (.singleton 'b'))]

theorem reads_stray (left : List Char) : Reads { names := [] }
    (bindingPattern [("v", "a))|(?:(?:b")] "v" ++ left) strayDraft left := by
  have ha : Reads { names := ["v"] } ("a))|(?:(?:b))".toList ++ left) _ _ :=
    Regex.reads_plain (by decide)
  have hgroup : Reads { names := "v" :: ({ names := [] } : Draft).names }
      ("(?:a))|(?:(?:b))".toList ++ left) _ _ := Regex.reads_group { names := ["v"] } ha
  have hcapture := Regex.reads_named (c := 'v') (n := []) (.inr (by decide))
    (fun _ hd => absurd hd List.not_mem_nil) List.not_mem_nil hgroup
  have hb : Reads { names := ["v"] } ("b))".toList ++ left) _ _ := Regex.reads_plain (by decide)
  have hrest := Regex.reads_group { strayDraft with items := [] }
    (Regex.reads_group { names := ["v"] } hb)
  exact hcapture.trans ((Regex.reads_branch _ _).trans hrest)

/-- A grammar is compiled with it, although it is no pattern, and finds an occurrence without a
capture. -/
theorem strays : ∃ grammar, compile "stray" "$v" [("v", "a))|(?:(?:b")] = .ok grammar ∧
    Regex.parse? "a))|(?:(?:b" = none ∧
    ∃ found ∈ grammar.scan "b", found.text = "b" ∧ found.captures = [] := by
  have hreads : Reads { names := [] } "a))|(?:(?:b".toList _ _ :=
    Regex.reads_plain (c := 'a') (by decide)
  refine ⟨_, compile_oneBound "stray" reads_stray (by decide), ?_, ⟨⟨0, 1⟩, "b", []⟩,
    by decide +kernel, rfl, rfl⟩
  unfold Regex.parse?
  dsimp only
  rw [hreads.close (Nat.lt_succ_self _)]

end TreeQuery.Microgrammar
