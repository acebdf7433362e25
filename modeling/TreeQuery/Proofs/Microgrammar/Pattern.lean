/-
What the pattern of a grammar is read as: its tokens, one after the other.

Each token is written as a few items of a pattern, and these are what is read
(`reads_patternFrom`): no character of a literal means anything but itself, since those that could
are written behind a backslash; a repetition is unmarked, since nothing that is written starts with
a question mark; and a name is not taken for anything else. So the two patterns of a grammar are the
items of its tokens in a row, the one as they stand and the other from the start of a text to its
end (`MadeOf`).
-/
import TreeQuery.Proofs.Microgrammar.Names
import TreeQuery.Proofs.Regex.Chain
import TreeQuery.Proofs.Regex.Reading

namespace TreeQuery.Microgrammar

open Regex (CharSet Draft Reads chain)

variable {submatchers : List (String × String)} {before : Option Token} {tokens : List Token}
  {draft : Draft} {left : List Char}

-- ======================================================== characters

/-- The characters of the words that a binding matches. -/
def isNameCharacter (c : Char) : Bool := c.isAlphanum || c == '_' || c == '.' || c == '-'

/-- What is so of each ASCII character, one by one. -/
theorem of_ascii {p : Char → Prop} (h : ∀ n < 128, p (Char.ofNat n)) {c : Char}
    (hc : c.toNat < 128) : p c := by
  have := h c.toNat hc
  rwa [Char.ofNat_toNat] at this

theorem toNat_lt_of_isAlphanum {c : Char} (h : c.isAlphanum = true) : c.toNat < 128 := by
  have hlast : ∀ last : Char, last.toNat < 128 → c.val ≤ last.val → c.toNat < 128 :=
    fun last hlast hle => Nat.lt_of_le_of_lt (UInt32.le_iff_toNat_le.1 hle) hlast
  rcases Bool.or_eq_true_iff.1 h with h | h
  · rcases Bool.or_eq_true_iff.1 h with h | h
    · exact hlast 'Z' (by decide) (of_decide_eq_true h).2
    · exact hlast 'z' (by decide) (of_decide_eq_true (Bool.and_eq_true_iff.1 h).2)
  · exact hlast '9' (by decide) (of_decide_eq_true (Bool.and_eq_true_iff.1 h).2)

theorem toNat_lt_of_isBindingPart {c : Char} (h : isBindingPart c = true) : c.toNat < 128 := by
  rcases Bool.or_eq_true_iff.1 h with h | h
  · exact toNat_lt_of_isAlphanum h
  · obtain rfl := beq_iff_eq.1 h
    decide

theorem toNat_lt_of_isNameCharacter {c : Char} (h : isNameCharacter c = true) :
    c.toNat < 128 := by
  simp only [isNameCharacter, Bool.or_eq_true, beq_iff_eq] at h
  rcases h with ((h | rfl) | rfl) | rfl
  · exact toNat_lt_of_isAlphanum h
  all_goals decide

theorem isAlphabetic_of_isBindingStart {c : Char} (h : isBindingStart c = true) :
    c = '_' ∨ Unicode.isAlphabetic c = true :=
  of_ascii (p := fun c => isBindingStart c = true → c = '_' ∨ Unicode.isAlphabetic c = true)
    (by decide) (toNat_lt_of_isBindingPart (isBindingPart_of_isBindingStart h)) h

theorem isGroupNamePart_of_isBindingPart {c : Char} (h : isBindingPart c = true) :
    Regex.isGroupNamePart c = true :=
  of_ascii (p := fun c => isBindingPart c = true → Regex.isGroupNamePart c = true)
    (by decide) (toNat_lt_of_isBindingPart h) h

/-- The class in the pattern of a binding holds the characters it is said to. -/
theorem has_wordCharacters (c : Char) : Regex.wordCharacters.has c = isNameCharacter c := by
  by_cases hc : c.toNat < 128
  · exact of_ascii (p := fun c => Regex.wordCharacters.has c = isNameCharacter c)
      (by decide) hc
  · rw [Bool.eq_false_iff.2 (mt toNat_lt_of_isNameCharacter hc)]
    simp only [CharSet.has, Regex.wordCharacters, Unicode.Ranges.contains]
    grind

-- ============================================================== items

/-- How much white space there has to be between two tokens. -/
def leastSpace (before after : Option Token) : Nat :=
  if before.any Token.endsInWord && after.any Token.startsWithWord then 1 else 0

/-- The items a token is read as. -/
def Token.items (before after : Option Token) : Token → List Regex
  | .literal text => text.map fun c => .one (CharSet.singleton c)
  | .space _ => [.many (.one Unicode.whitespace) (leastSpace before after) none true]
  | .binding n => [.capture (String.ofList n) (.many (.one Regex.wordCharacters) 1 none true)]

/-- The items tokens are read as, given the token before them. -/
def itemsFrom : Option Token → List Token → List Regex
  | _, [] => []
  | before, token :: rest => token.items before rest.head? ++ itemsFrom (some token) rest

/-- The draft with more items that are read, and more names. -/
def extend (draft : Draft) (names : List String) (items : List Regex) : Draft :=
  { draft with
    names := names.reverse ++ draft.names, items := (items.map some).reverse ++ draft.items }

theorem extend_extend (draft : Draft) (names names' : List String) (items items' : List Regex) :
    extend (extend draft names items) names' items' =
      extend draft (names ++ names') (items ++ items') := by
  simp [extend]

theorem finish_extend (names names' : List String) (items : List Regex) :
    (extend { names := names } names' items).finish = chain items := by
  show Regex.sequence ((items.map some).reverse ++ []) = _
  rw [List.append_nil, Regex.sequence_reverse]

-- ============================================================ reading

theorem reads_escapeLiteral (draft : Draft) (c : Char) (left : List Char) :
    Reads draft (escapeLiteral c ++ left) (draft.push (some (.one (CharSet.singleton c))))
      left := by
  unfold escapeLiteral
  by_cases hc : c ∈ metaCharacters
  · rw [if_pos hc]
    exact Regex.reads_escaped hc
  · rw [if_neg hc]
    exact Regex.reads_plain hc

theorem reads_literal (draft : Draft) (text left : List Char) :
    Reads draft (text.flatMap escapeLiteral ++ left)
      (extend draft [] (text.map fun c => .one (CharSet.singleton c))) left := by
  induction text generalizing draft with
  | nil => exact .refl draft left
  | cons c text ih =>
      rw [List.flatMap_cons, List.append_assoc]
      have h := (reads_escapeLiteral draft c _).trans (ih _)
      rwa [show draft.push (some (.one (CharSet.singleton c))) =
        extend draft [] [.one (CharSet.singleton c)] from rfl, extend_extend] at h

theorem reads_spacePattern (before after : Option Token) (draft : Draft)
    (unmarked : left.head? ≠ some '?') :
    Reads draft (spacePattern before after ++ left)
      (extend draft [] [.many (.one Unicode.whitespace) (leastSpace before after) none true])
      left := by
  unfold spacePattern leastSpace
  split
  · exact Regex.reads_space.trans (Regex.reads_repeated unmarked (by decide))
  · exact Regex.reads_space.trans (Regex.reads_repeated unmarked (by decide))

theorem reads_wordMatcher (draft : Draft) (left : List Char) (unmarked : left.head? ≠ some '?') :
    Reads draft (wordMatcher.toList ++ left)
      (extend draft [] [.many (.one Regex.wordCharacters) 1 none true]) left :=
  Regex.reads_word.trans (Regex.reads_repeated unmarked (by decide))

/-- What a binding matches, as it is written. -/
def matcher (submatchers : List (String × String)) (binding : String) : String :=
  (submatchers.lookup binding).getD wordMatcher

theorem bindingPattern_append (submatchers : List (String × String)) (c : Char)
    (more left : List Char) :
    bindingPattern submatchers (String.ofList (c :: more)) ++ left =
      '(' :: '?' :: 'P' :: '<' :: c :: (more ++ '>' :: '(' :: '?' :: ':' ::
        ((matcher submatchers (String.ofList (c :: more))).toList ++ ')' :: ')' :: left)) := by
  have hname : (String.ofList (c :: more)).toList = c :: more := String.toList_ofList
  unfold bindingPattern
  rw [hname]
  show "(?P<".toList ++ (c :: more) ++ ">(?:".toList ++
      (matcher submatchers (String.ofList (c :: more))).toList ++ "))".toList ++ left =
    "(?P<".toList ++ ((c :: more) ++ (">(?:".toList ++
      ((matcher submatchers (String.ofList (c :: more))).toList ++ ("))".toList ++ left))))
  simp only [List.append_assoc]

/-- A binding is read as a group of its name, if what it matches is read up to where the group
closes. -/
theorem reads_binding {inner : Draft} {c : Char} {more : List Char}
    (hc : isBindingStart c = true) (hmore : ∀ d ∈ more, isBindingPart d = true)
    (new : String.ofList (c :: more) ∉ draft.names)
    (h : Reads { names := String.ofList (c :: more) :: draft.names }
      ((matcher submatchers (String.ofList (c :: more))).toList ++ ')' :: ')' :: left) inner
      (')' :: ')' :: left)) :
    Reads draft (bindingPattern submatchers (String.ofList (c :: more)) ++ left)
      { draft.push (some (.capture (String.ofList (c :: more)) inner.finish)) with
        names := inner.names } left := by
  have hgroup := Regex.reads_group { names := String.ofList (c :: more) :: draft.names } h
  have hnamed := Regex.reads_named (isAlphabetic_of_isBindingStart hc)
    (fun d hd => isGroupNamePart_of_isBindingPart (hmore d hd)) new hgroup
  rw [bindingPattern_append]
  exact hnamed

/-- So is one that matches words. -/
theorem reads_bindingPattern {c : Char} {more : List Char} (hc : isBindingStart c = true)
    (hmore : ∀ d ∈ more, isBindingPart d = true)
    (plain : submatchers.lookup (String.ofList (c :: more)) = none)
    (new : String.ofList (c :: more) ∉ draft.names) :
    Reads draft (bindingPattern submatchers (String.ofList (c :: more)) ++ left)
      (extend draft [String.ofList (c :: more)]
        [.capture (String.ofList (c :: more)) (.many (.one Regex.wordCharacters) 1 none true)])
      left := by
  have hword := reads_wordMatcher { names := String.ofList (c :: more) :: draft.names }
    (')' :: ')' :: left) (by simp)
  have hmatcher : matcher submatchers (String.ofList (c :: more)) = wordMatcher := by
    unfold matcher
    rw [plain]
    rfl
  rw [← hmatcher] at hword
  exact reads_binding hc hmore new hword

-- Nothing in the pattern of a grammar marks what stands before it.

theorem unmarked_append {p : List Char} (h : p.head? ≠ some '?') (hl : left.head? ≠ some '?') :
    (p ++ left).head? ≠ some '?' := by
  cases p with
  | nil => exact hl
  | cons c p => exact h

theorem unmarked_escapeLiteral (c : Char) : (escapeLiteral c).head? ≠ some '?' := by
  unfold escapeLiteral
  split
  · simp
  · rename_i hc
    rintro h
    obtain rfl := Option.some.inj h
    exact hc (by decide)

theorem unmarked_literal (text : List Char) :
    (text.flatMap escapeLiteral).head? ≠ some '?' := by
  induction text with
  | nil => simp
  | cons c text ih =>
      rw [List.flatMap_cons]
      exact unmarked_append (unmarked_escapeLiteral c) ih

theorem unmarked_patternFrom (submatchers : List (String × String)) (before : Option Token)
    (tokens : List Token) : (patternFrom submatchers before tokens).head? ≠ some '?' := by
  induction tokens generalizing before with
  | nil => simp [patternFrom]
  | cons token rest ih =>
      unfold patternFrom
      refine unmarked_append ?_ (ih _)
      cases token with
      | literal text => exact unmarked_literal text
      | space run =>
          show (spacePattern before rest.head?).head? ≠ some '?'
          unfold spacePattern
          split
          · simp
          · simp
      | binding n =>
          show some '(' ≠ some '?'
          simp

/-- The pattern of tokens is read as their items. -/
theorem reads_patternFrom (before : Option Token) (draft : Draft) {text : List Char}
    (htokens : Tokenized text tokens)
    (plain : ∀ name ∈ bindingsOf tokens, submatchers.lookup name = none)
    (distinct : (bindingsOf tokens).Nodup)
    (new : ∀ name ∈ bindingsOf tokens, name ∉ draft.names)
    (unmarked : left.head? ≠ some '?') :
    Reads draft (patternFrom submatchers before tokens ++ left)
      (extend draft (bindingsOf tokens) (itemsFrom before tokens)) left := by
  induction htokens generalizing draft before with
  | nil => exact .refl draft left
  | @literal text ahead tokens _ _ _ _ ih =>
      have hrest := ih (some (.literal text))
        (extend draft [] (text.map fun c => .one (CharSet.singleton c))) plain distinct new
      have h := (reads_literal draft text _).trans hrest
      rw [extend_extend, ← List.append_assoc] at h
      exact h
  | @space run ahead tokens _ _ _ _ ih =>
      have hrest := ih (some (.space run)) (extend draft [] [.many (.one Unicode.whitespace)
        (leastSpace before tokens.head?) none true]) plain distinct new
      have h := (reads_spacePattern before tokens.head? draft
        (unmarked_append (unmarked_patternFrom _ _ _) unmarked)).trans hrest
      rw [extend_extend, ← List.append_assoc] at h
      exact h
  | @binding c more ahead tokens hc hmore _ _ ih =>
      have hnames : bindingsOf (.binding (c :: more) :: tokens) =
        String.ofList (c :: more) :: bindingsOf tokens := rfl
      rw [hnames] at plain distinct new ⊢
      obtain ⟨hplain, plain⟩ := List.forall_mem_cons.1 plain
      obtain ⟨hnew, new⟩ := List.forall_mem_cons.1 new
      obtain ⟨hother, distinct⟩ := List.nodup_cons.1 distinct
      have hrest := ih (some (.binding (c :: more))) (extend draft [String.ofList (c :: more)]
        [.capture (String.ofList (c :: more)) (.many (.one Regex.wordCharacters) 1 none true)])
        plain distinct fun name hname => by
        show name ∉ String.ofList (c :: more) :: draft.names
        rintro hm
        rcases List.mem_cons.1 hm with rfl | hm
        · exact hother hname
        · exact new name hname hm
      have h := (reads_bindingPattern hc hmore hplain hnew).trans hrest
      rw [extend_extend, ← List.append_assoc] at h
      exact h

-- =========================================================== compiled

theorem nodup_of_firstRepeated? {seen names : List String} (h : firstRepeated? seen names = none) :
    names.Nodup ∧ ∀ name ∈ names, name ∉ seen := by
  induction names generalizing seen with
  | nil => exact ⟨.nil, fun _ hn => absurd hn List.not_mem_nil⟩
  | cons name names ih =>
      unfold firstRepeated? at h
      split at h
      · cases h
      · rename_i hnew
        obtain ⟨hdistinct, hothers⟩ := ih h
        refine ⟨List.nodup_cons.2 ⟨fun hn => hothers name hn List.mem_cons_self, hdistinct⟩, ?_⟩
        refine List.forall_mem_cons.2 ⟨mt List.contains_iff_mem.2 hnew, fun n hn hs => ?_⟩
        exact hothers n hn (List.mem_cons_of_mem _ hs)

theorem firstRepeated?_of_nodup {seen names : List String} (h : names.Nodup)
    (new : ∀ name ∈ names, name ∉ seen) : firstRepeated? seen names = none := by
  induction names generalizing seen with
  | nil => rfl
  | cons name names ih =>
      obtain ⟨hother, hdistinct⟩ := List.nodup_cons.1 h
      obtain ⟨hnew, new⟩ := List.forall_mem_cons.1 new
      unfold firstRepeated?
      rw [if_neg (mt List.contains_iff_mem.1 hnew)]
      refine ih hdistinct fun n hn hm => ?_
      rcases List.mem_cons.1 hm with rfl | hm
      · exact hother hn
      · exact new n hn hm

/-- The pattern of tokens within a text. -/
def innerOf (tokens : List Token) : Regex := chain (itemsFrom none tokens)

/-- The pattern of tokens that are a text as a whole. -/
def wholeOf (tokens : List Token) : Regex :=
  .seq (.seq (.assertion .textStart) (innerOf tokens)) (.assertion .textEnd)

section

variable {text : List Char} (htokens : Tokenized text tokens)
  (plain : ∀ name ∈ bindingsOf tokens, submatchers.lookup name = none)
  (distinct : (bindingsOf tokens).Nodup)

include htokens plain distinct

theorem parse?_inner : Regex.parse? (String.ofList (patternFrom submatchers none tokens)) =
    if Regex.weight (innerOf tokens) ≤ Regex.weightLimit then some (innerOf tokens) else none := by
  have hreads : Reads { names := [] } (patternFrom submatchers none tokens ++ [])
      (extend { names := [] } (bindingsOf tokens) (itemsFrom none tokens)) [] :=
    reads_patternFrom none _ htokens plain distinct (fun _ _ => List.not_mem_nil) (by simp)
  rw [List.append_nil] at hreads
  rw [Regex.parse?_eq (by rw [String.toList_ofList]; exact hreads), finish_extend]
  rfl

theorem parse?_whole :
    Regex.parse? (String.ofList ("^(?:".toList ++ patternFrom submatchers none tokens ++
        ")$".toList)) =
      if Regex.weight (wholeOf tokens) ≤ Regex.weightLimit then some (wholeOf tokens)
      else none := by
  have hreads : Reads { names := [] } (patternFrom submatchers none tokens ++ [')', '$'])
      (extend { names := [] } (bindingsOf tokens) (itemsFrom none tokens)) [')', '$'] :=
    reads_patternFrom none _ htokens plain distinct (fun _ _ => List.not_mem_nil) (by simp)
  have hwhole := Regex.reads_whole hreads
  rw [finish_extend] at hwhole
  rw [Regex.parse?_eq (by rw [String.toList_ofList, List.append_assoc]; exact hwhole)]
  rfl

end

/-- The tokens that a grammar is made of, whose bindings match words. -/
structure MadeOf (grammar : Microgrammar) (tokens : List Token) : Prop where
  nonempty : tokens ≠ []
  tokenized : Tokenized (Text.trim grammar.grammar.toList) tokens
  bindings : grammar.bindings = bindingsOf tokens
  distinct : (bindingsOf tokens).Nodup
  inner : grammar.inner = innerOf tokens
  whole : grammar.whole = wholeOf tokens

theorem madeOf_of_compile {name written : String} {grammar : Microgrammar}
    (h : compile name written submatchers = .ok grammar)
    (plain : ∀ binding ∈ grammar.bindings, grammar.submatchers.lookup binding = none) :
    grammar.grammar = written ∧ ∃ tokens, grammar.MadeOf tokens := by
  obtain ⟨tokens, nonempty, htokens, hrepeated, rfl, hbindings, hinner, hwhole⟩ :=
    compile_eq_ok h
  obtain ⟨distinct, -⟩ := nodup_of_firstRepeated? hrepeated
  rw [hbindings] at plain
  rw [parse?_inner htokens plain distinct] at hinner
  rw [parse?_whole htokens plain distinct] at hwhole
  obtain ⟨-, hinner⟩ := Option.ite_none_right_eq_some.1 hinner
  obtain ⟨-, hwhole⟩ := Option.ite_none_right_eq_some.1 hwhole
  exact ⟨rfl, tokens, nonempty, htokens, hbindings, distinct, (Option.some.inj hinner).symm,
    (Option.some.inj hwhole).symm⟩

/-- A grammar is compiled if its two patterns can be read. -/
theorem compile_of_parsed [Regex.Reader] (name : String) {written : String} {inner whole : Regex}
    (nonempty : tokens ≠ []) (htokens : Tokenized (Text.trim written.toList) tokens)
    (distinct : (bindingsOf tokens).Nodup)
    (hinner : Regex.Reader.read? (String.ofList
      (patternFrom (sortSubmatchers submatchers) none tokens)) = some inner)
    (hwhole : Regex.Reader.read? (String.ofList ("^(?:".toList ++
      patternFrom (sortSubmatchers submatchers) none tokens ++ ")$".toList)) = some whole) :
    compile name written submatchers = .ok {
      name, grammar := written, submatchers := sortSubmatchers submatchers
      bindings := bindingsOf tokens, inner, whole } := by
  have htokenize : tokenize written = .ok tokens := htokens.tokensFrom_eq 0
  have hrepeated := firstRepeated?_of_nodup distinct fun _ _ => List.not_mem_nil
  unfold compile
  dsimp only
  rw [htokenize]
  cases tokens with
  | nil => exact absurd rfl nonempty
  | cons token rest =>
      dsimp only
      rw [hrepeated]
      dsimp only
      rw [hinner, hwhole]

/-- A grammar whose bindings match words is compiled, if it is not too large. -/
theorem compile_of_tokenized (name : String) {written : String} (nonempty : tokens ≠ [])
    (htokens : Tokenized (Text.trim written.toList) tokens) (distinct : (bindingsOf tokens).Nodup)
    (small : Regex.weight (wholeOf tokens) ≤ Regex.weightLimit) :
    compile name written [] = .ok {
      name, grammar := written, submatchers := [], bindings := bindingsOf tokens
      inner := innerOf tokens, whole := wholeOf tokens } := by
  have hinner : Regex.weight (innerOf tokens) ≤ Regex.weightLimit := by
    have hweight : Regex.weight (wholeOf tokens) = 40 + Regex.weight (innerOf tokens) + 40 := rfl
    omega
  have plain : ∀ name ∈ bindingsOf tokens, [].lookup name = (none : Option String) := by simp
  exact compile_of_parsed name nonempty htokens distinct
    ((parse?_inner htokens plain distinct).trans (if_pos hinner))
    ((parse?_whole htokens plain distinct).trans (if_pos small))

/-- The grammar of a letter that stands for itself is compiled, whatever it is called. -/
theorem compile_a (name : String) : compile name "a" [] = .ok {
    name, grammar := "a", submatchers := [], bindings := []
    inner := innerOf [.literal ['a']], whole := wholeOf [.literal ['a']] } := by
  have htokens : Tokenized (Text.trim "a".toList) [.literal ['a']] := by
    rw [show Text.trim "a".toList = ['a'] ++ [] by decide]
    exact .literal (by decide) (List.all_eq_true.1 (by decide)) Text.ends_nil .nil
  exact compile_of_tokenized name (by decide) htokens (by decide) (by decide)

end TreeQuery.Microgrammar
