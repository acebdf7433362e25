/-
Reading the tokens of a grammar loses nothing.

# Where reading fails

A dollar sign needs a name, and without one there are no tokens. The offset reported is the least at
which such a sign stands in the trimmed grammar (`isLeast_stop`).

# What is read

Tokens spell a text if they give it back when written one after the other, each is of the
characters of its kind, no two literals and no two runs of white space stand side by side, and no
name could have been longer (`Spells`). A run of one kind of characters goes on up to the next
token, then, and so the tokens spell the text exactly if it falls into them (`spells_iff`). White
space at the ends of a grammar is cut off before it is read: what is left neither starts nor ends
with a run of it.

# Reading in one pass

Literal text can also be kept pending until something else comes, instead of being put together
from the end of the text (`readFrom`). It has to be given out in front of white space, in front of
a binding and at the end. What is pending is put in front of what is read of the rest, so this
comes to the same (`readFrom_eq`).
-/
import Mathlib.Data.List.Chain
import Mathlib.Order.Bounds.Basic
import TreeQuery.Proofs.Microgrammar.Faults
import TreeQuery.Proofs.Microgrammar.Language

namespace TreeQuery.Microgrammar

open Text (Ends ends_nil ends_cons ends_run not_ends_run byteLength)
open Unicode (isWhitespace)

variable {text ahead before after name piece : List Char} {token : Token} {tokens : List Token}

-- ================================================ where reading fails

/-- At an offset of the text stands a dollar sign that no name follows. -/
def UnnamedAt (text : List Char) (offset : Nat) : Prop :=
  ∃ before after, text = before ++ '$' :: after ∧ byteLength before = offset ∧
    Ends isBindingStart after

theorem dangling_iff : Dangling text ↔ ∃ offset, UnnamedAt text offset := by
  constructor
  · rintro ⟨before, after, he, hends⟩
    exact ⟨_, before, after, he, rfl, hends⟩
  · rintro ⟨_, before, after, he, -, hends⟩
    exact ⟨before, after, he, hends⟩

/-- A sign is the first without a name if the text before it, by itself, has none. -/
theorem isLeast_of_not_dangling (ends : Ends isBindingStart after) (h : ¬Dangling before) :
    IsLeast {n | UnnamedAt (before ++ '$' :: after) n} (byteLength before) := by
  refine ⟨⟨before, after, rfl, rfl, ends⟩, ?_⟩
  rintro n ⟨before', after', he, rfl, ends'⟩
  rcases List.append_eq_append_iff.1 he with ⟨more, rfl, -⟩ | ⟨more, rfl, hafter⟩
  · rw [Text.byteLength_append]
    exact Nat.le_add_right _ _
  · cases more with
    | nil => rw [List.append_nil]
    | cons c more =>
        -- An earlier sign without a name would have none within the text before this one either.
        obtain ⟨rfl, rfl⟩ := List.cons.inj hafter
        refine absurd ⟨before', more, rfl, ?_⟩ h
        cases more with
        | nil => exact ends_nil
        | cons d more => exact ends_cons ends'.of_cons

/-- Reading fails at the first dollar sign that has no name. -/
theorem isLeast_stop {offset : Nat} (h : tokensFrom 0 text = .error offset) :
    IsLeast {n | UnnamedAt text n} offset := by
  obtain ⟨before, after, rfl, hends, hbefore, rfl⟩ := stops_of_tokensFrom h
  rw [Nat.zero_add]
  exact isLeast_of_not_dangling hends hbefore

theorem tokensFrom_eq_error_iff {offset : Nat} :
    tokensFrom 0 text = .error offset ↔ IsLeast {n | UnnamedAt text n} offset := by
  refine ⟨isLeast_stop, fun hleast => ?_⟩
  cases hread : tokensFrom 0 text with
  | error other => rw [(isLeast_stop hread).unique hleast]
  | ok tokens =>
      have hdangling : Dangling text := dangling_iff.2 ⟨offset, hleast.1⟩
      exact absurd hdangling (tokenized_of_tokensFrom hread).not_dangling

-- ======================================================= longest names

/-- A name for a binding. -/
def IsName (name : List Char) : Prop :=
  ∃ c more, name = c :: more ∧ isBindingStart c = true ∧
    ∀ d ∈ more, isBindingPart d = true

/-- The name is the longest that the text starts with. -/
structure LongestName (name text : List Char) : Prop where
  isName : IsName name
  starts : name <+: text
  longest : ∀ other, IsName other → other <+: text → other.length ≤ name.length

theorem IsName.isBindingPart (h : IsName name) : ∀ d ∈ name, isBindingPart d = true := by
  obtain ⟨c, more, rfl, hc, hmore⟩ := h
  exact List.forall_mem_cons.2 ⟨isBindingPart_of_isBindingStart hc, hmore⟩

theorem IsName.concat (h : IsName name) {d : Char} (hd : Microgrammar.isBindingPart d = true) :
    IsName (name ++ [d]) := by
  obtain ⟨c, more, rfl, hc, hmore⟩ := h
  refine ⟨c, more ++ [d], rfl, hc, fun e he => ?_⟩
  rcases List.mem_append.1 he with he | he
  · exact hmore e he
  · rwa [List.mem_singleton.1 he]

/-- A name is the longest one if the text goes on with nothing that a name can. -/
theorem longestName_iff :
    LongestName name (name ++ ahead) ↔ IsName name ∧ Ends isBindingPart ahead := by
  constructor
  · intro h
    refine ⟨h.isName, fun d hd => Bool.eq_false_iff.2 fun hpart => ?_⟩
    obtain ⟨rest, rfl⟩ := List.head?_eq_some_iff.1 (Option.mem_def.1 hd)
    have hle := h.longest (name ++ [d]) (h.isName.concat hpart)
      ⟨rest, by rw [List.append_assoc]; rfl⟩
    rw [List.length_append, List.length_singleton] at hle
    omega
  · rintro ⟨hname, hends⟩
    refine ⟨hname, List.prefix_append _ _, fun other hother hstarts => ?_⟩
    obtain ⟨rest, he⟩ := hstarts
    rcases List.append_eq_append_iff.1 he with ⟨more, rfl, -⟩ | ⟨more, rfl, hmore⟩
    · rw [List.length_append]
      exact Nat.le_add_right _ _
    · cases more with
      | nil => rw [List.append_nil]
      | cons d more =>
          rw [hmore] at hends
          have hpart := hother.isBindingPart d (List.mem_append_right _ List.mem_cons_self)
          rw [hends.of_cons] at hpart
          cases hpart

-- ============================================================= spelling

/-- Two tokens that can stand side by side. -/
def Separate : Token → Token → Prop
  | .literal _, .literal _ => False
  | .space _, .space _ => False
  | _, _ => True

/-- The tokens spell the text. -/
structure Spells (tokens : List Token) (text : List Char) : Prop where
  /-- Written one after the other they give it back. -/
  written : tokens.flatMap Token.write = text
  /-- Literals are of characters that stand for themselves. -/
  literals : ∀ piece, .literal piece ∈ tokens →
    piece ≠ [] ∧ ∀ c ∈ piece, isWhitespace c = false ∧ c ≠ '$'
  /-- Spaces are of white space. -/
  spaces : ∀ run, .space run ∈ tokens → run ≠ [] ∧ ∀ c ∈ run, isWhitespace c = true
  /-- The name of a binding is the longest at its place. -/
  names : ∀ name later, .binding name :: later <:+ tokens →
    LongestName name (name ++ later.flatMap Token.write)
  separate : tokens.IsChain Separate

theorem Spells.nil : Spells [] [] where
  written := rfl
  literals := fun _ h => absurd h List.not_mem_nil
  spaces := fun _ h => absurd h List.not_mem_nil
  names := fun _ _ h => absurd (List.suffix_nil.1 h) (List.cons_ne_nil _ _)
  separate := .nil

theorem Spells.tail (h : Spells (token :: tokens) text) :
    Spells tokens (tokens.flatMap Token.write) where
  written := rfl
  literals := fun piece hp => h.literals piece (List.mem_cons_of_mem _ hp)
  spaces := fun run hr => h.spaces run (List.mem_cons_of_mem _ hr)
  names := fun name later hl => h.names name later (hl.trans (List.suffix_cons _ _))
  separate := (List.isChain_cons.1 h.separate).2

/-- What a token in front of others has to be for all of them to spell a text. -/
theorem Spells.cons (h : Spells tokens ahead)
    (separate : ∀ next ∈ tokens.head?, Separate token next)
    (literal : ∀ piece, token = .literal piece →
      piece ≠ [] ∧ ∀ c ∈ piece, isWhitespace c = false ∧ c ≠ '$')
    (space : ∀ run, token = .space run → run ≠ [] ∧ ∀ c ∈ run, isWhitespace c = true)
    (binding : ∀ name, token = .binding name → LongestName name (name ++ ahead)) :
    Spells (token :: tokens) (token.write ++ ahead) where
  written := by rw [List.flatMap_cons, h.written]
  literals := fun piece hp => (List.mem_cons.1 hp).elim (fun he => literal piece he.symm)
    (h.literals piece)
  spaces := fun run hr => (List.mem_cons.1 hr).elim (fun he => space run he.symm) (h.spaces run)
  names := fun name later hl => by
    rcases List.suffix_cons_iff.1 hl with he | hl
    · obtain ⟨rfl, rfl⟩ := List.cons.inj he
      rw [h.written]
      exact binding name rfl
    · exact h.names name later hl
  separate := List.isChain_cons.2 ⟨separate, h.separate⟩

-- ---------------------------------------------------- tokens and spelling

/-- A text whose first token is no white space does not start with any. -/
theorem Tokenized.ends_space (h : Tokenized ahead tokens)
    (other : ∀ run rest, tokens ≠ .space run :: rest) : Ends isWhitespace ahead := by
  cases h with
  | nil => exact ends_nil
  | @space run _ rest _ _ _ _ => exact absurd rfl (other run rest)
  | binding _ _ _ _ => exact ends_cons isWhitespace_dollar
  | literal nonempty hpiece _ _ =>
      exact ends_run nonempty fun c hc => (isLiteral_iff.1 (hpiece c hc)).1

/-- White space ends where none follows. -/
theorem Tokenized.not_space (h : Tokenized ahead tokens) (ends : Ends isWhitespace ahead)
    (run : List Char) (rest : List Token) : tokens ≠ .space run :: rest := by
  rintro rfl
  cases h with
  | space nonempty hrun _ _ => exact not_ends_run nonempty hrun ends

theorem spells_of_tokenized (h : Tokenized text tokens) : Spells tokens text := by
  induction h with
  | nil => exact .nil
  | @space run ahead tokens nonempty hrun hends hrest ih =>
      refine ih.cons (fun next hnext => ?_) nofun ?_ nofun
      · cases next with
        | space other =>
            obtain ⟨rest, rfl⟩ := List.head?_eq_some_iff.1 (Option.mem_def.1 hnext)
            exact hrest.not_space hends other rest rfl
        | literal _ => trivial
        | binding _ => trivial
      · rintro _ ⟨rfl⟩
        exact ⟨nonempty, hrun⟩
  | @binding c more ahead tokens hc hmore hends _ ih =>
      refine ih.cons (fun next _ => ?_) nofun nofun ?_
      · cases next <;> trivial
      · rintro _ ⟨rfl⟩
        exact longestName_iff.2 ⟨⟨c, more, rfl, hc, hmore⟩, hends⟩
  | @literal piece ahead tokens nonempty hpiece hends hrest ih =>
      refine ih.cons (fun next hnext => ?_) ?_ nofun nofun
      · cases next with
        | literal other =>
            obtain ⟨rest, rfl⟩ := List.head?_eq_some_iff.1 (Option.mem_def.1 hnext)
            exact hrest.not_literal hends other rest rfl
        | space _ => trivial
        | binding _ => trivial
      · rintro _ ⟨rfl⟩
        exact ⟨nonempty, fun c hc => isLiteral_iff.1 (hpiece c hc)⟩

theorem Spells.tokenized (h : Spells tokens text) : Tokenized text tokens := by
  induction tokens generalizing text with
  | nil =>
      obtain rfl : [] = text := h.written
      exact .nil
  | cons token tokens ih =>
      have hrest := ih h.tail
      have hnext := (List.isChain_cons.1 h.separate).1
      obtain rfl : token.write ++ tokens.flatMap Token.write = text := h.written
      cases token with
      | literal piece =>
          obtain ⟨nonempty, hpiece⟩ := h.literals piece List.mem_cons_self
          refine .literal nonempty (fun c hc => isLiteral_iff.2 (hpiece c hc)) ?_ hrest
          refine hrest.ends_literal fun other rest he => ?_
          subst he
          exact hnext _ rfl
      | space run =>
          obtain ⟨nonempty, hrun⟩ := h.spaces run List.mem_cons_self
          refine .space nonempty hrun (hrest.ends_space fun other rest he => ?_) hrest
          subst he
          exact hnext _ rfl
      | binding name =>
          obtain ⟨⟨c, more, rfl, hc, hmore⟩, hends⟩ :=
            longestName_iff.1 (h.names name tokens List.suffix_rfl)
          exact .binding hc hmore hends hrest

/-- Tokens spell a text if it is made of them. -/
theorem spells_iff : Spells tokens text ↔ Tokenized text tokens :=
  ⟨Spells.tokenized, spells_of_tokenized⟩

-- ============================================================ both ends

theorem ends_reverse_trim (text : List Char) : Ends isWhitespace (Text.trim text).reverse := by
  unfold Text.trim
  rw [List.reverse_reverse]
  exact Text.ends_dropWhile _ _

/-- A text that does not start with white space has none as its first token. -/
theorem Spells.head?_ne (h : Spells tokens text) (ends : Ends isWhitespace text) (run : List Char) :
    tokens.head? ≠ some (.space run) := by
  intro he
  obtain ⟨rest, rfl⟩ := List.head?_eq_some_iff.1 he
  exact h.tokenized.not_space ends run rest rfl

/-- A text that does not end with white space has none as its last token. -/
theorem Spells.getLast?_ne (h : Spells tokens text) (ends : Ends isWhitespace text.reverse)
    (run : List Char) : tokens.getLast? ≠ some (.space run) := by
  intro he
  obtain ⟨front, rfl⟩ := List.getLast?_eq_some_iff.1 he
  obtain ⟨nonempty, hrun⟩ := h.spaces run (List.mem_append_right _ List.mem_cons_self)
  obtain rfl : (front ++ [Token.space run]).flatMap Token.write = text := h.written
  rw [List.flatMap_append, List.flatMap_singleton, Token.write, List.reverse_append] at ends
  exact not_ends_run (mt List.reverse_eq_nil_iff.1 nonempty)
    (fun c hc => hrun c (List.mem_reverse.1 hc)) ends

-- ==================================================== reading in one pass

/-- The literal text that is pending, as a token if there is any. -/
def flush (pending : List Char) : List Token :=
  if pending = [] then [] else [.literal pending]

/-- The tokens of a text, read from left to right with the literal text since the last other token
pending, or the byte offset of the first dollar sign without a name. -/
def readFrom (offset : Nat) (pending ahead : List Char) : Except Nat (List Token) :=
  match ahead with
  | [] => .ok (flush pending)
  | c :: rest =>
    if isWhitespace c then
      let run := c :: rest.takeWhile isWhitespace
      (readFrom (offset + byteLength run) [] (rest.dropWhile isWhitespace)).map fun tokens =>
        flush pending ++ .space run :: tokens
    else if c = '$' then
      match _h : splitBinding rest with
      | ([], _) => .error offset
      | (name, left) => (readFrom (offset + 1 + byteLength name) [] left).map fun tokens =>
        flush pending ++ .binding name :: tokens
    else readFrom (offset + c.utf8Size) (pending ++ [c]) rest
termination_by ahead.length
decreasing_by
  · have := (List.dropWhile_sublist (l := rest) isWhitespace).length_le
    simp
    omega
  · have := splitBinding_length rest
    rw [_h] at this
    simp at this ⊢
    omega
  · simp

/-- What is pending stands by itself in front of tokens that do not start with a literal. -/
theorem foldr_consLiteral (pending : List Char)
    (other : ∀ piece rest, tokens ≠ .literal piece :: rest) :
    pending.foldr consLiteral tokens = flush pending ++ tokens := by
  induction pending with
  | nil => rfl
  | cons c pending ih =>
      rw [List.foldr_cons, ih]
      cases pending with
      | nil => exact consLiteral_of_not_literal other
      | cons d pending => rfl

theorem tokensFrom_space (offset : Nat) {c : Char} {rest : List Char} (hc : isWhitespace c = true) :
    tokensFrom offset (c :: rest) =
      (tokensFrom (offset + byteLength (c :: rest.takeWhile isWhitespace))
        (rest.dropWhile isWhitespace)).map (.space (c :: rest.takeWhile isWhitespace) :: ·) := by
  rw [tokensFrom, if_pos hc]
  dsimp only
  cases tokensFrom (offset + byteLength (c :: rest.takeWhile isWhitespace)) _ with
  | error e => rfl
  | ok tokens => rfl

theorem tokensFrom_unnamed (offset : Nat) {rest left : List Char}
    (h : splitBinding rest = ([], left)) : tokensFrom offset ('$' :: rest) = .error offset := by
  rw [tokensFrom, if_neg (by decide), if_pos rfl]
  split
  · rfl
  · rename_i nonempty hsplit
    rw [h] at hsplit
    exact absurd (Prod.mk.inj hsplit).1.symm nonempty

theorem tokensFrom_binding (offset : Nat) {rest left : List Char} (nonempty : name ≠ [])
    (h : splitBinding rest = (name, left)) :
    tokensFrom offset ('$' :: rest) =
      (tokensFrom (offset + 1 + byteLength name) left).map (.binding name :: ·) := by
  rw [tokensFrom, if_neg (by decide), if_pos rfl]
  split
  · rename_i hsplit
    rw [h] at hsplit
    exact absurd (Prod.mk.inj hsplit).1 nonempty
  · rename_i hsplit
    rw [h] at hsplit
    obtain ⟨rfl, rfl⟩ := Prod.mk.inj hsplit
    cases tokensFrom (offset + 1 + byteLength name) left with
    | error e => rfl
    | ok tokens => rfl

theorem tokensFrom_cons (offset : Nat) {c : Char} {rest : List Char}
    (hc : ¬isWhitespace c = true) (hdollar : c ≠ '$') :
    tokensFrom offset (c :: rest) =
      (tokensFrom (offset + c.utf8Size) rest).map (consLiteral c) := by
  rw [tokensFrom, if_neg hc, if_neg hdollar]
  cases tokensFrom (offset + c.utf8Size) rest with
  | error e => rfl
  | ok tokens => rfl

/-- What is pending is put in front of what is read of the rest. -/
theorem readFrom_eq (offset : Nat) (pending ahead : List Char) :
    readFrom offset pending ahead =
      (tokensFrom offset ahead).map fun tokens => pending.foldr consLiteral tokens := by
  fun_induction readFrom offset pending ahead with
  | case1 offset pending =>
      have hnil : ∀ piece rest, [] ≠ Token.literal piece :: rest := fun _ _ =>
        (List.cons_ne_nil _ _).symm
      rw [tokensFrom, ← List.append_nil (flush pending), ← foldr_consLiteral pending hnil]
      rfl
  | case2 offset pending c rest hc run ih =>
      rw [ih, tokensFrom_space offset hc]
      cases tokensFrom (offset + byteLength run) (rest.dropWhile isWhitespace) with
      | error e => rfl
      | ok tokens =>
          refine congrArg Except.ok (foldr_consLiteral pending fun piece rest he => ?_).symm
          cases he
  | case3 offset pending rest left hsplit hc =>
      rw [tokensFrom_unnamed offset hsplit]
      rfl
  | case4 offset pending rest name left nonempty hsplit hc ih =>
      rw [ih, tokensFrom_binding offset nonempty hsplit]
      cases tokensFrom (offset + 1 + byteLength name) left with
      | error e => rfl
      | ok tokens =>
          refine congrArg Except.ok (foldr_consLiteral pending fun piece rest he => ?_).symm
          cases he
  | case5 offset pending c rest hc hdollar ih =>
      rw [ih, tokensFrom_cons offset hc hdollar]
      cases tokensFrom (offset + c.utf8Size) rest with
      | error e => rfl
      | ok tokens => exact congrArg Except.ok (List.foldr_append ..)

-- ============================================================ grammars

/-- That a sign has no name is reported of a grammar exactly if it is found when reading it. -/
theorem compile_eq_danglingBinding_iff {name grammar : String}
    {submatchers : List (String × String)} {offset : Nat} :
    compile name grammar submatchers = .error (.danglingBinding name offset) ↔
      tokenize grammar = .error offset := by
  constructor
  · intro h
    unfold compile at h
    dsimp only at h
    split at h
    · rename_i htokens
      obtain ⟨-, rfl⟩ := MicrogrammarError.danglingBinding.inj (Except.error.inj h)
      exact htokens
    · cases h
    · split at h
      · cases h
      · split at h
        · cases h
        · cases h
  · intro h
    unfold compile
    rw [h]

/-- Reading a grammar fails exactly if a dollar sign in the trimmed grammar has no name, and then
the offset of the first such sign is reported. Else it gives the tokens that spell the trimmed
grammar, of which neither the first nor the last is white space; no others do. Reading in one pass,
with the literal text pending, comes to the same. -/
theorem spelling_of_tokenize (grammar : String) :
    let text := Text.trim grammar.toList
    ((∃ offset, tokenize grammar = .error offset) ↔ Dangling text) ∧
    (∀ offset, tokenize grammar = .error offset ↔ IsLeast {n | UnnamedAt text n} offset) ∧
    (∀ name submatchers offset,
      compile name grammar submatchers = .error (.danglingBinding name offset) ↔
        IsLeast {n | UnnamedAt text n} offset) ∧
    (∀ tokens, tokenize grammar = .ok tokens ↔
      Spells tokens text ∧
        ∀ run, tokens.head? ≠ some (.space run) ∧ tokens.getLast? ≠ some (.space run)) ∧
    readFrom 0 [] text = tokenize grammar := by
  intro text
  refine ⟨⟨?_, fun h => ?_⟩, fun offset => tokensFrom_eq_error_iff,
    fun name submatchers offset => compile_eq_danglingBinding_iff.trans tokensFrom_eq_error_iff,
    fun tokens => ?_, ?_⟩
  · rintro ⟨offset, hread⟩
    exact dangling_of_tokensFrom hread
  · cases hread : tokenize grammar with
    | error offset => exact ⟨offset, rfl⟩
    | ok tokens => exact absurd h (tokenized_of_tokensFrom hread).not_dangling
  · rw [spells_iff, ← tokensFrom_eq_ok_iff]
    refine ⟨fun h => ⟨h, fun run => ?_⟩, And.left⟩
    have hspells := spells_of_tokenized (tokenized_of_tokensFrom h)
    exact ⟨hspells.head?_ne (ends_trim _) run, hspells.getLast?_ne (ends_reverse_trim _) run⟩
  · rw [readFrom_eq]
    show (tokenize grammar).map id = tokenize grammar
    exact congrFun Except.map_id _

end TreeQuery.Microgrammar
