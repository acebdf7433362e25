/-
What a grammar matches, said without patterns.

The tokens of a grammar describe texts (`Language`): a text that falls into pieces, one for each
token, where a literal stands for itself, a binding for a word, and white space for white space, of
which there must be some only between two words. A compiled grammar matches these texts and no
others, and what its bindings capture is such a division (`language_of_compile`). The patterns do
so because their items do, one token at a time (`matches_itemsFrom_iff`).

How a text is divided is not told: where two bindings border on each other there are several ways,
and the search takes the one it comes upon first. Nor is it told how far an occurrence goes. But
none is passed over: where a text of the language starts, there is an occurrence that starts there,
or an earlier one that goes on beyond the place.
-/
import TreeQuery.Proofs.Microgrammar.Locate
import TreeQuery.Proofs.Microgrammar.Pattern
import TreeQuery.Proofs.Project.Files

namespace TreeQuery.Microgrammar

open Regex (Captures Match Matches Stands Joined chain)
open Text (Span byteLength)

-- ============================================================ language

/-- The token can stand for the piece, given the tokens before and after it. -/
def Token.Admits (before after : Option Token) : Token → List Char → Prop
  | .literal text, piece => piece = text
  | .space _, piece => (∀ c ∈ piece, Unicode.isWhitespace c = true) ∧
    (before.any Token.endsInWord = true → after.any Token.startsWithWord = true → piece ≠ [])
  | .binding _, piece => piece ≠ [] ∧ ∀ c ∈ piece, isNameCharacter c = true

/-- The tokens stand for the pieces one by one, given the token before them. -/
inductive Divided : Option Token → List Token → List (List Char) → Prop
  | nil (before : Option Token) : Divided before [] []
  | cons {before : Option Token} {token : Token} {rest : List Token} {piece : List Char}
      {pieces : List (List Char)} :
      token.Admits before rest.head? piece → Divided (some token) rest pieces →
      Divided before (token :: rest) (piece :: pieces)

/-- The texts that tokens describe. -/
def Language (tokens : List Token) (text : List Char) : Prop :=
  ∃ pieces, Divided none tokens pieces ∧ pieces.flatten = text

/-- Where the pieces of bindings stand, in bytes, if the first piece starts at an offset. -/
def spansFrom (offset : Nat) : List Token → List (List Char) → List (String × Span)
  | .binding n :: rest, piece :: pieces =>
    (String.ofList n, ⟨offset, offset + byteLength piece⟩) ::
      spansFrom (offset + byteLength piece) rest pieces
  | _ :: rest, piece :: pieces => spansFrom (offset + byteLength piece) rest pieces
  | _, _ => []

/-- The captures are those of a division of the text. -/
def Captured (tokens : List Token) (text : List Char) (captures : List (String × Span)) : Prop :=
  ∃ pieces, Divided none tokens pieces ∧ pieces.flatten = text ∧
    captures = spansFrom 0 tokens pieces

variable {text : Array Char} {before : Option Token} {tokens : List Token}
  {pieces : List (List Char)} {start stop : Nat} {captures : Captures}

-- ============================================================= matching

/-- What a search records for the pieces of bindings, in order. -/
def recorded (place : Nat) : List Token → List (List Char) → Captures
  | .binding n :: rest, piece :: pieces =>
    (String.ofList n, place, place + piece.length) ::
      recorded (place + piece.length) rest pieces
  | _ :: rest, piece :: pieces => recorded (place + piece.length) rest pieces
  | _, _ => []

theorem recorded_cons (place : Nat) (token : Token) (rest : List Token) (piece : List Char)
    (pieces : List (List Char)) :
    recorded place (token :: rest) (piece :: pieces) =
      recorded place [token] [piece] ++ recorded (place + piece.length) rest pieces := by
  cases token with
  | literal text => rfl
  | space run => rfl
  | binding n => rfl

theorem leastSpace_le_iff {after : Option Token} {piece : List Char} :
    leastSpace before after ≤ piece.length ↔
      (before.any Token.endsInWord = true → after.any Token.startsWithWord = true →
        piece ≠ []) := by
  unfold leastSpace
  rw [← and_imp, ← Bool.and_eq_true]
  split
  · rename_i hwords
    rw [Nat.succ_le_iff, List.length_pos_iff]
    exact ⟨fun h _ => h, fun h => h hwords⟩
  · rename_i hwords
    exact ⟨fun _ h => absurd h hwords, fun _ => Nat.zero_le _⟩

/-- The items of a token match the pieces that it can stand for. -/
theorem matches_items_iff (before after : Option Token) (token : Token) :
    Matches text (chain (token.items before after)) start stop captures ↔
      ∃ piece, token.Admits before after piece ∧ Stands text start piece stop ∧
        captures = (recorded start [token] [piece]).reverse := by
  cases token with
  | literal literal =>
      show Matches text (chain (literal.map _)) start stop captures ↔ _
      rw [Regex.matches_characters_iff]
      constructor
      · rintro ⟨hstands, hnone⟩
        exact ⟨literal, rfl, hstands, hnone⟩
      · rintro ⟨piece, rfl, hstands, hnone⟩
        exact ⟨hstands, hnone⟩
  | space run =>
      show Matches text (.many (.one Unicode.whitespace) _ none true) start stop captures ↔ _
      rw [Regex.matches_many_iff]
      refine exists_congr fun piece => ?_
      rw [leastSpace_le_iff]
      constructor
      · rintro ⟨hleast, hspace, hstands, hnone⟩
        exact ⟨⟨hspace, hleast⟩, hstands, hnone⟩
      · rintro ⟨⟨hspace, hleast⟩, hstands, hnone⟩
        exact ⟨hleast, hspace, hstands, hnone⟩
  | binding n =>
      show (∃ inner, Matches text (.many (.one Regex.wordCharacters) 1 none true) start stop inner ∧
        captures = (String.ofList n, start, stop) :: inner) ↔ _
      constructor
      · rintro ⟨inner, hmatches, rfl⟩
        obtain ⟨piece, hlength, hpiece, hstands, rfl⟩ := Regex.matches_many_iff.1 hmatches
        refine ⟨piece, ⟨List.ne_nil_of_length_pos hlength, fun c hc => ?_⟩, hstands, ?_⟩
        · rw [← has_wordCharacters]
          exact hpiece c hc
        · rw [hstands.2]
          rfl
      · rintro ⟨piece, ⟨nonempty, hpiece⟩, hstands, rfl⟩
        refine ⟨[], Regex.matches_many_iff.2 ⟨piece, List.length_pos_of_ne_nil nonempty,
          fun c hc => ?_, hstands, rfl⟩, ?_⟩
        · rw [has_wordCharacters]
          exact hpiece c hc
        · rw [hstands.2]
          rfl

/-- The items of tokens match the texts the tokens describe. -/
theorem matches_itemsFrom_iff :
    Matches text (chain (itemsFrom before tokens)) start stop captures ↔
      ∃ pieces, Divided before tokens pieces ∧ Stands text start pieces.flatten stop ∧
        captures = (recorded start tokens pieces).reverse := by
  induction tokens generalizing before start stop captures with
  | nil =>
      constructor
      · rintro ⟨rfl, rfl⟩
        exact ⟨[], .nil before, Regex.stands_nil.2 rfl, rfl⟩
      · rintro ⟨pieces, hdivided, hstands, rfl⟩
        cases hdivided
        exact ⟨Regex.stands_nil.1 hstands, rfl⟩
  | cons token rest ih =>
      unfold itemsFrom
      rw [Regex.matches_chain_append]
      constructor
      · rintro ⟨middle, recorded, recorded', htoken, hrest, rfl⟩
        obtain ⟨piece, hadmits, hstands, rfl⟩ := (matches_items_iff _ _ _).1 htoken
        obtain ⟨pieces, hdivided, hstands', rfl⟩ := ih.1 hrest
        refine ⟨piece :: pieces, .cons hadmits hdivided,
          Regex.stands_append.2 ⟨middle, hstands, hstands'⟩, ?_⟩
        rw [recorded_cons start token rest, List.reverse_append, hstands.2]
      · rintro ⟨_, hdivided, hstands, rfl⟩
        cases hdivided with
        | @cons _ _ _ piece pieces hadmits hdivided =>
            obtain ⟨middle, hpiece, hpieces⟩ := Regex.stands_append.1 hstands
            refine ⟨middle, _, _, (matches_items_iff _ _ _).2 ⟨piece, hadmits, hpiece, rfl⟩,
              ih.2 ⟨pieces, hdivided, hpieces, rfl⟩, ?_⟩
            rw [recorded_cons start token rest, List.reverse_append, hpiece.2]

-- ============================================================ captures

theorem filterMap_lookup {κ α β : Type} [BEq κ] {entries found : List (κ × α)}
    (h : ∀ entry ∈ entries, found.lookup entry.1 = some entry.2) (f : κ → α → β) :
    (entries.map (·.1)).filterMap (fun key => (found.lookup key).map (f key)) =
      entries.map fun entry => f entry.1 entry.2 := by
  rw [List.filterMap_map, ← List.filterMap_eq_map]
  refine List.filterMap_congr fun entry he => ?_
  show (found.lookup entry.1).map (f entry.1) = some (f entry.1 entry.2)
  rw [h entry he]
  rfl

theorem lookup_reverse {κ α : Type} [BEq κ] [LawfulBEq κ] {entries : List (κ × α)}
    (distinct : (entries.map (·.1)).Nodup) {entry : κ × α} (he : entry ∈ entries) :
    entries.reverse.lookup entry.1 = some entry.2 := by
  have hkeys : (entries.reverse.map (·.1)).Nodup := by
    rw [List.map_reverse]
    exact List.nodup_reverse.2 distinct
  exact lookup_eq_some_of_mem hkeys (List.mem_reverse.2 he)

theorem Divided.length_eq (h : Divided before tokens pieces) : pieces.length = tokens.length := by
  induction h with
  | nil => rfl
  | cons _ _ ih => rw [List.length_cons, List.length_cons, ih]

/-- The bindings are recorded in the order of the tokens. -/
theorem names_recorded (hlength : pieces.length = tokens.length) (place : Nat) :
    (recorded place tokens pieces).map (·.1) = bindingsOf tokens := by
  induction tokens generalizing pieces place with
  | nil => rfl
  | cons token rest ih =>
      match pieces, hlength with
      | piece :: pieces, hlength =>
          rw [recorded_cons, List.map_append, ih (Nat.succ.inj hlength)]
          cases token with
          | literal text => rfl
          | space run => rfl
          | binding n => rfl

/-- So they are captured. -/
theorem names_spansFrom (hlength : pieces.length = tokens.length) (offset : Nat) :
    (spansFrom offset tokens pieces).map (·.1) = bindingsOf tokens := by
  induction tokens generalizing pieces offset with
  | nil => rfl
  | cons token rest ih =>
      match pieces, hlength with
      | piece :: pieces, hlength =>
          have hrest := ih (Nat.succ.inj hlength) (offset + byteLength piece)
          cases token with
          | literal text => exact hrest
          | space run => exact hrest
          | binding n => exact congrArg (String.ofList n :: ·) hrest

/-- A piece that stands in a text is what the text has there. -/
theorem drop_take_of_stands {piece : List Char} (h : Stands text start piece stop) :
    (text.toList.take stop).drop start = piece := by
  obtain ⟨hstarts, rfl⟩ := h
  rw [List.drop_take, Nat.add_sub_cancel_left]
  exact (List.prefix_iff_eq_take.1 hstarts).symm

theorem bytesBetween_of_stands {piece : List Char} (h : Stands text start piece stop) :
    bytesBetween text start stop = byteLength piece := by
  unfold bytesBetween
  rw [drop_take_of_stands h]

/-- What is recorded in places is captured in bytes. -/
theorem map_recorded {base : Nat} (hlength : pieces.length = tokens.length) (hle : base ≤ start)
    (hstands : Stands text start pieces.flatten stop) :
    (recorded start tokens pieces).map (fun entry => (entry.1,
        (⟨bytesBetween text base entry.2.1, bytesBetween text base entry.2.2⟩ : Span))) =
      spansFrom (bytesBetween text base start) tokens pieces := by
  induction tokens generalizing pieces start with
  | nil => rfl
  | cons token rest ih =>
      match pieces, hlength with
      | piece :: pieces, hlength =>
          obtain ⟨middle, hpiece, hpieces⟩ := Regex.stands_append.1 hstands
          have hbytes : bytesBetween text base middle =
              bytesBetween text base start + byteLength piece := by
            rw [← bytesBetween_of_stands hpiece]
            have hmiddle := hpiece.2
            have hstart := bytesBetween_add text hle
            have hend := bytesBetween_add text (show start ≤ middle by omega)
            have hwhole := bytesBetween_add text (show base ≤ middle by omega)
            omega
          have hrest := ih (Nat.succ.inj hlength)
            (show base ≤ middle by have := hpiece.2; omega) hpieces
          rw [hbytes, hpiece.2] at hrest
          cases token with
          | literal text => exact hrest
          | space run => exact hrest
          | binding n =>
              rw [hpiece.2] at hbytes
              show _ :: List.map _ _ = _ :: _
              rw [hrest]
              dsimp only
              rw [hbytes]

-- ================================================== texts of the language

theorem ends_trim (text : List Char) : Text.Ends Unicode.isWhitespace (Text.trim text) := by
  have hstart : Text.Ends Unicode.isWhitespace (Text.trimStart text) := Text.ends_dropWhile _ _
  have hstarts : Text.trim text <+: Text.trimStart text := by
    unfold Text.trim
    rw [← List.reverse_suffix, List.reverse_reverse]
    exact List.dropWhile_suffix _
  intro c hc
  obtain ⟨rest, hrest⟩ := hstarts
  refine hstart c ?_
  rw [← hrest, List.head?_append, Option.mem_def.1 hc]
  rfl

/-- No text of the language is empty: a grammar does not start with white space. -/
theorem flatten_ne_nil {written : List Char} (htokens : Tokenized written tokens)
    (hstart : Text.Ends Unicode.isWhitespace written) (nonempty : tokens ≠ [])
    (h : Divided before tokens pieces) : pieces.flatten ≠ [] := by
  cases h with
  | nil => exact absurd rfl nonempty
  | @cons _ token rest piece pieces hadmits _ =>
      have hpiece : piece ≠ [] := by
        cases htokens with
        | space hrun hspace _ _ => exact absurd hstart (Text.not_ends_run hrun hspace)
        | binding _ _ _ _ => exact hadmits.1
        | literal htext _ _ _ => exact hadmits ▸ htext
      rw [List.flatten_cons]
      exact List.append_ne_nil_of_left_ne_nil hpiece _

namespace MadeOf

variable {grammar : Microgrammar} {input : String} (hg : grammar.MadeOf tokens)

include hg

theorem matches_inner_iff : Matches text grammar.inner start stop captures ↔
    ∃ pieces, Divided none tokens pieces ∧ Stands text start pieces.flatten stop ∧
      captures = (recorded start tokens pieces).reverse := by
  rw [hg.inner]
  exact matches_itemsFrom_iff

theorem lt_of_matches_inner (h : Matches text grammar.inner start stop captures) :
    start < stop := by
  obtain ⟨pieces, hdivided, hstands, -⟩ := hg.matches_inner_iff.1 h
  have hlength := List.length_pos_iff.2
    (flatten_ne_nil hg.tokenized (ends_trim _) hg.nonempty hdivided)
  have hstop := hstands.2
  omega

/-- A match of a text as a whole goes from its start to its end. -/
theorem matches_whole_iff : Matches text grammar.whole start stop captures ↔
    start = 0 ∧ stop = text.size ∧ Matches text grammar.inner start stop captures := by
  have hwhole : grammar.whole = .seq (.seq (.assertion .textStart) grammar.inner)
      (.assertion .textEnd) := by
    rw [hg.whole, hg.inner]
    rfl
  rw [hwhole]
  constructor
  · rintro ⟨_, _, _, ⟨_, _, _, ⟨hstart, hfirst, rfl⟩, hinner, rfl⟩, ⟨hend, hlast, rfl⟩, rfl⟩
    rw [hfirst, ← hlast] at hinner
    have hlt := hg.lt_of_matches_inner hinner
    have hbounds := hinner.bounds
    have hsize : text.size ≤ stop := by
      rw [← Array.getElem?_eq_none_iff, hlast]
      exact Option.isNone_iff_eq_none.1 hend
    have hzero : start = 0 := by
      cases start with
      | zero => rfl
      | succ place =>
          have : text.size ≤ place := by
            rw [← Array.getElem?_eq_none_iff]
            exact Option.isNone_iff_eq_none.1 hstart
          omega
    refine ⟨hzero, by omega, ?_⟩
    rw [List.append_nil, List.nil_append]
    exact hinner
  · rintro ⟨rfl, rfl, hinner⟩
    refine ⟨text.size, captures, [], ⟨0, [], captures, ⟨rfl, rfl, rfl⟩, hinner, ?_⟩,
      ⟨?_, rfl, rfl⟩, rfl⟩
    · exact (List.append_nil _).symm
    · show text[text.size]?.isNone = true
      simp

/-- What is captured by a match is a division of the text it matches. -/
theorem captured {m : Match} (h : Matches text grammar.inner m.start m.stop m.captures) :
    Captured tokens ((text.toList.take m.stop).drop m.start)
      (capturesOf grammar text m.start m) := by
  obtain ⟨pieces, hdivided, hstands, hcaptures⟩ := hg.matches_inner_iff.1 h
  refine ⟨pieces, hdivided, (drop_take_of_stands hstands).symm, ?_⟩
  have hnames := names_recorded hdivided.length_eq m.start
  have hdistinct := hg.distinct
  rw [← hnames] at hdistinct
  have hzero : bytesBetween text m.start m.start = 0 := by
    have := bytesBetween_add text (Nat.le_refl m.start)
    omega
  unfold capturesOf Match.group?
  rw [hg.bindings, hcaptures, ← hnames,
    filterMap_lookup fun _ he => lookup_reverse hdistinct he, ← hzero]
  exact map_recorded hdivided.length_eq (Nat.le_refl _) hstands

/-- What is captured in a text as a whole is a division of the text. -/
theorem captured_of_parseExact {captures : List (String × Span)}
    (h : grammar.parseExact input = some captures) : Captured tokens input.toList captures := by
  obtain ⟨m, hm, rfl⟩ := Option.map_eq_some_iff.1 h
  obtain ⟨-, hmatches⟩ := Regex.matches_of_findAmong? hm
  obtain ⟨hstart, hstop, hinner⟩ := hg.matches_whole_iff.1 hmatches
  have hcaptured := hg.captured hinner
  rw [hstart, hstop, List.drop_zero, List.toList_toArray, List.size_toArray,
    List.take_length] at hcaptured
  exact hcaptured

theorem isSome_parseExact (h : Language tokens input.toList) :
    (grammar.parseExact input).isSome = true := by
  obtain ⟨pieces, hdivided, htext⟩ := h
  have hstands : Stands input.toList.toArray 0 pieces.flatten input.toList.toArray.size :=
    Regex.stands_all.2 htext
  have hmatches := hg.matches_whole_iff.2
    ⟨rfl, rfl, hg.matches_inner_iff.2 ⟨pieces, hdivided, hstands, rfl⟩⟩
  obtain ⟨m, hm, -⟩ := Regex.exists_find? (Nat.le_refl 0) (Nat.zero_le _) hmatches
  unfold parseExact
  dsimp only
  rw [hm]
  rfl

/-- What an occurrence captures is a division of its text. -/
theorem captured_of_mem_scan {found : Occurrence} (h : found ∈ grammar.scan input) :
    Captured tokens found.text.toList found.captures := by
  obtain ⟨m, hm, rfl⟩ := List.mem_map.1 h
  have hcaptured := hg.captured (Regex.matches_of_mem_findAll hm)
  show Captured tokens (String.ofList _).toList _
  rw [String.toList_ofList]
  exact hcaptured

/-- Where a text of the language starts, an occurrence starts or an earlier one goes on. -/
theorem exists_mem_scan {earlier middle later : List Char}
    (hinput : input.toList = earlier ++ middle ++ later) (h : Language tokens middle) :
    ∃ found ∈ grammar.scan input, found.span.start ≤ byteLength earlier ∧
      byteLength earlier < found.span.stop := by
  obtain ⟨pieces, hdivided, rfl⟩ := h
  have hstands : Stands input.toList.toArray earlier.length pieces.flatten
      (earlier.length + pieces.flatten.length) := by
    refine ⟨⟨later, ?_⟩, rfl⟩
    rw [List.toList_toArray, hinput, List.append_assoc, List.drop_left]
  have hplace : earlier.length ≤ input.toList.toArray.size := by
    rw [List.size_toArray, hinput, List.append_assoc, List.length_append]
    exact Nat.le_add_right _ _
  obtain ⟨m, hm, hstart, hstop⟩ := Regex.exists_mem_findAll
    (fun _ _ _ => hg.lt_of_matches_inner) hplace
    (hg.matches_inner_iff.2 ⟨pieces, hdivided, hstands, rfl⟩)
  refine ⟨_, List.mem_map.2 ⟨m, hm, rfl⟩, ?_⟩
  have hearlier : bytesBetween input.toList.toArray 0 earlier.length = byteLength earlier := by
    rw [bytesBetween_start, List.toList_toArray, hinput, List.append_assoc, List.take_left]
  have hbefore := bytesBetween_add input.toList.toArray hstart
  have hafter := bytesBetween_add input.toList.toArray (Nat.le_of_lt hstop)
  have hspan := bytesBetween_add input.toList.toArray (Regex.le_of_mem_findAll hm)
  have hmatches := Regex.matches_of_mem_findAll hm
  have hlt := hg.lt_of_matches_inner hmatches
  have hbounds := hmatches.bounds
  have hpos := bytesBetween_pos hstop (show m.stop ≤ input.toList.toArray.size by omega)
  dsimp only
  omega

end MadeOf

/-- A grammar whose bindings match words matches its language and nothing else. A text is one
occurrence if it is in the language, and what is captured then is a division of it; so it is for
the text of each occurrence found in a text. The occurrences come one after the other, and no text
of the language starts before the first, between two of them or after the last: it starts within
one. So none is found if and only if the text holds no text of the language. -/
theorem language_of_compile {name written : String} {submatchers : List (String × String)}
    {grammar : Microgrammar} (h : compile name written submatchers = .ok grammar)
    (plain : ∀ binding ∈ grammar.bindings, grammar.submatchers.lookup binding = none) :
    ∃ tokens, Tokenized (Text.trim written.toList) tokens ∧ ∀ input : String,
      ((grammar.parseExact input).isSome = true ↔ Language tokens input.toList) ∧
      (∀ captures, grammar.parseExact input = some captures →
        Captured tokens input.toList captures) ∧
      (∀ found ∈ grammar.scan input, Text.slice? input found.span = some found.text ∧
        Captured tokens found.text.toList found.captures) ∧
      ((grammar.scan input).Pairwise fun a b => a.span.stop ≤ b.span.start) ∧
      (∀ earlier middle later, input.toList = earlier ++ middle ++ later →
        Language tokens middle → ∃ found ∈ grammar.scan input,
          found.span.start ≤ byteLength earlier ∧ byteLength earlier < found.span.stop) ∧
      (grammar.scan input = [] ↔ ∀ earlier middle later,
        input.toList = earlier ++ middle ++ later → ¬ Language tokens middle) := by
  obtain ⟨rfl, tokens, hg⟩ := madeOf_of_compile h plain
  refine ⟨tokens, hg.tokenized, fun input => ?_⟩
  have hlanguage : ∀ {text captures}, Captured tokens text captures → Language tokens text :=
    fun ⟨pieces, hdivided, htext, _⟩ => ⟨pieces, hdivided, htext⟩
  refine ⟨⟨fun hsome => ?_, hg.isSome_parseExact⟩, fun _ => hg.captured_of_parseExact,
    fun found hf => ⟨slice?_of_mem_scan hf, hg.captured_of_mem_scan hf⟩,
    grammar.pairwise_scan input, fun _ _ _ => hg.exists_mem_scan, ?_⟩
  · obtain ⟨captures, hcaptures⟩ := Option.isSome_iff_exists.1 hsome
    exact hlanguage (hg.captured_of_parseExact hcaptures)
  · constructor
    · intro hnone earlier middle later hinput hm
      obtain ⟨found, hf, -⟩ := hg.exists_mem_scan hinput hm
      rw [hnone] at hf
      cases hf
    · intro hnone
      cases hscan : grammar.scan input with
      | nil => rfl
      | cons found rest =>
          have hf : found ∈ grammar.scan input := hscan ▸ List.mem_cons_self
          obtain ⟨earlier, later, hcut⟩ := Text.slice?_eq_some_iff.1 (slice?_of_mem_scan hf)
          obtain ⟨hinput, -⟩ := Text.cut?_eq_some_iff.1 hcut
          exact absurd (hlanguage (hg.captured_of_mem_scan hf)) (hnone _ _ _ hinput)

/-- The tokens of a grammar for definitions. -/
def definitionTokens : List Token :=
  [.literal ['d', 'e', 'f'], .space [' '], .binding ['n', 'a', 'm', 'e']]

theorem tokenized_definition :
    Tokenized (Text.trim "def $name".toList) definitionTokens := by
  have htrim : Text.trim "def $name".toList = ['d', 'e', 'f'] ++ ([' '] ++
    ('$' :: 'n' :: ['a', 'm', 'e'] ++ [])) := by decide
  rw [htrim]
  refine .literal (by decide) (List.all_eq_true.1 (by decide)) (Text.ends_cons (by decide)) ?_
  refine .space (by decide) (List.all_eq_true.1 (by decide)) (Text.ends_cons (by decide)) ?_
  exact .binding (by decide) (List.all_eq_true.1 (by decide)) Text.ends_nil .nil

theorem language_definition (run word : List Char) (hrun : run ≠ [])
    (hspace : ∀ c ∈ run, Unicode.isWhitespace c = true) (hword : word ≠ [])
    (hname : ∀ c ∈ word, isNameCharacter c = true) :
    Language definitionTokens (['d', 'e', 'f'] ++ run ++ word) := by
  refine ⟨[['d', 'e', 'f'], run, word], .cons rfl (.cons ⟨hspace, fun _ _ => hrun⟩
    (.cons ⟨hword, hname⟩ (.nil _))), ?_⟩
  simp

/-- The case of a grammar for definitions, of a definition with much space in it and one that
stands in a text. -/
theorem language_of_compile_definition : ∃ grammar,
    compile "definition" "def $name" [] = .ok grammar ∧
    (∀ binding ∈ grammar.bindings, grammar.submatchers.lookup binding = none) ∧
    (grammar.parseExact "def  f").isSome = true ∧
    ∃ found ∈ grammar.scan "(def f)", found.span.start ≤ 1 ∧ 1 < found.span.stop := by
  have hcompile := compile_of_tokenized "definition" (by decide) tokenized_definition
    (by decide) (by decide)
  have hplain : ∀ binding ∈ bindingsOf definitionTokens,
      ([] : List (String × String)).lookup binding = none := by simp
  obtain ⟨tokens, htokens, hall⟩ := language_of_compile hcompile hplain
  obtain rfl := htokens.unique tokenized_definition
  obtain ⟨hexact, -⟩ := hall "def  f"
  obtain ⟨-, -, -, -, hfound, -⟩ := hall "(def f)"
  refine ⟨_, hcompile, hplain, hexact.2 ?_, hfound ['('] ['d', 'e', 'f', ' ', 'f'] [')'] rfl ?_⟩
  · exact language_definition [' ', ' '] ['f'] (by decide) (List.all_eq_true.1 (by decide))
      (by decide) (List.all_eq_true.1 (by decide))
  · exact language_definition [' '] ['f'] (by decide) (List.all_eq_true.1 (by decide))
      (by decide) (List.all_eq_true.1 (by decide))

end TreeQuery.Microgrammar
