/-
What patterns in a row match.

A sequence of items is one pattern (`chain`), and it matches where the items match one after the
other (`matches_chain_cons`). Items made of one set of characters match the pieces of a text that
consist of such characters and stand at the place (`Stands`), so what a chain of them matches can
be said in terms of texts, without places in between.
-/
import TreeQuery.Proofs.Regex.Matching
import TreeQuery.Regex.Parser

namespace TreeQuery.Regex

variable {text : Array Char} {start middle stop : Nat} {captures : Captures}

-- ================================================================ chains

/-- Patterns one after the other. -/
def chain : List Regex → Regex
  | [] => .empty
  | first :: rest => rest.foldl .seq first

/-- A draft with nothing but items that can be repeated is the chain of these. -/
theorem sequence_reverse (regexes : List Regex) :
    sequence (regexes.map some).reverse = chain regexes := by
  unfold sequence
  rw [List.reverse_reverse, List.filterMap_map]
  show (match regexes.filterMap some with
    | [] => Regex.empty
    | first :: rest => rest.foldl .seq first) = _
  rw [List.filterMap_some]
  cases regexes with
  | nil => rfl
  | cons first rest => rfl

/-- One match after another, and what they record. -/
def Joined (first second : Nat → Nat → Captures → Prop) (start stop : Nat)
    (captures : Captures) : Prop :=
  ∃ middle before after, first start middle before ∧ second middle stop after ∧
    captures = after ++ before

theorem joined_assoc (first second third : Nat → Nat → Captures → Prop) :
    Joined (Joined first second) third = Joined first (Joined second third) := by
  funext start stop captures
  refine propext ⟨?_, ?_⟩
  · rintro ⟨m, b, a, ⟨m', b', a', h, h', rfl⟩, h'', rfl⟩
    exact ⟨m', b', a ++ a', h, ⟨m, a', a, h', h'', rfl⟩, (List.append_assoc ..).symm⟩
  · rintro ⟨m, b, a, h, ⟨m', b', a', h', h'', rfl⟩, rfl⟩
    exact ⟨m', b' ++ b, a', ⟨m, b, b', h, h', rfl⟩, h'', List.append_assoc ..⟩

theorem joined_empty (first : Nat → Nat → Captures → Prop) :
    Joined first (Matches text .empty) = first := by
  funext start stop captures
  refine propext ⟨?_, fun h => ⟨stop, captures, [], h, ⟨rfl, rfl⟩, rfl⟩⟩
  rintro ⟨_, _, _, h, ⟨rfl, rfl⟩, rfl⟩
  exact h

theorem empty_joined (second : Nat → Nat → Captures → Prop) :
    Joined (Matches text .empty) second = second := by
  funext start stop captures
  refine propext ⟨?_, fun h => ⟨start, [], captures, ⟨rfl, rfl⟩, h, (List.append_nil _).symm⟩⟩
  rintro ⟨_, _, _, ⟨rfl, rfl⟩, h, rfl⟩
  rw [List.append_nil]
  exact h

theorem matches_seq (text : Array Char) (first second : Regex) :
    Matches text (.seq first second) = Joined (Matches text first) (Matches text second) := rfl

/-- Sequences lean to the left, so the first item of one is found by going down all the others. -/
theorem matches_foldl_seq (text : Array Char) (first second : Regex) (rest : List Regex) :
    Matches text (rest.foldl .seq (.seq first second)) =
      Joined (Matches text first) (Matches text (rest.foldl .seq second)) := by
  induction rest generalizing first second with
  | nil => rfl
  | cons third rest ih =>
      rw [List.foldl_cons, List.foldl_cons, ih, ih, matches_seq, joined_assoc]

theorem matches_chain_cons (text : Array Char) (first : Regex) (rest : List Regex) :
    Matches text (chain (first :: rest)) =
      Joined (Matches text first) (Matches text (chain rest)) := by
  cases rest with
  | nil => exact (joined_empty _).symm
  | cons second rest => exact matches_foldl_seq text first second rest

theorem matches_chain_append (text : Array Char) (first second : List Regex) :
    Matches text (chain (first ++ second)) =
      Joined (Matches text (chain first)) (Matches text (chain second)) := by
  induction first with
  | nil => exact (empty_joined _).symm
  | cons regex first ih =>
      rw [List.cons_append, matches_chain_cons, matches_chain_cons, ih, joined_assoc]

-- ================================================================ pieces

/-- The piece stands in the text from one place to another. -/
def Stands (text : Array Char) (start : Nat) (piece : List Char) (stop : Nat) : Prop :=
  piece <+: text.toList.drop start ∧ stop = start + piece.length

theorem stands_nil : Stands text start [] stop ↔ stop = start :=
  ⟨fun h => h.2, fun h => ⟨List.nil_prefix, h⟩⟩

theorem stands_append {piece next : List Char} :
    Stands text start (piece ++ next) stop ↔
      ∃ middle, Stands text start piece middle ∧ Stands text middle next stop := by
  constructor
  · rintro ⟨⟨rest, hrest⟩, hstop⟩
    rw [List.length_append] at hstop
    rw [List.append_assoc] at hrest
    refine ⟨start + piece.length, ⟨⟨next ++ rest, hrest⟩, rfl⟩, ⟨⟨rest, ?_⟩, by omega⟩⟩
    rw [← List.drop_drop, ← hrest, List.drop_left]
  · rintro ⟨middle, ⟨⟨rest, hrest⟩, rfl⟩, ⟨rest', hrest'⟩, rfl⟩
    rw [← List.drop_drop, ← hrest, List.drop_left] at hrest'
    refine ⟨⟨rest', ?_⟩, by rw [List.length_append]; omega⟩
    rw [List.append_assoc, hrest', hrest]

theorem stands_singleton {c : Char} :
    Stands text start [c] stop ↔ text[start]? = some c ∧ stop = start + 1 := by
  unfold Stands
  rw [← Array.getElem?_toList, List.length_singleton]
  refine and_congr_left fun _ => ?_
  constructor
  · rintro ⟨rest, hrest⟩
    have hhead := congrArg List.head? hrest
    rw [List.head?_drop] at hhead
    exact hhead.symm
  · intro h
    obtain ⟨hlt, hc⟩ := List.getElem?_eq_some_iff.1 h
    rw [List.drop_eq_getElem_cons hlt, hc]
    exact ⟨_, rfl⟩

/-- A piece that stands from the start of a text to its end is the text. -/
theorem stands_all {piece : List Char} : Stands text 0 piece text.size ↔ piece = text.toList := by
  unfold Stands
  rw [List.drop_zero, Nat.zero_add, ← Array.length_toList]
  constructor
  · rintro ⟨hstarts, hlength⟩
    exact hstarts.eq_of_length hlength.symm
  · rintro rfl
    exact ⟨List.prefix_rfl, rfl⟩

-- ================================================================= sets

variable {set : CharSet}

theorem matches_one_iff : Matches text (.one set) start stop captures ↔
    ∃ c, set.has c = true ∧ Stands text start [c] stop ∧ captures = [] := by
  constructor
  · rintro ⟨⟨c, hc, hset⟩, hstop, hnone⟩
    exact ⟨c, hset, stands_singleton.2 ⟨hc, hstop⟩, hnone⟩
  · rintro ⟨c, hset, hstands, hnone⟩
    obtain ⟨hc, hstop⟩ := stands_singleton.1 hstands
    exact ⟨⟨c, hc, hset⟩, hstop, hnone⟩

theorem rounds_one_set_iff {n : Nat} :
    Rounds (Matches text (.one set)) start n stop captures ↔
      ∃ piece, piece.length = n ∧ (∀ c ∈ piece, set.has c = true) ∧
        Stands text start piece stop ∧ captures = [] := by
  induction n generalizing stop captures with
  | zero =>
      constructor
      · intro h
        cases h with
        | zero => exact ⟨[], rfl, fun _ hc => absurd hc List.not_mem_nil, stands_nil.2 rfl, rfl⟩
      · rintro ⟨piece, hlength, -, hstands, rfl⟩
        obtain rfl := List.eq_nil_of_length_eq_zero hlength
        obtain rfl := stands_nil.1 hstands
        exact .zero
  | succ n ih =>
      constructor
      · intro h
        cases h with
        | succ hrest hone =>
            obtain ⟨piece, hlength, hpiece, hstands, rfl⟩ := ih.1 hrest
            obtain ⟨c, hc, hlast, rfl⟩ := matches_one_iff.1 hone
            refine ⟨piece ++ [c], by simp [hlength], fun d hd => ?_,
              stands_append.2 ⟨_, hstands, hlast⟩, rfl⟩
            rcases List.mem_append.1 hd with hd | hd
            · exact hpiece d hd
            · exact List.mem_singleton.1 hd ▸ hc
      · rintro ⟨piece, hlength, hpiece, hstands, rfl⟩
        rcases List.eq_nil_or_concat piece with rfl | ⟨most, c, rfl⟩
        · cases hlength
        · rw [List.concat_eq_append] at hlength hpiece hstands
          obtain ⟨middle, hmost, hlast⟩ := stands_append.1 hstands
          have hrest := ih.2 ⟨most, by simpa using hlength,
            fun d hd => hpiece d (List.mem_append_left _ hd), hmost, rfl⟩
          exact hrest.succ (matches_one_iff.2 ⟨c, hpiece c (by simp), hlast, rfl⟩)

/-- Characters of a set without a bound. -/
theorem matches_many_iff {least : Nat} {greedy : Bool} :
    Matches text (.many (.one set) least none greedy) start stop captures ↔
      ∃ piece, least ≤ piece.length ∧ (∀ c ∈ piece, set.has c = true) ∧
        Stands text start piece stop ∧ captures = [] := by
  constructor
  · rintro ⟨n, hn, -, hrounds⟩
    obtain ⟨piece, rfl, hpiece⟩ := rounds_one_set_iff.1 hrounds
    exact ⟨piece, hn, hpiece⟩
  · rintro ⟨piece, hleast, hpiece⟩
    exact ⟨piece.length, hleast, fun _ hb => (by cases hb),
      rounds_one_set_iff.2 ⟨piece, rfl, hpiece⟩⟩

theorem has_singleton {c d : Char} : (CharSet.singleton c).has d = true ↔ d = c := by
  rw [← Char.toNat_inj]
  unfold CharSet.has CharSet.singleton Unicode.Ranges.contains Unicode.Ranges.contains
  split
  · simp only [Bool.false_eq_true, false_iff]
    omega
  · split
    · simp only [true_iff]
      omega
    · simp only [Bool.false_eq_true, false_iff]
      omega

/-- Characters that stand for themselves. -/
theorem matches_characters_iff {literal : List Char} :
    Matches text (chain (literal.map fun c => .one (CharSet.singleton c))) start stop captures ↔
      Stands text start literal stop ∧ captures = [] := by
  induction literal generalizing start stop captures with
  | nil => exact and_congr_left fun _ => stands_nil.symm
  | cons c literal ih =>
      rw [List.map_cons, matches_chain_cons, ← List.singleton_append, stands_append]
      constructor
      · rintro ⟨middle, before, after, hone, hrest, rfl⟩
        obtain ⟨d, hd, hstands, rfl⟩ := matches_one_iff.1 hone
        obtain rfl := has_singleton.1 hd
        obtain ⟨hliteral, rfl⟩ := ih.1 hrest
        exact ⟨⟨middle, hstands, hliteral⟩, rfl⟩
      · rintro ⟨⟨middle, hstands, hrest⟩, rfl⟩
        exact ⟨middle, [], [], matches_one_iff.2 ⟨c, has_singleton.2 rfl, hstands, rfl⟩,
          ih.2 ⟨hrest, rfl⟩, rfl⟩

end TreeQuery.Regex
