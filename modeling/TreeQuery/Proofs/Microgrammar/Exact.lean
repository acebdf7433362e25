/-
An occurrence by itself.

An occurrence is found within a text, and its text is matched as a whole when it is written again.
These are two searches with two patterns, of which the second has to reach the end of the text. Yet
they agree (`parseExact_of_mem_scan`): the second pattern is the first one from the start of a text
to its end (`whole_of_compile`), and what the first one prefers within a text it prefers in what it
has matched, too, if it does not look at what stands around that (`Regex.ends_part`).

What may look around are the submatchers: nothing else in a grammar becomes an assertion
(`assertionFree_inner_iff`), so it can be told from them that the two agree
(`parseExact_of_assertionFree`).
-/
import TreeQuery.Proofs.Microgrammar.Captures
import TreeQuery.Proofs.Microgrammar.Submatchers
import TreeQuery.Proofs.Regex.Cutting

namespace TreeQuery.Microgrammar

open Regex (Captures Contained Match Part chain)
open Text (Span byteLength)

variable {name written : String} {submatchers : List (String × String)} {grammar : Microgrammar}
  {text : Array Char} {start stop q : Nat}

-- ============================================================ patterns

/-- The two patterns of a grammar. -/
theorem whole_of_compile (h : compile name written submatchers = .ok grammar) :
    grammar.whole = .seq (.seq (.assertion .textStart) grammar.inner) (.assertion .textEnd) := by
  obtain ⟨tokens, -, -, -, -, -, hinner, hwhole⟩ := compile_eq_ok h
  exact Regex.whole_of_parse? hinner hwhole

theorem assertionFree_foldl_seq {first : Regex} {rest : List Regex} :
    (rest.foldl .seq first).AssertionFree ↔
      first.AssertionFree ∧ ∀ regex ∈ rest, regex.AssertionFree := by
  induction rest generalizing first with
  | nil => exact (and_iff_left fun _ h => absurd h List.not_mem_nil).symm
  | cons second rest ih =>
      rw [List.foldl_cons, ih, List.forall_mem_cons, ← and_assoc]
      rfl

theorem assertionFree_chain {regexes : List Regex} :
    (chain regexes).AssertionFree ↔ ∀ regex ∈ regexes, regex.AssertionFree := by
  cases regexes with
  | nil => exact iff_of_true trivial fun _ h => absurd h List.not_mem_nil
  | cons first rest => exact assertionFree_foldl_seq.trans List.forall_mem_cons.symm

theorem assertionFree_parts {own : String → Regex} {before after : Option Token} {token : Token} :
    (∀ regex ∈ token.parts own before after, regex.AssertionFree) ↔
      ∀ binding ∈ bindingsOf [token], (own binding).AssertionFree := by
  cases token with
  | literal text =>
      refine iff_of_true (fun regex hr => ?_) fun _ h => absurd h List.not_mem_nil
      obtain ⟨c, -, rfl⟩ := List.mem_map.1 hr
      trivial
  | space run =>
      refine iff_of_true (fun regex hr => ?_) fun _ h => absurd h List.not_mem_nil
      obtain rfl := List.mem_singleton.1 hr
      trivial
  | binding n =>
      show (∀ regex ∈ [Regex.capture _ _], regex.AssertionFree) ↔
        ∀ binding ∈ [String.ofList n], (own binding).AssertionFree
      rw [List.forall_mem_singleton, List.forall_mem_singleton]
      rfl

theorem assertionFree_partsFrom {own : String → Regex} {before : Option Token}
    {tokens : List Token} :
    (∀ regex ∈ partsFrom own before tokens, regex.AssertionFree) ↔
      ∀ binding ∈ bindingsOf tokens, (own binding).AssertionFree := by
  induction tokens generalizing before with
  | nil => exact iff_of_true (fun _ h => absurd h List.not_mem_nil) fun _ h =>
      absurd h List.not_mem_nil
  | cons token rest ih =>
      have hbindings : bindingsOf (token :: rest) = bindingsOf [token] ++ bindingsOf rest :=
        List.filterMap_append (l := [token])
      unfold partsFrom
      rw [List.forall_mem_append, ih, assertionFree_parts, hbindings, List.forall_mem_append]

/-- A grammar whose submatchers stay in their groups holds no assertion if these hold none. -/
theorem assertionFree_inner_iff (h : compile name written submatchers = .ok grammar)
    (contained : ∀ binding ∈ grammar.bindings, ∀ pattern,
      grammar.submatchers.lookup binding = some pattern → ∃ regex, Contained pattern regex) :
    grammar.inner.AssertionFree ↔
      ∀ binding ∈ grammar.bindings, (alone grammar.submatchers binding).AssertionFree := by
  obtain ⟨tokens, -, hbindings, -, hinner, -⟩ := inner_of_contained h contained
  rw [hinner, hbindings, assertionFree_chain, assertionFree_partsFrom]

-- ============================================================ captures

/-- The characters between two places of a text are a part of it. -/
theorem part_of_places (hle : start ≤ stop) (hstop : stop ≤ text.size) :
    Part text start (stop - start) ((text.toList.take stop).drop start).toArray := by
  refine ⟨?_, by omega, fun q hq => ?_⟩
  · rw [List.size_toArray, List.length_drop, List.length_take, Array.length_toList]
    omega
  · rw [List.getElem?_toArray, List.getElem?_drop, List.getElem?_take_of_lt (by omega),
      Array.getElem?_toList]

/-- Bytes are counted in a part of a text as in the text. -/
theorem bytesBetween_part (hq : start + q ≤ stop) :
    bytesBetween ((text.toList.take stop).drop start).toArray 0 q =
      bytesBetween text start (start + q) := by
  unfold bytesBetween
  rw [List.toList_toArray, List.drop_zero, List.take_drop, List.take_take, Nat.min_eq_left hq]

theorem lookup_raise (base : Nat) (captures : Captures) (binding : String) :
    (captures.raise base).lookup binding =
      (captures.lookup binding).map fun places => (base + places.1, base + places.2) := by
  induction captures with
  | nil => rfl
  | cons capture captures ih =>
      show List.lookup binding ((capture.1, _) :: _) = _
      rw [List.lookup_cons, List.lookup_cons]
      cases binding == capture.1 with
      | true => rfl
      | false => exact ih

/-- What is captured in a part of a text is what is captured there in the text. -/
theorem capturesOf_part {captures : Captures} (hle : start ≤ stop)
    (hwithin : captures.Within 0 (stop - start)) :
    capturesOf grammar ((text.toList.take stop).drop start).toArray 0
        ⟨0, stop - start, captures⟩ =
      capturesOf grammar text start ⟨start, stop, captures.raise start⟩ := by
  unfold capturesOf Match.group?
  refine List.filterMap_congr fun binding _ => ?_
  dsimp only
  rw [lookup_raise, Option.map_map]
  cases hplaces : captures.lookup binding with
  | none => rfl
  | some places =>
      obtain ⟨-, hfirst, hsecond⟩ := hwithin _ (mem_of_lookup_eq_some hplaces)
      dsimp only at hfirst hsecond
      rw [Option.map_some, Option.map_some, bytesBetween_part (by omega),
        bytesBetween_part (by omega)]
      rfl

/-- The text of an occurrence is one by itself, with the same captures. -/
theorem parseExact_of_mem_scan (h : compile name written submatchers = .ok grammar)
    (free : grammar.inner.AssertionFree) {input : String} {found : Occurrence}
    (hfound : found ∈ grammar.scan input) :
    grammar.parseExact found.text = some found.captures := by
  obtain ⟨m, hm, rfl⟩ := List.mem_map.1 hfound
  have hle := Regex.le_of_mem_findAll hm
  have hstop := Regex.stop_le_of_mem_findAll hm
  have hpart := part_of_places hle hstop
  obtain ⟨captures, rest, hends, hcaptures⟩ := Regex.ends_part hpart free
    (Regex.matchAt?_of_mem_findAll hm) (Nat.add_sub_cancel' hle).symm
  have hmatches := Regex.matches_of_mem_ends _ _ 0 _ (hends ▸ List.mem_cons_self)
  have hfind := Regex.find?_whole (hpart.size.symm ▸ hends)
  unfold parseExact
  dsimp only
  rw [String.toList_ofList, whole_of_compile h, hfind, Option.map_some, hpart.size,
    capturesOf_part hle hmatches.within, ← hcaptures]

/-- It is so for a grammar whose submatchers stay in their groups and hold no assertions. -/
theorem parseExact_of_assertionFree (h : compile name written submatchers = .ok grammar)
    (contained : ∀ binding ∈ grammar.bindings, ∀ pattern,
      grammar.submatchers.lookup binding = some pattern → ∃ regex, Contained pattern regex)
    (free : ∀ binding ∈ grammar.bindings, (alone grammar.submatchers binding).AssertionFree)
    {input : String} {found : Occurrence} (hfound : found ∈ grammar.scan input) :
    grammar.parseExact found.text = some found.captures :=
  parseExact_of_mem_scan h ((assertionFree_inner_iff h contained).2 free) hfound

theorem assertionFree_letter : letter.inner.AssertionFree := by
  refine (assertionFree_inner_iff compile_letter contained_submatchers_letter).2 ?_
  intro binding hb
  obtain rfl := List.mem_singleton.1 hb
  have halone : alone letter.submatchers "v" = (letterDraft []).finish := by
    show (Regex.parse? "a|b").getD .empty = _
    rw [contained_letter.alone]
    rfl
  rw [halone]
  exact ⟨trivial, trivial⟩

end TreeQuery.Microgrammar
