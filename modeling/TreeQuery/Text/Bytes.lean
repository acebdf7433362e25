/-
Text measured in bytes of UTF-8. Every offset of the library counts bytes, yet a text can
only be cut between characters, so cutting is partial: `splitAt?` answers exactly at the
character boundaries, and `splitFloor` moves back to the nearest one. Both work on the
list of characters, where a cut is an equation `text = before ++ after`.
-/

namespace TreeQuery.Text

/-- How many bytes the characters take in UTF-8. -/
def byteLength : List Char → Nat
  | [] => 0
  | c :: rest => c.utf8Size + byteLength rest

@[simp] theorem byteLength_nil : byteLength [] = 0 := rfl

@[simp] theorem byteLength_cons (c : Char) (cs : List Char) :
    byteLength (c :: cs) = c.utf8Size + byteLength cs := rfl

@[simp] theorem byteLength_append (l r : List Char) :
    byteLength (l ++ r) = byteLength l + byteLength r := by
  induction l with
  | nil => simp
  | cons c l ih => simp [ih, Nat.add_assoc]

/-- The text before and after a byte offset; nothing if the offset is past the end or inside
a character. -/
def splitAt? : List Char → Nat → Option (List Char × List Char)
  | text, 0 => some ([], text)
  | [], _ + 1 => none
  | c :: rest, n + 1 =>
    if c.utf8Size ≤ n + 1 then
      (splitAt? rest (n + 1 - c.utf8Size)).map fun (before, after) => (c :: before, after)
    else none

/-- A cut is a decomposition of the text whose first part has the length asked for. -/
theorem splitAt?_eq_some_iff {text before after : List Char} {n : Nat} :
    splitAt? text n = some (before, after) ↔ text = before ++ after ∧ byteLength before = n := by
  fun_induction splitAt? text n generalizing before after with
  | case1 text =>
    constructor
    · rintro h
      cases h
      simp
    · rintro ⟨rfl, h⟩
      cases before with
      | nil => rfl
      | cons c l =>
        have := Char.utf8Size_pos c
        simp at h
        omega
  | case2 n =>
    simp only [reduceCtorEq, List.nil_eq, List.append_eq_nil_iff, false_iff, not_and]
    rintro ⟨rfl, rfl⟩
    simp
  | case3 c rest n hc ih =>
    constructor
    · intro h
      obtain ⟨⟨l, r⟩, hlr, h⟩ := Option.map_eq_some_iff.1 h
      obtain ⟨hr, hl⟩ := ih.1 hlr
      obtain ⟨rfl, rfl⟩ := Prod.mk.inj h
      refine ⟨by simp [hr], ?_⟩
      simp
      omega
    · rintro ⟨h, hl⟩
      cases before with
      | nil => simp at hl
      | cons d l =>
        cases h
        simp only [byteLength_cons] at hl
        have := @ih l after
        rw [this.2 ⟨rfl, by omega⟩]
        rfl
  | case4 c rest n hc =>
    simp only [reduceCtorEq, false_iff, not_and]
    rintro h hl
    cases before with
    | nil => simp at hl
    | cons d l =>
      cases h
      simp only [byteLength_cons] at hl
      omega

/-- The text cut at the greatest character boundary that is not above the offset. -/
def splitFloor : List Char → Nat → List Char × List Char
  | [], _ => ([], [])
  | c :: rest, n =>
    if c.utf8Size ≤ n then
      let (before, after) := splitFloor rest (n - c.utf8Size)
      (c :: before, after)
    else ([], c :: rest)

/-- Nothing is lost by the cut. -/
theorem splitFloor_append (text : List Char) (n : Nat) :
    (splitFloor text n).1 ++ (splitFloor text n).2 = text := by
  fun_induction splitFloor text n with
  | case1 => rfl
  | case2 c rest n hc ih => simp_all
  | case3 => rfl

/-- A range of byte offsets: from `start`, up to and without `stop`. -/
structure Span where
  start : Nat
  stop : Nat
deriving DecidableEq, Repr, Inhabited

namespace Span

/-- How many bytes the span covers. -/
def length (span : Span) : Nat := span.stop - span.start

/-- The span that covers all of a text. -/
def whole (text : String) : Span := ⟨0, text.utf8ByteSize⟩

/-- Whether `inner` lies within `outer`. -/
def within (inner outer : Span) : Bool := outer.start ≤ inner.start && inner.stop ≤ outer.stop

end Span

/-- The parts of the text before, in and after a span; nothing if the span is no
character-aligned range of the text. -/
def cut? (text : List Char) (span : Span) : Option (List Char × List Char × List Char) := do
  if span.stop < span.start then none else
  let (before, rest) ← splitAt? text span.start
  let (middle, after) ← splitAt? rest (span.stop - span.start)
  return (before, middle, after)

/-- The text at a span, if the span is a character-aligned range of the text. -/
def slice? (text : String) (span : Span) : Option String :=
  (cut? text.toList span).map fun (_, middle, _) => String.ofList middle

/-- The text with what stands at the span replaced. -/
def splice? (text : String) (span : Span) (replacement : String) : Option String :=
  (cut? text.toList span).map fun (before, _, after) =>
    String.ofList (before ++ replacement.toList ++ after)

end TreeQuery.Text
