/-
The order of positions.

# Boundaries

An offset may lie past the end of the text, or inside a character. `Text.retreat` goes back from
the lesser of the offset and the length, byte by byte, until the text can be cut there. Where it
stops is the greatest boundary that is above neither (`isGreatest_floor`), and the position of the
offset is the position of that boundary (`Position.locate_floor`).

# Lines and columns

Going on from a boundary over at least one character, either a newline is among what is gone over,
and the line is a later one, or the line is the same and the column has grown by as many characters
(`Position.between_before`). So positions are in the order of the boundaries they are found for,
and a line and a column stand for one boundary at most (`locate_order`).
-/
import Mathlib.Order.Bounds.Basic
import TreeQuery.Proofs.Layout.Slicing

namespace TreeQuery

namespace Text

-- ============================================================ boundaries

/-- Whether a text can be cut at an offset. -/
def IsBoundary (text : List Char) (n : Nat) : Prop := (splitAt? text n).isSome = true

instance (text : List Char) (n : Nat) : Decidable (IsBoundary text n) :=
  inferInstanceAs (Decidable (_ = _))

/-- The first boundary that is met going back from an offset. -/
def retreat (text : List Char) : Nat → Nat
  | 0 => 0
  | n + 1 => if IsBoundary text (n + 1) then n + 1 else retreat text n

variable {text : List Char} {n : Nat}

/-- The boundaries of a text are the lengths of what it starts with. -/
theorem isBoundary_iff :
    IsBoundary text n ↔ ∃ before after, text = before ++ after ∧ byteLength before = n := by
  unfold IsBoundary
  simp only [Option.isSome_iff_exists, Prod.exists, splitAt?_eq_some_iff]

theorem isBoundary_zero (text : List Char) : IsBoundary text 0 :=
  isBoundary_iff.2 ⟨[], text, rfl, rfl⟩

/-- No boundary is past the end. -/
theorem IsBoundary.le_byteLength (h : IsBoundary text n) : n ≤ byteLength text := by
  obtain ⟨before, after, rfl, rfl⟩ := isBoundary_iff.1 h
  rw [byteLength_append]
  exact Nat.le_add_right _ _

/-- Of two boundaries the lesser one comes first: something stands between them. -/
theorem exists_between {o₁ o₂ : Nat} (h₁ : IsBoundary text o₁) (h₂ : IsBoundary text o₂)
    (hlt : o₁ < o₂) :
    ∃ before middle after, text = before ++ middle ++ after ∧ middle ≠ [] ∧
      byteLength before = o₁ ∧ byteLength (before ++ middle) = o₂ := by
  obtain ⟨before, rest, htext, rfl⟩ := isBoundary_iff.1 h₁
  obtain ⟨longer, after, hlonger, rfl⟩ := isBoundary_iff.1 h₂
  obtain ⟨middle, hsplit⟩ | ⟨middle, hsplit⟩ :=
    List.append_eq_append_iff.1 (htext.symm.trans hlonger)
  · obtain ⟨rfl, rfl⟩ := hsplit
    refine ⟨before, middle, after, hlonger, ?_, rfl, rfl⟩
    rintro rfl
    rw [List.append_nil] at hlt
    exact Nat.lt_irrefl _ hlt
  · obtain ⟨rfl, rfl⟩ := hsplit
    rw [byteLength_append] at hlt
    omega

/-- Going back finds the greatest of the boundaries that are not above the offset. -/
theorem isGreatest_retreat (text : List Char) (n : Nat) :
    IsGreatest {k | IsBoundary text k ∧ k ≤ n} (retreat text n) := by
  induction n with
  | zero => exact ⟨⟨isBoundary_zero text, Nat.le_refl 0⟩, fun k hk => hk.2⟩
  | succ n ih =>
      by_cases hn : IsBoundary text (n + 1)
      · rw [retreat, if_pos hn]
        exact ⟨⟨hn, Nat.le_refl _⟩, fun k hk => hk.2⟩
      · rw [retreat, if_neg hn]
        refine ⟨⟨ih.1.1, Nat.le_succ_of_le ih.1.2⟩, fun k hk => ih.2 ⟨hk.1, ?_⟩⟩
        have hne : k ≠ n + 1 := fun he => hn (he ▸ hk.1)
        have hle : k ≤ n + 1 := hk.2
        omega

theorem isGreatest_splitFloor (text : List Char) (n : Nat) :
    IsGreatest {k | IsBoundary text k ∧ k ≤ n} (byteLength (splitFloor text n).1) := by
  refine ⟨⟨isBoundary_iff.2 ⟨_, _, (splitFloor_append text n).symm, rfl⟩, ?_⟩, ?_⟩
  · show byteLength (splitFloor text n).1 ≤ n
    fun_induction splitFloor text n with
    | case1 => exact Nat.zero_le _
    | case2 c rest n hc before after hsplit ih =>
        rw [hsplit] at ih
        have ih : byteLength before ≤ n - c.utf8Size := ih
        show c.utf8Size + byteLength before ≤ n
        omega
    | case3 => exact Nat.zero_le _
  · rintro k ⟨hk, hle⟩
    obtain ⟨start, rest, rfl, rfl⟩ := isBoundary_iff.1 hk
    clear hk
    induction start generalizing n with
    | nil => exact Nat.zero_le _
    | cons c start ih =>
        rw [byteLength_cons] at hle
        have := ih (n := n - c.utf8Size) (by omega)
        rw [List.cons_append, splitFloor, if_pos (by omega)]
        exact Nat.add_le_add_left this _

/-- At a boundary the text is cut there. -/
theorem splitFloor_of_parts (before after : List Char) :
    splitFloor (before ++ after) (byteLength before) = (before, after) := by
  have hgreatest := isGreatest_splitFloor (before ++ after) (byteLength before)
  have hlength : byteLength (splitFloor (before ++ after) (byteLength before)).1 =
      byteLength before :=
    Nat.le_antisymm hgreatest.1.2
      (hgreatest.2 ⟨isBoundary_iff.2 ⟨before, after, rfl, rfl⟩, Nat.le_refl _⟩)
  obtain ⟨hbefore, hafter⟩ := append_inj_of_byteLength (splitFloor_append _ _) hlength
  exact Prod.ext hbefore hafter

end Text

namespace Layout

open Text (Span IsBoundary)

theorem isGreatest_floor (text : String) (offset : Nat) :
    IsGreatest {n | IsBoundary text.toList n ∧ n ≤ min offset text.utf8ByteSize}
      (floor text offset) := by
  obtain ⟨⟨hboundary, hle⟩, hgreatest⟩ := Text.isGreatest_splitFloor text.toList offset
  have hsize : floor text offset ≤ text.utf8ByteSize := by
    rw [← Text.byteLength_toList]
    exact hboundary.le_byteLength
  exact ⟨⟨hboundary, Nat.le_min.2 ⟨hle, hsize⟩⟩,
    fun n hn => hgreatest ⟨hn.1, (Nat.le_min.1 hn.2).1⟩⟩

/-- The boundary of an offset is found by going back from it. -/
theorem floor_eq_retreat (text : String) (offset : Nat) :
    floor text offset = Text.retreat text.toList (min offset text.utf8ByteSize) :=
  (isGreatest_floor text offset).unique (Text.isGreatest_retreat _ _)

theorem floor_mono {text : String} {o₁ o₂ : Nat} (h : o₁ ≤ o₂) :
    floor text o₁ ≤ floor text o₂ := by
  obtain ⟨hboundary, hle⟩ := (Text.isGreatest_splitFloor text.toList o₁).1
  exact (Text.isGreatest_splitFloor text.toList o₂).2 ⟨hboundary, Nat.le_trans hle h⟩

-- ================================================================ lines

/-- Without a newline a text belongs to the first line of what it is followed by. -/
theorem firstLine_append_of_notMem {start rest : List Char} (h : '\n' ∉ start) :
    firstLine (start ++ rest) = start ++ firstLine rest :=
  List.takeWhile_append_of_pos fun _ hc => bne_iff_ne.2 fun he => h (he ▸ hc)

/-- With one its own first line is that of the whole. -/
theorem firstLine_append_of_mem {start rest : List Char} (h : '\n' ∈ start) :
    firstLine (start ++ rest) = firstLine start := by
  unfold firstLine
  rw [List.takeWhile_append, if_neg]
  intro hlength
  rw [← (List.takeWhile_prefix _).eq_of_length hlength] at h
  have hother := List.mem_takeWhile_imp h
  exact bne_iff_ne.1 hother rfl

/-- The last line is the first one from the other end. -/
theorem lastLine_eq_reverse (text : List Char) :
    lastLine text = (firstLine text.reverse).reverse := rfl

theorem lastLine_append_of_notMem {before middle : List Char} (h : '\n' ∉ middle) :
    lastLine (before ++ middle) = lastLine before ++ middle := by
  rw [lastLine_eq_reverse, List.reverse_append,
    firstLine_append_of_notMem (mt List.mem_reverse.1 h), List.reverse_append,
    List.reverse_reverse, lastLine_eq_reverse]

theorem lastLine_append_of_mem {before middle : List Char} (h : '\n' ∈ middle) :
    lastLine (before ++ middle) = lastLine middle := by
  rw [lastLine_eq_reverse, List.reverse_append, firstLine_append_of_mem (List.mem_reverse.2 h),
    lastLine_eq_reverse]

-- ============================================================ positions

namespace Position

variable {before middle after : List Char} {unit : String}

/-- Whether a point comes before another one, by their lines and columns. -/
def Before (p q : Position) : Prop := p.line < q.line ∨ p.line = q.line ∧ p.column < q.column

instance (p q : Position) : Decidable (p.Before q) := inferInstanceAs (Decidable (_ ∨ _))

theorem Before.asymm {p q : Position} (h : p.Before q) : ¬ q.Before p := by
  unfold Before at *
  omega

theorem not_before_self (p : Position) : ¬ p.Before p := fun h => h.asymm h

/-- The point at the end of something comes after the point at its start. -/
theorem between_before (h : middle ≠ []) :
    (between before (middle ++ after) unit).Before (between (before ++ middle) after unit) := by
  by_cases hn : '\n' ∈ middle
  · left
    have hcount : 0 < middle.count '\n' := List.count_pos_iff.2 hn
    show before.count '\n' + 1 < (before ++ middle).count '\n' + 1
    rw [List.count_append]
    omega
  · right
    refine ⟨?_, ?_⟩
    · show before.count '\n' + 1 = (before ++ middle).count '\n' + 1
      rw [List.count_append, List.count_eq_zero_of_not_mem hn]
    · show (lastLine before).length + 1 < (lastLine (before ++ middle)).length + 1
      have hlength : 0 < middle.length := List.length_pos_iff.2 h
      rw [lastLine_append_of_notMem hn, List.length_append]
      omega

theorem locate_of_parts {text : String} (h : text.toList = before ++ after) (unit : String) :
    locate text (Text.byteLength before) unit = between before after unit := by
  unfold locate
  rw [h, Text.splitFloor_of_parts]

/-- The position of an offset is that of its boundary. -/
theorem locate_floor (text : String) (offset : Nat) (unit : String) :
    locate text (floor text offset) unit = locate text offset unit :=
  locate_of_parts (Text.splitFloor_append text.toList offset).symm unit

/-- Positions are in the order of their boundaries. -/
theorem locate_before {text : String} {o₁ o₂ : Nat} (h₁ : IsBoundary text.toList o₁)
    (h₂ : IsBoundary text.toList o₂) (hlt : o₁ < o₂) (unit : String) :
    (locate text o₁ unit).Before (locate text o₂ unit) := by
  obtain ⟨before, middle, after, htext, hmiddle, rfl, rfl⟩ := Text.exists_between h₁ h₂ hlt
  rw [locate_of_parts (htext.trans (List.append_assoc _ _ _)), locate_of_parts htext]
  exact between_before hmiddle

/-- Of any two offsets, the position of one is before that of the other if and only if its boundary
is. -/
theorem locate_before_iff (text : String) (o₁ o₂ : Nat) (unit : String) :
    (locate text o₁ unit).Before (locate text o₂ unit) ↔ floor text o₁ < floor text o₂ := by
  have hboundary := fun offset => (isGreatest_floor text offset).1.1
  rw [← locate_floor text o₁, ← locate_floor text o₂]
  refine ⟨fun hbefore => ?_, fun hlt => locate_before (hboundary o₁) (hboundary o₂) hlt unit⟩
  obtain hlt | heq | hgt := Nat.lt_trichotomy (floor text o₁) (floor text o₂)
  · exact hlt
  · rw [heq] at hbefore
    exact absurd hbefore (not_before_self _)
  · exact absurd hbefore (locate_before (hboundary o₂) (hboundary o₁) hgt unit).asymm

/-- The position of any offset is found without a failing slice, and is the position of the greatest
boundary that is above neither the offset nor the length of the text. Of two boundaries the lesser
one has the earlier line, or an earlier column of the same line. So the ends of a span are in order
by their positions as they are by their offsets, and two boundaries with the same line and column
are one. -/
theorem locate_order (text unit : String) :
    (∀ offset,
      sliced? text offset unit = some (locate text offset unit) ∧
      floor text offset = Text.retreat text.toList (min offset text.utf8ByteSize) ∧
      IsGreatest {n | IsBoundary text.toList n ∧ n ≤ min offset text.utf8ByteSize}
        (floor text offset) ∧
      locate text offset unit = locate text (floor text offset) unit) ∧
    (∀ o₁ o₂, IsBoundary text.toList o₁ → IsBoundary text.toList o₂ → o₁ < o₂ →
      (locate text o₁ unit).Before (locate text o₂ unit)) ∧
    (∀ span : Span,
      ((Extent.ofSpan text span).start.Before (Extent.ofSpan text span).stop ↔
        floor text span.start < floor text span.stop) ∧
      (span.start ≤ span.stop →
        ¬ (Extent.ofSpan text span).stop.Before (Extent.ofSpan text span).start)) ∧
    ∀ o₁ o₂, IsBoundary text.toList o₁ → IsBoundary text.toList o₂ →
      (locate text o₁ unit).line = (locate text o₂ unit).line →
      (locate text o₁ unit).column = (locate text o₂ unit).column → o₁ = o₂ := by
  refine ⟨fun offset => ?_, fun o₁ o₂ h₁ h₂ hlt => locate_before h₁ h₂ hlt unit,
    fun span => ⟨locate_before_iff _ _ _ _, fun hle => ?_⟩, fun o₁ o₂ h₁ h₂ hline hcolumn => ?_⟩
  · exact ⟨sliced?_eq text offset unit, floor_eq_retreat text offset, isGreatest_floor text offset,
      (locate_floor text offset unit).symm⟩
  · intro hbefore
    exact Nat.not_lt.2 (floor_mono hle) ((locate_before_iff _ _ _ _).1 hbefore)
  · have hnot : ∀ {p q : Position}, p.line = q.line → p.column = q.column → ¬ p.Before q := by
      unfold Before
      omega
    obtain hlt | heq | hgt := Nat.lt_trichotomy o₁ o₂
    · exact absurd (locate_before h₁ h₂ hlt unit) (hnot hline hcolumn)
    · exact heq
    · exact absurd (locate_before h₂ h₁ hgt unit) (hnot hline.symm hcolumn.symm)

/-- The case of the two ends of a character that takes two bytes, in the second line. -/
theorem locate_order_accent :
    IsBoundary "a\né".toList 2 ∧ IsBoundary "a\né".toList 4 ∧ floor "a\né" 3 = 2 ∧
      (locate "a\né" 2 "  ").Before (locate "a\né" 4 "  ") ∧
      ¬ (Extent.ofSpan "a\né" ⟨2, 4⟩).stop.Before (Extent.ofSpan "a\né" ⟨2, 4⟩).start := by
  obtain ⟨hlocate, hbefore, hspan, -⟩ := locate_order "a\né" "  "
  have h₂ : IsBoundary "a\né".toList 2 := by decide
  have h₄ : IsBoundary "a\né".toList 4 := by decide
  exact ⟨h₂, h₄, (hlocate 3).2.1.trans (by decide), hbefore 2 4 h₂ h₄ (by decide),
    (hspan ⟨2, 4⟩).2 (by decide)⟩

end Position

end Layout

end TreeQuery
