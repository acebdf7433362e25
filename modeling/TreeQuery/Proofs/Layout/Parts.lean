/-
Positions inside a part of a text.

# What a part shows

The point at an offset of a part can be found without the text around it, going on from the point
where the part starts. The offset, the line and the column add up (`Position.advance_between`). The
depth of indentation is a matter of the whole line of the point, though. If the line starts before
the part, its depth is known from there; if it ends in the part, or something that is no blank
stands in it there, the part shows all that counts.

# What it does not show

What is left is a part that ends among the blanks a line starts with (`CutShort`). How many more
there are is not seen from the part, whose last line is then indented by what the part holds of it
(`within_of_cut`), and nothing that is told no more than the part and its start could do better:
two texts may have both in common and be indented differently (`within_ne_locate`).
-/
import TreeQuery.Proofs.Layout.Order

namespace TreeQuery.Layout

open Text (Span IsBoundary)

-- ========================================================== indentation

/-- Whether a line can be indented by a character. -/
def isIndent (c : Char) : Bool := c == ' ' || c == '\t'

/-- The depth of a line is that of its start, unless that is blanks only and another one follows. -/
theorem indentDepth_append {start rest : List Char} (unit : String)
    (h : (∀ c ∈ start, isIndent c = true) → ∀ c ∈ rest.head?, isIndent c = false) :
    indentDepth (start ++ rest) unit = indentDepth start unit := by
  have hleading : (start ++ rest).takeWhile isIndent = start.takeWhile isIndent := by
    rw [List.takeWhile_append]
    split
    case isTrue hlength =>
      have hstart := (List.takeWhile_prefix _).eq_of_length hlength
      have hall : ∀ c ∈ start, isIndent c = true := fun c hc =>
        List.mem_takeWhile_imp (hstart.symm ▸ hc)
      have hrest : rest.takeWhile isIndent = [] := by
        cases rest with
        | nil => rfl
        | cons c rest => exact List.takeWhile_cons_of_neg (Bool.eq_false_iff.1 (h hall c rfl))
      rw [hrest, hstart, List.append_nil]
    case isFalse => rfl
  unfold indentDepth
  unfold isIndent at hleading
  simp only [hleading]

/-- Without a newline all is one line. -/
theorem firstLine_of_notMem {text : List Char} (h : '\n' ∉ text) : firstLine text = text :=
  List.takeWhile_eq_self_iff.2 fun _ hc => bne_iff_ne.2 fun he => h (he ▸ hc)

/-- Whether a part ends among the blanks that the line of an offset starts with: the line starts in
the part and is not over there, the part has but blanks of it, and what follows it in the text goes
on with one. -/
def CutShort (part after : List Char) (offset : Nat) : Prop :=
  '\n' ∈ (Text.splitFloor part offset).1 ∧ '\n' ∉ (Text.splitFloor part offset).2 ∧
    (∀ c ∈ lastLine part, isIndent c = true) ∧ ∃ c ∈ after.head?, isIndent c = true

instance (part after : List Char) (offset : Nat) : Decidable (CutShort part after offset) :=
  inferInstanceAs (Decidable (_ ∧ _))

theorem cutShort_iff {start rest after : List Char} :
    CutShort (start ++ rest) after (Text.byteLength start) ↔
      '\n' ∈ start ∧ '\n' ∉ rest ∧ (∀ c ∈ lastLine (start ++ rest), isIndent c = true) ∧
        ∃ c ∈ after.head?, isIndent c = true := by
  unfold CutShort
  rw [Text.splitFloor_of_parts]

-- ============================================================== advance

namespace Position

variable {before start rest after : List Char} {unit : String}

/-- Going on from a point, the offset, the line and the column are as they are in the whole text. -/
theorem advance_between :
    (between before (start ++ rest ++ after) unit).advance start rest =
      { between (before ++ start) (rest ++ after) unit with
        depth :=
          if '\n' ∈ start then indentDepth (lastLine start ++ firstLine rest) unit
          else (between before (start ++ rest ++ after) unit).depth } := by
  unfold between advance
  simp only [Text.byteLength_append, List.count_append, mk.injEq, true_and, and_true]
  refine ⟨by omega, ?_⟩
  by_cases hn : '\n' ∈ start
  · rw [if_pos hn, lastLine_append_of_mem hn]
  · rw [if_neg hn, lastLine_append_of_notMem hn, List.length_append]
    omega

/-- So is the depth, if the line has started before. -/
theorem depth_between_of_notMem (h : '\n' ∉ start) :
    (between before (start ++ rest ++ after) unit).depth =
      (between (before ++ start) (rest ++ after) unit).depth := by
  show indentDepth (lastLine before ++ firstLine (start ++ rest ++ after)) unit =
    indentDepth (lastLine (before ++ start) ++ firstLine (rest ++ after)) unit
  rw [lastLine_append_of_notMem h, List.append_assoc, List.append_assoc,
    firstLine_append_of_notMem h]

/-- If it has started since, the part shows it all unless it is cut short. -/
theorem depth_between_of_mem (h : '\n' ∈ start)
    (hlong : '\n' ∉ rest → (∀ c ∈ lastLine (start ++ rest), isIndent c = true) →
      ∀ c ∈ after.head?, isIndent c = false) :
    indentDepth (lastLine start ++ firstLine rest) unit =
      (between (before ++ start) (rest ++ after) unit).depth := by
  show _ = indentDepth (lastLine (before ++ start) ++ firstLine (rest ++ after)) unit
  rw [lastLine_append_of_mem h]
  by_cases hn : '\n' ∈ rest
  · rw [firstLine_append_of_mem hn]
  · rw [lastLine_append_of_notMem hn] at hlong
    rw [firstLine_of_notMem hn, firstLine_append_of_notMem hn, ← List.append_assoc]
    refine (indentDepth_append unit fun hall c hc => ?_).symm
    obtain ⟨below, hafter⟩ := exists_firstLine_append after
    refine hlong hn hall c ?_
    rw [hafter, List.head?_append, Option.mem_def.1 hc]
    rfl

end Position

-- ================================================================ parts

/-- An offset of a part is found as the offset of the whole text that it stands for, but for the
depth of a line that the part cuts short. -/
theorem Position.locateFrom_of_cut {content part : String} {span : Span} {before after : List Char}
    (hcut : Text.cut? content.toList span = some (before, part.toList, after)) {offset : Nat}
    (hoffset : IsBoundary part.toList offset) (unit : String) :
    (locate content span.start unit).locateFrom part offset =
      if CutShort part.toList after offset then
        { locate content (span.start + offset) unit with
          depth := indentDepth (lastLine part.toList) unit }
      else locate content (span.start + offset) unit := by
  obtain ⟨hcontent, hstart, -⟩ := Text.cut?_eq_some_iff.1 hcut
  obtain ⟨start, rest, hpart, rfl⟩ := Text.isBoundary_iff.1 hoffset
  have hbase : locate content span.start unit = between before (start ++ rest ++ after) unit := by
    rw [← hstart, ← hpart]
    exact locate_of_parts (hcontent.trans (List.append_assoc _ _ _)) unit
  have hwhole : locate content (span.start + Text.byteLength start) unit =
      between (before ++ start) (rest ++ after) unit := by
    rw [← hstart, ← Text.byteLength_append]
    refine locate_of_parts ?_ unit
    rw [hcontent, hpart, List.append_assoc, List.append_assoc, List.append_assoc]
  have hfrom : (locate content span.start unit).locateFrom part (Text.byteLength start) =
      (between before (start ++ rest ++ after) unit).advance start rest := by
    unfold locateFrom
    rw [hbase, hpart, Text.splitFloor_of_parts]
  rw [hfrom, hwhole, hpart, advance_between]
  by_cases hshort : CutShort (start ++ rest) after (Text.byteLength start)
  · obtain ⟨hn, hrest, -⟩ := cutShort_iff.1 hshort
    rw [if_pos hshort, if_pos hn, lastLine_append_of_notMem hrest, firstLine_of_notMem hrest]
  · rw [if_neg hshort]
    by_cases hn : '\n' ∈ start
    · rw [if_pos hn, depth_between_of_mem hn]
      intro hrest hall c hc
      exact Bool.eq_false_iff.2 fun hindent =>
        hshort (cutShort_iff.2 ⟨hn, hrest, hall, c, hc, hindent⟩)
    · rw [if_neg hn, depth_between_of_notMem hn]

/-- What is found for a span of a part, from where the part starts, is what is found for the same
characters in the whole text: the offsets, the lines, the columns and the unit in any case, and the
depths unless the part is cut short at the point. There the depth is that of the blanks that the
part ends in. -/
theorem Extent.within_of_cut {content part : String} {span inner : Span} {before after : List Char}
    (hcut : Text.cut? content.toList span = some (before, part.toList, after))
    (hstart : IsBoundary part.toList inner.start) (hstop : IsBoundary part.toList inner.stop)
    (unit : String) :
    let whole offset := Position.locate content (span.start + offset) unit
    let seen offset :=
      if CutShort part.toList after offset then
        { whole offset with depth := indentDepth (lastLine part.toList) unit }
      else whole offset
    Extent.within (.locate content span.start unit) part inner =
      ⟨seen inner.start, seen inner.stop⟩ := by
  intro whole seen
  unfold within
  rw [Position.locateFrom_of_cut hcut hstart, Position.locateFrom_of_cut hcut hstop]

/-- The case of a value in the second line of a part that stands in the middle of its lines. -/
theorem Extent.within_of_cut_value :
    Text.cut? "x\n  é: v\ny".toList ⟨2, 10⟩ = some ("x\n".toList, "  é: v\n".toList, ['y']) ∧
      Extent.within (.locate "x\n  é: v\ny" 2 "  ") "  é: v\n" ⟨6, 7⟩ =
        ⟨.locate "x\n  é: v\ny" 8 "  ", .locate "x\n  é: v\ny" 9 "  "⟩ := by
  have hcut : Text.cut? "x\n  é: v\ny".toList ⟨2, 10⟩ =
      some ("x\n".toList, "  é: v\n".toList, ['y']) := by decide
  exact ⟨hcut, (within_of_cut hcut (by decide) (by decide) "  ").trans (by decide)⟩

/-- A part that ends among the blanks of its last line: the depth of the line is not found, and a
text that goes on otherwise has the same part at the same point, and another depth. -/
theorem Extent.within_ne_locate :
    (Text.cut? "x\n    y".toList ⟨0, 4⟩ = some ([], "x\n  ".toList, "  y".toList) ∧
      IsBoundary "x\n  ".toList 4 ∧
      Extent.within (.locate "x\n    y" 0 "    ") "x\n  " ⟨4, 4⟩ ≠
        ⟨.locate "x\n    y" 4 "    ", .locate "x\n    y" 4 "    "⟩) ∧
    Text.cut? "x\n  y".toList ⟨0, 4⟩ = some ([], "x\n  ".toList, "y".toList) ∧
      Position.locate "x\n  y" 0 "    " = .locate "x\n    y" 0 "    " ∧
      Position.locate "x\n  y" 4 "    " ≠ .locate "x\n    y" 4 "    " := by
  decide

end TreeQuery.Layout
