/-
Positions from slices.

A position is said of the two parts of a text before and after a point. Who works it out from the
text and an offset in bytes takes slices: the text up to the offset, what follows the last newline
in that, the line that starts there. A slice can fail; its ends must be in order and stand between
characters of the text. `Position.sliced?` and `Position.slicedFrom?` work out positions in this
way, and fail if one of their slices does. None does, whatever the text and the offset, and what
they find is the position (`sliced?_eq`, `slicedFrom?_eq`): the offset is moved back to a boundary
first, and the places of newlines are boundaries.
-/
import Mathlib.Data.List.TakeWhile
import TreeQuery.Layout.Position
import TreeQuery.Proofs.Text.Cut

namespace TreeQuery.Layout

open Text (Span)

-- ============================================================ boundaries

/-- The greatest boundary between characters that is not above the offset. -/
def floor (text : String) (offset : Nat) : Nat :=
  Text.byteLength (Text.splitFloor text.toList offset).1

/-- Where the line starts that a text ends in: behind its last newline. -/
def lineStart (before : String) : Nat :=
  before.utf8ByteSize - Text.byteLength (lastLine before.toList)

/-- The line around a boundary of the text, up to the boundary and as a whole, given the text
before the boundary. -/
def line? (text before : String) (boundary : Nat) : Option (String × String) := do
  let start := lineStart before
  let rest ← Text.slice? text ⟨start, text.utf8ByteSize⟩
  let upTo ← Text.slice? text ⟨start, boundary⟩
  let line ← Text.slice? text ⟨start, start + Text.byteLength (firstLine rest.toList)⟩
  return (upTo, line)

/-- The point at an offset of a text, worked out from slices. -/
def Position.sliced? (text : String) (offset : Nat) (indent : String) : Option Position := do
  let boundary := floor text offset
  let before ← Text.slice? text ⟨0, boundary⟩
  let (upTo, line) ← line? text before boundary
  return {
    offset := boundary
    line := before.toList.count '\n' + 1
    column := upTo.toList.length + 1
    depth := indentDepth line.toList indent
    indent }

/-- The point at an offset of a text that starts at `base`, worked out from slices. -/
def Position.slicedFrom? (base : Position) (text : String) (offset : Nat) : Option Position := do
  let boundary := floor text offset
  let before ← Text.slice? text ⟨0, boundary⟩
  if '\n' ∈ before.toList then
    let (upTo, line) ← line? text before boundary
    return {
      offset := base.offset + boundary
      line := base.line + before.toList.count '\n'
      column := upTo.toList.length + 1
      depth := indentDepth line.toList base.indent
      indent := base.indent }
  else
    return {
      offset := base.offset + boundary
      line := base.line + before.toList.count '\n'
      column := base.column + before.toList.length
      depth := base.depth
      indent := base.indent }

/-- The extent of a span of a text, worked out from slices. -/
def Extent.ofSpan? (text : String) (span : Span) : Option Extent := do
  let start ← Position.sliced? text span.start (detectIndent text)
  let stop ← Position.sliced? text span.stop (detectIndent text)
  return ⟨start, stop⟩

/-- The extent of a span of a text that starts at `base`, worked out from slices. -/
def Extent.within? (base : Position) (text : String) (span : Span) : Option Extent := do
  let start ← base.slicedFrom? text span.start
  let stop ← base.slicedFrom? text span.stop
  return ⟨start, stop⟩

-- ================================================================ lines

variable {text : String} {before after : List Char}

/-- Where a text is three parts, the middle one can be sliced. -/
theorem slice?_of_parts {middle : List Char} (h : text.toList = before ++ middle ++ after) :
    Text.slice? text ⟨Text.byteLength before, Text.byteLength before + Text.byteLength middle⟩ =
      some (String.ofList middle) :=
  Text.slice?_eq_some_iff.2 ⟨before, after, Text.cut?_eq_some_iff.2
    ⟨by rw [String.toList_ofList]; exact h, rfl, by rw [String.toList_ofList]⟩⟩

theorem exists_append_lastLine (before : List Char) :
    ∃ above, before = above ++ lastLine before := by
  refine ⟨(before.reverse.dropWhile (· != '\n')).reverse, ?_⟩
  unfold lastLine
  rw [← List.reverse_append, List.takeWhile_append_dropWhile, List.reverse_reverse]

/-- A line goes on after a point as far as what follows the point does. -/
theorem firstLine_lastLine_append (before after : List Char) :
    firstLine (lastLine before ++ after) = lastLine before ++ firstLine after := by
  refine List.takeWhile_append_of_pos fun c hc => ?_
  have hc : c ∈ before.reverse.takeWhile (· != '\n') := List.mem_reverse.1 hc
  have hother := List.mem_takeWhile_imp hc
  exact hother

theorem exists_firstLine_append (after : List Char) :
    ∃ below, after = firstLine after ++ below :=
  ⟨after.dropWhile (· != '\n'), List.takeWhile_append_dropWhile.symm⟩

/-- The line around the point between two parts of a text. -/
theorem line?_of_parts (h : text.toList = before ++ after) :
    line? text (String.ofList before) (Text.byteLength before) =
      some (String.ofList (lastLine before),
        String.ofList (lastLine before ++ firstLine after)) := by
  obtain ⟨above, hbefore⟩ := exists_append_lastLine before
  obtain ⟨below, hafter⟩ := exists_firstLine_append after
  have hlength : Text.byteLength before =
      Text.byteLength above + Text.byteLength (lastLine before) := by
    rw [← Text.byteLength_append, ← hbefore]
  have hstart : lineStart (String.ofList before) = Text.byteLength above := by
    unfold lineStart
    rw [String.toList_ofList, Text.utf8ByteSize_ofList]
    omega
  have hlines : text.toList = above ++ (lastLine before ++ after) := by
    rw [h, ← List.append_assoc, ← hbefore]
  have hsize : text.utf8ByteSize =
      Text.byteLength above + Text.byteLength (lastLine before ++ after) := by
    rw [← Text.byteLength_toList, hlines, Text.byteLength_append]
  have hrest := @slice?_of_parts text above [] (lastLine before ++ after)
    (by rw [List.append_nil]; exact hlines)
  have hupTo := @slice?_of_parts text above after (lastLine before)
    (by rw [List.append_assoc]; exact hlines)
  have hline := @slice?_of_parts text above below (lastLine before ++ firstLine after)
    (by rw [List.append_assoc, List.append_assoc, ← hafter]; exact hlines)
  unfold line?
  simp only [hstart, hsize, hrest, Option.bind_eq_bind, Option.bind_some, String.toList_ofList,
    firstLine_lastLine_append, hlength, hupTo, hline]
  rfl

-- ============================================================ positions

namespace Position

/-- The slices for the point at an offset are there, and give the point. -/
theorem sliced?_eq (text : String) (offset : Nat) (indent : String) :
    sliced? text offset indent = some (locate text offset indent) := by
  have hparts := (Text.splitFloor_append text.toList offset).symm
  have hbefore := @slice?_of_parts text [] _ _ hparts
  rw [Text.byteLength_nil, Nat.zero_add] at hbefore
  unfold sliced? floor
  simp only [hbefore, Option.bind_eq_bind, Option.bind_some, line?_of_parts hparts,
    String.toList_ofList]
  rfl

theorem slicedFrom?_eq (base : Position) (text : String) (offset : Nat) :
    base.slicedFrom? text offset = some (base.locateFrom text offset) := by
  have hparts := (Text.splitFloor_append text.toList offset).symm
  have hbefore := @slice?_of_parts text [] _ _ hparts
  rw [Text.byteLength_nil, Nat.zero_add] at hbefore
  unfold slicedFrom? locateFrom floor advance
  simp only [hbefore, Option.bind_eq_bind, Option.bind_some, line?_of_parts hparts,
    String.toList_ofList]
  by_cases hn : '\n' ∈ (Text.splitFloor text.toList offset).1
  · simp only [if_pos hn]
    rfl
  · simp only [if_neg hn]
    rfl

end Position

theorem Extent.ofSpan?_eq (text : String) (span : Span) :
    ofSpan? text span = some (ofSpan text span) := by
  unfold ofSpan?
  rw [Position.sliced?_eq, Position.sliced?_eq]
  rfl

theorem Extent.within?_eq (base : Position) (text : String) (span : Span) :
    within? base text span = some (within base text span) := by
  unfold within?
  rw [Position.slicedFrom?_eq, Position.slicedFrom?_eq]
  rfl

end TreeQuery.Layout
