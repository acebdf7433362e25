/-
The unit that a text is indented by.

# The unit

A line that starts with a tab makes the tab the unit, wherever it stands; else the unit is as many
spaces as the least indented of the indented lines has. Lines of white space do not count. So the
unit is told by the set of the lines (`UnitOf`): neither their order nor how often one occurs
matters, and no lines have two units (`detectIndent_eq_iff`).

It can be found line by line. What is remembered of the lines gone through is the least indentation
so far; a tab ends the search (`unitAlong_eq`).

# Lines in another order

If each line of a text ends with its newline, the lines in another order make a text with just these
lines (`linesInclusive_flatten`), which is indented by the same unit.

# Depths

The unit is never empty, and it goes with every position that is found for the text, also for those
inside a part that starts at one (`Found`). A depth is the greatest number of units that fit into
the spaces of the line (`measures_indentDepth`). There is a greatest one because the unit is not
empty.
-/
import Mathlib.Order.Bounds.Basic
import TreeQuery.Layout.Position

namespace TreeQuery

-- ================================================================ lines

namespace Text

/-- Only at its end can a line have a newline. -/
theorem exists_row_of_mem_linesInclusive {text line : List Char} (h : line ∈ linesInclusive text) :
    ∃ row, '\n' ∉ row ∧ (line = row ++ ['\n'] ∨ line = row) := by
  fun_induction linesInclusive text generalizing line with
  | case1 => cases h
  | case2 rest ih =>
      rcases List.mem_cons.1 h with rfl | h
      · exact ⟨[], List.not_mem_nil, .inl rfl⟩
      · exact ih h
  | case3 c rest hc hrest =>
      obtain rfl := List.mem_singleton.1 h
      exact ⟨[c], fun hmem => hc (List.mem_singleton.1 hmem).symm, .inr rfl⟩
  | case4 c rest hc first more hrest ih =>
      rw [hrest] at ih
      rcases List.mem_cons.1 h with rfl | h
      · obtain ⟨row, hrow, hfirst⟩ := ih List.mem_cons_self
        refine ⟨c :: row, fun hmem => ?_, hfirst.imp (congrArg (c :: ·)) (congrArg (c :: ·))⟩
        exact (List.mem_cons.1 hmem).elim (fun he => hc he.symm) hrow
      · exact ih (List.mem_cons_of_mem _ h)

/-- A first line with its newline is the first one. -/
theorem linesInclusive_append {row : List Char} (hrow : '\n' ∉ row) (rest : List Char) :
    linesInclusive (row ++ '\n' :: rest) = (row ++ ['\n']) :: linesInclusive rest := by
  induction row with
  | nil => exact if_pos rfl
  | cons c row ih =>
      have hc : c ≠ '\n' := fun he => hrow (he ▸ List.mem_cons_self)
      rw [List.cons_append, linesInclusive, if_neg hc,
        ih fun hmem => hrow (List.mem_cons_of_mem _ hmem)]
      rfl

/-- Lines that end with their newlines are the lines of the text that they make. -/
theorem linesInclusive_flatten {order : List (List Char)}
    (h : ∀ line ∈ order, ∃ row, '\n' ∉ row ∧ line = row ++ ['\n']) :
    linesInclusive order.flatten = order := by
  induction order with
  | nil => rfl
  | cons line order ih =>
      obtain ⟨⟨row, hrow, rfl⟩, horder⟩ := List.forall_mem_cons.1 h
      rw [List.flatten_cons, List.append_assoc, List.singleton_append,
        linesInclusive_append hrow, ih horder]

/-- The lines of a text in another order are the lines of what they make, if each ends with its
newline. -/
theorem linesInclusive_flatten_of_perm {text : List Char} {order : List (List Char)}
    (hends : ∀ line ∈ linesInclusive text, line.getLast? = some '\n')
    (h : order.Perm (linesInclusive text)) : linesInclusive order.flatten = order := by
  refine linesInclusive_flatten fun line hline => ?_
  have hmem := h.mem_iff.1 hline
  obtain ⟨row, hrow, rfl | rfl⟩ := exists_row_of_mem_linesInclusive hmem
  · exact ⟨row, hrow, rfl⟩
  · exact absurd (List.mem_of_getLast? (hends line hmem)) hrow

end Text

namespace Layout

open Text (Span)

variable {content unit : String} {lines order : List (List Char)} {line : List Char}
  {seen : List Nat} {n : Nat} {point : Position} {extent : Extent}

-- ============================================================= the unit

/-- The unit of a number of spaces. -/
def spaces (n : Nat) : String := String.ofList (List.replicate n ' ')

/-- What lines are indented by, told by which of them there are that are not blank. -/
inductive UnitOf (lines : List (List Char)) : String → Prop
  | tab {line : List Char} : line ∈ lines → Text.isBlank line = false → line.head? = some '\t' →
      UnitOf lines "\t"
  | least {n : Nat} :
      (∀ line ∈ lines, Text.isBlank line = false → line.head? ≠ some '\t') →
      IsLeast {k | 0 < k ∧ ∃ line ∈ lines, Text.isBlank line = false ∧ leadingSpaces line = k} n →
      UnitOf lines (spaces n)
  | standard :
      (∀ line ∈ lines, Text.isBlank line = false → line.head? ≠ some '\t') →
      (∀ line ∈ lines, Text.isBlank line = false → leadingSpaces line = 0) →
      UnitOf lines defaultIndent

/-- Which lines there are is all that matters. -/
theorem UnitOf.congr (h : UnitOf lines unit) (same : ∀ line, line ∈ lines ↔ line ∈ order) :
    UnitOf order unit := by
  cases h with
  | tab hline hfilled htab => exact .tab ((same _).1 hline) hfilled htab
  | least hnone hleast =>
      refine .least (fun line hline => hnone line ((same line).2 hline)) ?_
      simp only [← same]
      exact hleast
  | standard hnone hflat =>
      exact .standard (fun line hline => hnone line ((same line).2 hline))
        fun line hline => hflat line ((same line).2 hline)

/-- Whether a line that is not blank starts with a tab. -/
def anyTab (lines : List (List Char)) : Bool :=
  (lines.filter fun line => !Text.isBlank line).any fun line => line.head? == some '\t'

/-- How far the lines that are not blank are indented by spaces. -/
def indentations (lines : List (List Char)) : List Nat :=
  (lines.filter fun line => !Text.isBlank line).map leadingSpaces

/-- The unit of lines that come after others with the indentations seen, of which none has been by a
tab. -/
def unitAfter (seen : List Nat) (lines : List (List Char)) : String :=
  if anyTab lines then "\t"
  else match leastPositive? (seen ++ indentations lines) with
    | some n => spaces n
    | none => defaultIndent

theorem detectIndent_eq (content : String) :
    detectIndent content = unitAfter [] (Text.lines content.toList) := rfl

theorem anyTab_iff : anyTab lines = true ↔
    ∃ line ∈ lines, Text.isBlank line = false ∧ line.head? = some '\t' := by
  unfold anyTab
  simp only [List.any_eq_true, List.mem_filter, Bool.not_eq_true', beq_iff_eq, and_assoc]

theorem not_anyTab_iff : ¬anyTab lines = true ↔
    ∀ line ∈ lines, Text.isBlank line = false → line.head? ≠ some '\t' := by
  rw [anyTab_iff]
  simp only [not_exists, not_and, ne_eq]

theorem mem_indentations : n ∈ indentations lines ↔
    ∃ line ∈ lines, Text.isBlank line = false ∧ leadingSpaces line = n := by
  unfold indentations
  simp only [List.mem_map, List.mem_filter, Bool.not_eq_true', and_assoc]

theorem leastPositive?_eq_some_iff :
    leastPositive? seen = some n ↔ IsLeast {k | 0 < k ∧ k ∈ seen} n := by
  unfold leastPositive?
  rw [List.min?_eq_some_iff]
  simp only [List.mem_filter, decide_eq_true_eq, and_comm]
  rfl

theorem leastPositive?_eq_none_iff : leastPositive? seen = none ↔ ∀ k ∈ seen, k = 0 := by
  unfold leastPositive?
  rw [List.min?_eq_none_iff, List.filter_eq_nil_iff]
  simp only [decide_eq_true_eq, Nat.pos_iff_ne_zero, not_not]

/-- The unit of some lines is what they are indented by. -/
theorem unitOf_unitAfter (lines : List (List Char)) : UnitOf lines (unitAfter [] lines) := by
  unfold unitAfter
  by_cases htab : anyTab lines = true
  · rw [if_pos htab]
    obtain ⟨line, hline, hfilled, hhead⟩ := anyTab_iff.1 htab
    exact .tab hline hfilled hhead
  · rw [if_neg htab, List.nil_append]
    have hnone := not_anyTab_iff.1 htab
    cases hleast : leastPositive? (indentations lines) with
    | some n =>
        rw [leastPositive?_eq_some_iff] at hleast
        simp only [mem_indentations] at hleast
        exact .least hnone hleast
    | none =>
        rw [leastPositive?_eq_none_iff] at hleast
        exact .standard hnone fun line hline hfilled =>
          hleast _ (mem_indentations.2 ⟨line, hline, hfilled, rfl⟩)

/-- And they are indented by nothing else. -/
theorem UnitOf.unitAfter_eq (h : UnitOf lines unit) : unitAfter [] lines = unit := by
  unfold unitAfter
  cases h with
  | tab hline hfilled hhead => exact if_pos (anyTab_iff.2 ⟨_, hline, hfilled, hhead⟩)
  | least hnone hleast =>
      rw [if_neg (not_anyTab_iff.2 hnone), List.nil_append, leastPositive?_eq_some_iff.2]
      simp only [mem_indentations]
      exact hleast
  | standard hnone hflat =>
      rw [if_neg (not_anyTab_iff.2 hnone), List.nil_append, leastPositive?_eq_none_iff.2]
      intro k hk
      obtain ⟨line, hline, hfilled, rfl⟩ := mem_indentations.1 hk
      exact hflat line hline hfilled

/-- The unit of a text is what its lines are indented by. -/
theorem detectIndent_eq_iff :
    detectIndent content = unit ↔ UnitOf (Text.lines content.toList) unit := by
  constructor
  · rintro rfl
    exact unitOf_unitAfter _
  · exact UnitOf.unitAfter_eq

theorem spaces_ne_tab (n : Nat) : spaces n ≠ "\t" := by
  intro he
  have htab : '\t' ∈ (spaces n).toList := he ▸ List.mem_singleton.2 rfl
  rw [spaces, String.toList_ofList] at htab
  exact absurd (List.eq_of_mem_replicate htab) (by decide)

/-- The tab is the unit if a line starts with it. -/
theorem detectIndent_eq_tab_iff : detectIndent content = "\t" ↔
    ∃ line ∈ Text.lines content.toList, Text.isBlank line = false ∧ line.head? = some '\t' := by
  rw [detectIndent_eq_iff]
  constructor
  · intro h
    generalize hunit : "\t" = unit at h
    cases h with
    | tab hline hfilled hhead => exact ⟨_, hline, hfilled, hhead⟩
    | least _ _ => exact absurd hunit.symm (spaces_ne_tab _)
    | standard _ _ => exact absurd hunit.symm (spaces_ne_tab 4)
  · rintro ⟨line, hline, hfilled, hhead⟩
    exact .tab hline hfilled hhead

/-- No text is indented by nothing. -/
theorem detectIndent_ne_empty (content : String) : detectIndent content ≠ "" := by
  have h := unitOf_unitAfter (Text.lines content.toList)
  rw [← detectIndent_eq] at h
  generalize detectIndent content = unit at h
  cases h with
  | tab _ _ _ => decide
  | standard _ _ => decide
  | @least n _ hleast =>
      intro he
      have hnil : List.replicate n ' ' = [] := by
        rw [← String.toList_ofList (l := List.replicate n ' ')]
        exact congrArg String.toList he
      have hpos := hleast.1.1
      rw [List.replicate_eq_nil_iff] at hnil
      omega

/-- Texts with the same lines have the same unit. -/
theorem detectIndent_congr {other : String}
    (same : ∀ line, line ∈ Text.lines other.toList ↔ line ∈ Text.lines content.toList) :
    detectIndent other = detectIndent content :=
  detectIndent_eq_iff.2 ((detectIndent_eq_iff.1 rfl).congr fun line => (same line).symm)

/-- The order of its lines does not matter for the unit of a text. -/
theorem detectIndent_of_perm
    (hends : ∀ line ∈ Text.linesInclusive content.toList, line.getLast? = some '\n')
    (h : order.Perm (Text.linesInclusive content.toList)) :
    detectIndent (String.ofList order.flatten) = detectIndent content := by
  refine detectIndent_congr fun line => ?_
  unfold Text.lines
  rw [String.toList_ofList, Text.linesInclusive_flatten_of_perm hends h]
  exact (h.map Text.withoutEnding).mem_iff

-- ========================================================= line by line

/-- The unit of lines, gone through one by one with the least indentation so far, up to the first
that starts with a tab. -/
def unitAlong (least : Option Nat) : List (List Char) → String
  | [] =>
    match least with
    | some n => spaces n
    | none => defaultIndent
  | line :: rest =>
    if Text.isBlank line then unitAlong least rest
    else if line.head? = some '\t' then "\t"
    else if 0 < leadingSpaces line then
      unitAlong (some (least.elim (leadingSpaces line) (min · (leadingSpaces line)))) rest
    else unitAlong least rest

/-- The least indentation, going on with a line. -/
theorem leastPositive?_concat (seen : List Nat) (n : Nat) :
    leastPositive? (seen ++ [n]) =
      if 0 < n then some ((leastPositive? seen).elim n (min · n)) else leastPositive? seen := by
  unfold leastPositive?
  rw [List.filter_append]
  by_cases hpos : 0 < n
  · rw [if_pos hpos, List.filter_cons_of_pos (p := fun k => decide (0 < k)) (decide_eq_true hpos)]
    cases seen.filter (0 < ·) with
    | nil => rfl
    | cons k rest =>
        show some ((rest ++ [n]).foldl min k) = some (min (rest.foldl min k) n)
        rw [List.foldl_append]
        rfl
  · rw [if_neg hpos, List.filter_cons_of_neg (by simpa using hpos), List.filter_nil,
      List.append_nil]

theorem unitAfter_cons_of_blank {rest : List (List Char)} (h : Text.isBlank line = true) :
    unitAfter seen (line :: rest) = unitAfter seen rest := by
  unfold unitAfter anyTab indentations
  rw [List.filter_cons_of_neg (by rw [h]; decide)]

theorem unitAfter_cons_of_tab {rest : List (List Char)} (h : Text.isBlank line = false)
    (htab : line.head? = some '\t') : unitAfter seen (line :: rest) = "\t" :=
  if_pos (anyTab_iff.2 ⟨line, List.mem_cons_self, h, htab⟩)

theorem unitAfter_cons {rest : List (List Char)} (h : Text.isBlank line = false)
    (htab : line.head? ≠ some '\t') :
    unitAfter seen (line :: rest) = unitAfter (seen ++ [leadingSpaces line]) rest := by
  unfold unitAfter anyTab indentations
  rw [List.filter_cons_of_pos (by rw [h]; rfl), List.any_cons, beq_eq_false_iff_ne.2 htab,
    Bool.false_or, List.map_cons, List.append_assoc, List.singleton_append]

/-- The least indentation is all there is to know of the lines gone through. -/
theorem unitAlong_eq (seen : List Nat) (lines : List (List Char)) :
    unitAlong (leastPositive? seen) lines = unitAfter seen lines := by
  induction lines generalizing seen with
  | nil =>
      have hseen : seen ++ indentations [] = seen := List.append_nil seen
      unfold unitAlong unitAfter
      rw [hseen]
      rfl
  | cons line rest ih =>
      rw [unitAlong]
      cases hblank : Text.isBlank line with
      | true => rw [if_pos rfl, ih, unitAfter_cons_of_blank hblank]
      | false =>
          rw [if_neg Bool.false_ne_true]
          by_cases htab : line.head? = some '\t'
          · rw [if_pos htab, unitAfter_cons_of_tab hblank htab]
          · rw [if_neg htab, unitAfter_cons hblank htab, ← ih, leastPositive?_concat]
            split <;> rfl

-- =============================================================== depths

/-- The depth is how many units the line is indented by: its tabs if the unit is one, else the
greatest number of units that fit into its spaces. -/
def Measures (line : List Char) (unit : String) (depth : Nat) : Prop :=
  let leading := line.takeWhile fun c => c == ' ' || c == '\t'
  if unit = "\t" then depth = leading.count '\t'
  else IsGreatest {d | d * unit.utf8ByteSize ≤ leading.count ' '} depth

/-- Depths are found by dividing, and that is by a positive number if the unit is not empty. -/
theorem measures_indentDepth (line : List Char) (h : 0 < unit.utf8ByteSize) :
    Measures line unit (indentDepth line unit) := by
  have hne : ¬unit.isEmpty = true := by
    intro hempty
    rw [String.isEmpty_iff] at hempty
    rw [hempty] at h
    exact absurd h (by decide)
  unfold Measures indentDepth
  dsimp only
  by_cases htab : unit = "\t"
  · rw [if_pos htab, if_pos htab]
  · rw [if_neg htab, if_neg htab, if_neg hne]
    exact ⟨Nat.div_mul_le_self _ _, fun d hd => (Nat.le_div_iff_mul_le h).2 hd⟩

/-- The extents found for a text: those of its spans, and those within a part of it that starts at a
point of an extent found before. -/
inductive Found (content : String) : Extent → Prop
  | whole (span : Span) : Found content (.ofSpan content span)
  | part {extent : Extent} {base : Position} (part : String) (span : Span) :
      Found content extent → base ∈ [extent.start, extent.stop] →
      Found content (.within base part span)

/-- A point in a line that is indented by the unit. -/
structure Position.InUnit (point : Position) (unit : String) : Prop where
  indent : point.indent = unit
  depth : ∃ line, point.depth = indentDepth line unit

theorem Position.inUnit_locate (text : String) (offset : Nat) (unit : String) :
    (locate text offset unit).InUnit unit := ⟨rfl, _, rfl⟩

/-- Inside a part the unit stays that of the point where the part starts. -/
theorem Position.InUnit.locateFrom (h : point.InUnit unit) (text : String) (offset : Nat) :
    (point.locateFrom text offset).InUnit unit := by
  obtain ⟨rfl, hdepth⟩ := h
  refine ⟨rfl, ?_⟩
  unfold Position.locateFrom advance
  dsimp only
  split
  · exact ⟨_, rfl⟩
  · exact hdepth

/-- All points found for a text are in lines indented by its unit. -/
theorem Found.inUnit (h : Found content extent) :
    ∀ point ∈ [extent.start, extent.stop], point.InUnit (detectIndent content) := by
  induction h with
  | whole span =>
      simp only [List.forall_mem_cons, List.not_mem_nil, false_implies, implies_true, and_true]
      exact ⟨Position.inUnit_locate _ _ _, Position.inUnit_locate _ _ _⟩
  | part part span _ hbase ih =>
      have hunit := ih _ hbase
      simp only [List.forall_mem_cons, List.not_mem_nil, false_implies, implies_true, and_true]
      exact ⟨hunit.locateFrom part span.start, hunit.locateFrom part span.stop⟩

/-- The unit of a text is told by its lines, as a set: a tab if one of those that are not blank
starts with a tab, else as many spaces as the least number above zero that one of them starts with,
else four. Going through the lines one by one finds it. The lines in another order make a text with
the same unit if each ends with its newline. It is never empty, so with any position found for the
text, a depth is as many units as fit into the spaces of the line. -/
theorem unit_of_lines (content : String) :
    (detectIndent content = "\t" ↔ ∃ line ∈ Text.lines content.toList,
      Text.isBlank line = false ∧ line.head? = some '\t') ∧
    (∀ unit, detectIndent content = unit ↔ UnitOf (Text.lines content.toList) unit) ∧
    unitAlong none (Text.lines content.toList) = detectIndent content ∧
    (∀ order : List (List Char),
      (∀ line ∈ Text.linesInclusive content.toList, line.getLast? = some '\n') →
      order.Perm (Text.linesInclusive content.toList) →
      detectIndent (String.ofList order.flatten) = detectIndent content) ∧
    detectIndent content ≠ "" ∧
    ∀ extent, Found content extent → ∀ point ∈ [extent.start, extent.stop],
      point.indent = detectIndent content ∧ 0 < point.indent.utf8ByteSize ∧
        ∃ line, point.depth = indentDepth line point.indent ∧
          Measures line point.indent point.depth := by
  refine ⟨detectIndent_eq_tab_iff, fun unit => detectIndent_eq_iff, unitAlong_eq [] _,
    fun order => detectIndent_of_perm, detectIndent_ne_empty content, ?_⟩
  intro extent hfound point hpoint
  obtain ⟨hindent, line, hdepth⟩ := hfound.inUnit point hpoint
  have hpos : 0 < point.indent.utf8ByteSize := by
    rw [hindent, Nat.pos_iff_ne_zero, Ne, String.utf8ByteSize_eq_zero_iff]
    exact detectIndent_ne_empty content
  rw [← hindent] at hdepth
  refine ⟨hindent, hpos, line, hdepth, ?_⟩
  rw [hdepth]
  exact measures_indentDepth line hpos

-- ============================================================= a sample

/-- Four lines, one of them blank and two indented. -/
def steppedText : String := "a\n    b\n\n  c\n"

/-- The lines in another order. -/
def steppedOrder : List (List Char) :=
  ["  c\n".toList, "\n".toList, "a\n".toList, "    b\n".toList]

/-- The letter in the second line, found inside that line. -/
def steppedExtent : Extent := .within (Extent.ofSpan steppedText ⟨2, 7⟩).start "    b" ⟨4, 5⟩

/-- The other order does not change the unit, in which the letter has a depth. -/
theorem unit_of_lines_stepped :
    (∀ line ∈ Text.linesInclusive steppedText.toList, line.getLast? = some '\n') ∧
    steppedOrder.Perm (Text.linesInclusive steppedText.toList) ∧
    detectIndent (String.ofList steppedOrder.flatten) = detectIndent steppedText ∧
    Found steppedText steppedExtent ∧
    steppedExtent.start ∈ [steppedExtent.start, steppedExtent.stop] ∧
    steppedExtent.start.indent = detectIndent steppedText ∧
    0 < steppedExtent.start.indent.utf8ByteSize ∧
    ∃ line, steppedExtent.start.depth = indentDepth line steppedExtent.start.indent ∧
      Measures line steppedExtent.start.indent steppedExtent.start.depth := by
  obtain ⟨-, -, -, hperm, -, hdepth⟩ := unit_of_lines steppedText
  have hends : ∀ line ∈ Text.linesInclusive steppedText.toList, line.getLast? = some '\n' := by
    decide
  have horder : steppedOrder.Perm (Text.linesInclusive steppedText.toList) := by decide
  have hfound : Found steppedText steppedExtent := .part _ _ (.whole ⟨2, 7⟩) List.mem_cons_self
  exact ⟨hends, horder, hperm _ hends horder, hfound, List.mem_cons_self,
    hdepth _ hfound _ List.mem_cons_self⟩

end Layout

end TreeQuery
