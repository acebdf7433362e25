/-
Cutting and splicing texts, as equations between lists of characters.

A cut at a span is a decomposition of the text whose parts have the byte lengths the span
asks for (`cut?_eq_some_iff`); what stands at the span, the text with the span replaced and
the outcome of an edit made for the span are read off the same decomposition. Everything
that follows about changed texts is said in terms of decompositions, so no proof outside
this file does arithmetic on byte offsets of a single text.
-/
import TreeQuery.Edit

namespace TreeQuery

namespace Text

-- ====================================================== byte lengths

theorem utf8ByteSize_ofList (text : List Char) :
    (String.ofList text).utf8ByteSize = byteLength text := by
  induction text with
  | nil => rfl
  | cons c rest ih =>
      rw [String.ofList_cons, String.utf8ByteSize_append, ih, String.utf8ByteSize_singleton,
        byteLength_cons]

/-- The two measures of a text agree. -/
theorem byteLength_toList (text : String) : byteLength text.toList = text.utf8ByteSize := by
  rw [← utf8ByteSize_ofList, String.ofList_toList]

/-- A text without bytes has no characters. -/
theorem eq_nil_of_byteLength {text : List Char} (h : byteLength text = 0) : text = [] := by
  cases text with
  | nil => rfl
  | cons c rest =>
      have := Char.utf8Size_pos c
      rw [byteLength_cons] at h
      omega

/-- Two ways to take one text apart with first parts of one length are the same way. -/
theorem append_inj_of_byteLength {a b c d : List Char} (h : a ++ b = c ++ d)
    (hl : byteLength a = byteLength c) : a = c ∧ b = d := by
  have ha : splitAt? (a ++ b) (byteLength a) = some (a, b) :=
    splitAt?_eq_some_iff.2 ⟨rfl, rfl⟩
  have hc : splitAt? (c ++ d) (byteLength c) = some (c, d) :=
    splitAt?_eq_some_iff.2 ⟨rfl, rfl⟩
  rw [h, hl, hc] at ha
  obtain ⟨rfl, rfl⟩ := Prod.mk.inj (Option.some.inj ha)
  exact ⟨rfl, rfl⟩

-- ============================================================== cuts

/-- A cut is a decomposition whose parts have the lengths the span asks for. -/
theorem cut?_eq_some_iff {text before middle after : List Char} {span : Span} :
    cut? text span = some (before, middle, after) ↔
      text = before ++ middle ++ after ∧ byteLength before = span.start ∧
        byteLength before + byteLength middle = span.stop := by
  unfold cut?
  by_cases hs : span.stop < span.start
  · simp only [hs, if_true, reduceCtorEq, false_iff]
    rintro ⟨-, h₁, h₂⟩
    omega
  · simp only [hs, if_false, Option.bind_eq_bind, Option.bind_eq_some_iff, Prod.exists,
      splitAt?_eq_some_iff, Option.pure_def, Option.some.injEq, Prod.mk.injEq]
    constructor
    · rintro ⟨b, r, ⟨rfl, hb⟩, m, a, ⟨rfl, hm⟩, rfl, rfl, rfl⟩
      refine ⟨by rw [List.append_assoc], hb, ?_⟩
      omega
    · rintro ⟨rfl, hb, hm⟩
      refine ⟨before, middle ++ after, ⟨by rw [List.append_assoc], hb⟩, middle, after,
        ⟨rfl, ?_⟩, rfl, rfl, rfl⟩
      omega

/-- What stands at a span. -/
theorem slice?_eq_some_iff {text part : String} {span : Span} :
    slice? text span = some part ↔
      ∃ before after, cut? text.toList span = some (before, part.toList, after) := by
  unfold slice?
  constructor
  · intro h
    obtain ⟨⟨before, middle, after⟩, hc, rfl⟩ := Option.map_eq_some_iff.1 h
    exact ⟨before, after, by rw [hc, String.toList_ofList]⟩
  · rintro ⟨before, after, hc⟩
    rw [hc, Option.map_some]
    exact congrArg some String.ofList_toList

theorem splice?_eq_some_iff {text new result : String} {span : Span} :
    splice? text span new = some result ↔
      ∃ before middle after, cut? text.toList span = some (before, middle, after) ∧
        result.toList = before ++ new.toList ++ after := by
  unfold splice?
  constructor
  · intro h
    obtain ⟨⟨before, middle, after⟩, hc, rfl⟩ := Option.map_eq_some_iff.1 h
    exact ⟨before, middle, after, hc, String.toList_ofList⟩
  · rintro ⟨before, middle, after, hc, hr⟩
    rw [hc, Option.map_some]
    show some (String.ofList (before ++ new.toList ++ after)) = some result
    rw [← hr, String.ofList_toList]

/-- A splice, where the decomposition is known. -/
theorem splice?_of_cut? {text new : String} {span : Span} {before middle after : List Char}
    (h : cut? text.toList span = some (before, middle, after)) :
    splice? text span new = some (String.ofList (before ++ new.toList ++ after)) := by
  unfold splice?
  rw [h, Option.map_some]

end Text

-- ============================================================= edits

namespace Edit

open Text (Span)

/-- An edit made for a text expects what the text holds there. -/
theorem accepts_replacing {text new : String} {span : Span} {before middle after : List Char}
    (h : Text.cut? text.toList span = some (before, middle, after)) :
    (replacing text span new).expected.accepts (String.ofList middle) = true := by
  have hs : Text.slice? text span = some (String.ofList middle) :=
    Text.slice?_eq_some_iff.2 ⟨before, after, by rw [h, String.toList_ofList]⟩
  show (Verification.ofText ((Text.slice? text span).getD "")).accepts _ = true
  rw [hs, Option.getD_some]
  exact Verification.accepts_ofText _

/-- An edit made for a span of a text replaces it, unless the replacement stands there. -/
theorem apply_replacing {text new : String} {span : Span} {before middle after : List Char}
    (h : Text.cut? text.toList span = some (before, middle, after)) :
    (replacing text span new).apply text =
      .ok (if String.ofList middle = new then .alreadyApplied
        else .applied (String.ofList (before ++ new.toList ++ after))) := by
  obtain ⟨ht, hb, hm⟩ := Text.cut?_eq_some_iff.1 h
  have hin : ¬ (span.start > span.stop ∨ span.stop > text.utf8ByteSize) := by
    rw [← Text.byteLength_toList, ht, Text.byteLength_append, Text.byteLength_append]
    omega
  unfold apply
  simp only [show (replacing text span new).span = span from rfl,
    show (replacing text span new).replacement = new from rfl, h]
  rw [if_neg (by simpa using hin)]
  by_cases he : String.ofList middle = new
  · rw [if_pos he, if_pos he]
  · rw [if_neg he, if_neg he, if_pos (accepts_replacing h)]

/-- An edit made for what is no span of the text is refused. -/
theorem apply_replacing_of_none {text new : String} {span : Span}
    (h : Text.cut? text.toList span = none) :
    (replacing text span new).apply text = .error (.outOfRange span text.utf8ByteSize) ∨
      (replacing text span new).apply text = .error (.splitsCharacter span) := by
  unfold apply
  simp only [show (replacing text span new).span = span from rfl, h]
  split
  · exact .inl rfl
  · exact .inr rfl

end Edit

end TreeQuery
