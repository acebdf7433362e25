/-
Occurrences are well formed: in the order of their text, and each in itself.

# The occurrences of a text

From one place there is one preferred match, and none is empty where the last one ended. So the
occurrences of a text start further and further on, and each ends before the next starts
(`ascending_scan`).

# One occurrence

The captures are those of the groups of a match, which lie in it, so that their offsets can be
counted from that of the match (`renders_of_mem_scan`). They are ranges of the text of the
occurrence and go by the names of the bindings in the order of the grammar, some of which may be
missing: `Occurrence.Formed`. It holds of what a scan finds and of what is written in place of an
occurrence, of whatever grammar; if the grammar has been compiled, no name comes twice
(`nodup_bindings_of_compile`), so each capture is the one that its name stands for
(`Occurrence.Formed.lookup`).
-/
import TreeQuery.Proofs.Microgrammar.Captures
import TreeQuery.Proofs.Microgrammar.Pattern
import TreeQuery.Proofs.Project.Files

namespace TreeQuery

open Text (Span)

/-- What the occurrence captures are ranges of its text that cut no character, for some of the
bindings of the grammar, in their order. -/
structure Occurrence.Formed (occurrence : Occurrence) (grammar : Microgrammar) : Prop where
  sliceable : occurrence.Sliceable
  ordered : (occurrence.captures.map Prod.fst).Sublist grammar.bindings

/-- A capture is the one that its name stands for. -/
theorem Occurrence.Formed.lookup {occurrence : Occurrence} {grammar : Microgrammar}
    (h : occurrence.Formed grammar) (distinct : grammar.bindings.Nodup) {name : String}
    {span : Span} (hc : (name, span) ∈ occurrence.captures) :
    occurrence.captures.lookup name = some span :=
  lookup_eq_some_of_mem (h.ordered.nodup distinct) hc

namespace Microgrammar

variable {grammar : Microgrammar} {text : Array Char} {base : Nat} {m : Regex.Match}

-- =============================================================== offsets

/-- The offset of a place grows with the place. -/
theorem bytesBetween_mono {start stop : Nat} (h : start ≤ stop) :
    bytesBetween text 0 start ≤ bytesBetween text 0 stop :=
  bytesBetween_add text h ▸ Nat.le_add_right _ _

/-- Bytes counted from a place are what the offsets differ by. -/
theorem bytesBetween_eq_sub {start stop : Nat} (h : start ≤ stop) :
    bytesBetween text start stop = bytesBetween text 0 stop - bytesBetween text 0 start := by
  rw [← bytesBetween_add text h, Nat.add_sub_cancel_left]

/-- Occurrences come from left to right, one after the other. -/
theorem ascending_scan (grammar : Microgrammar) (text : String) :
    (grammar.scan text).Pairwise fun a b =>
      a.span.start < b.span.start ∧ a.span.stop ≤ b.span.start := by
  refine List.Pairwise.and ?_ (pairwise_scan grammar text)
  unfold scan
  simp only
  rw [List.pairwise_map]
  refine (Regex.ascending_findAll grammar.inner text.toList.toArray).imp_of_mem ?_
  intro m n _ hn hlt
  have hstop := Nat.le_trans (Regex.le_of_mem_findAll hn) (Regex.stop_le_of_mem_findAll hn)
  show bytesBetween _ 0 m.start < bytesBetween _ 0 n.start
  rw [← bytesBetween_add _ (Nat.le_of_lt hlt)]
  exact Nat.lt_add_of_pos_right (bytesBetween_pos hlt hstop)

-- ============================================================== captures

/-- The occurrence is what a match comes to: its captures are the groups of the match, their offsets
counted from that of the match, which is no later than theirs. -/
structure Renders (grammar : Microgrammar) (text : Array Char) (m : Regex.Match)
    (found : Occurrence) : Prop where
  span : found.span = ⟨bytesBetween text 0 m.start, bytesBetween text 0 m.stop⟩
  inside : ∀ {name : String} {place place' : Nat}, m.group? name = some (place, place') →
    found.span.start ≤ bytesBetween text 0 place ∧
      bytesBetween text 0 place ≤ bytesBetween text 0 place' ∧
      bytesBetween text 0 place' ≤ found.span.stop
  captures : found.captures = grammar.bindings.filterMap fun name =>
    (m.group? name).map fun places => (name,
      ⟨bytesBetween text 0 places.1 - found.span.start,
        bytesBetween text 0 places.2 - found.span.start⟩)

/-- Each occurrence of a text is one of its matches. -/
theorem renders_of_mem_scan {source : String} {found : Occurrence}
    (h : found ∈ grammar.scan source) :
    ∃ m ∈ Regex.findAll grammar.inner source.toList.toArray,
      grammar.Renders source.toList.toArray m found := by
  obtain ⟨m, hm, rfl⟩ := List.mem_map.1 h
  have hmatches := Regex.matches_of_mem_findAll hm
  have hstop := bytesBetween_add source.toList.toArray (Regex.le_of_mem_findAll hm)
  refine ⟨m, hm, congrArg (Span.mk _) hstop, fun {name place place'} hgroup => ?_, ?_⟩
  · obtain ⟨hstart, hle, hend⟩ := Regex.Match.group?_within hmatches hgroup
    exact ⟨bytesBetween_mono hstart, bytesBetween_mono hle,
      Nat.le_trans (bytesBetween_mono hend) (Nat.le_of_eq hstop.symm)⟩
  · refine List.filterMap_congr fun name _ => Option.map_congr ?_
    rintro ⟨place, place'⟩ hgroup
    obtain ⟨hstart, hle, -⟩ := Regex.Match.group?_within hmatches hgroup
    simp only
    rw [bytesBetween_eq_sub hstart, bytesBetween_eq_sub (Nat.le_trans hstart hle)]

/-- The names of the captures are the bindings that have taken part. -/
theorem map_fst_capturesOf : (capturesOf grammar text base m).map Prod.fst =
    grammar.bindings.filter fun name => (m.group? name).isSome := by
  unfold capturesOf
  rw [List.map_filterMap, ← List.filterMap_eq_filter]
  refine List.filterMap_congr fun name _ => ?_
  cases hgroup : m.group? name with
  | none => rw [Option.guard, hgroup]; rfl
  | some places => rw [Option.guard, hgroup]; rfl

theorem ordered_capturesOf :
    ((capturesOf grammar text base m).map Prod.fst).Sublist grammar.bindings :=
  map_fst_capturesOf ▸ List.filter_sublist

/-- What a scan finds is well formed. -/
theorem formed_of_mem_scan {source : String} {found : Occurrence}
    (h : found ∈ grammar.scan source) : found.Formed grammar := by
  refine ⟨sliceable_of_mem_scan h, ?_⟩
  obtain ⟨m, -, rfl⟩ := List.mem_map.1 h
  exact ordered_capturesOf

/-- So is what is written in place of an occurrence. -/
theorem formed_written (grammar : Microgrammar) (start : Nat) (source : String) :
    (grammar.written start source).Formed grammar := by
  refine ⟨sliceable_written grammar start source, ?_⟩
  show (((grammar.parseExact source).getD []).map Prod.fst).Sublist grammar.bindings
  cases hexact : grammar.parseExact source with
  | none => exact List.nil_sublist _
  | some captures =>
      obtain ⟨m, -, rfl⟩ := Option.map_eq_some_iff.1 hexact
      exact ordered_capturesOf

/-- A compiled grammar binds no name twice. -/
theorem nodup_bindings_of_compile {name written : String} {submatchers : List (String × String)}
    (h : compile name written submatchers = .ok grammar) : grammar.bindings.Nodup := by
  obtain ⟨tokens, -, -, hdistinct, -, hbindings, -⟩ := compile_eq_ok h
  exact hbindings ▸ (nodup_of_firstRepeated? hdistinct).1

end Microgrammar

end TreeQuery
