/-
Where occurrences stand: what a scan finds is there, and so is what is found again.

An occurrence carries a span and a text; in the text that was scanned the one stands at the
other (`slice?_of_mem_scan`). An occurrence is found again where its text still stands, or
where a scan finds the same text, so in either case the place that is found holds exactly the
text remembered (`slice?_of_locate?`). Updates rely on this: what they replace is what they
have seen.
-/
import TreeQuery.Microgrammar.Locate
import TreeQuery.Proofs.Regex.Search
import TreeQuery.Proofs.Text.Replaced

namespace TreeQuery.Microgrammar

open Text (Span Replacement)

/-- A list taken apart between two places. -/
theorem exists_parts {α : Type} (xs : List α) (start stop : Nat) :
    ∃ rest, xs = xs.take start ++ (xs.take stop).drop start ++ rest := by
  by_cases h : start ≤ stop
  · refine ⟨xs.drop stop, ?_⟩
    have htake : xs.take start = (xs.take stop).take start := by
      rw [List.take_take, Nat.min_eq_left h]
    rw [htake, List.take_append_drop, List.take_append_drop]
  · refine ⟨xs.drop start, ?_⟩
    have hnil : (xs.take stop).drop start = [] := by
      refine List.drop_eq_nil_of_le ?_
      rw [List.length_take]
      omega
    rw [hnil, List.append_nil, List.take_append_drop]

/-- An occurrence found in a text stands there. -/
theorem slice?_of_mem_scan {grammar : Microgrammar} {text : String} {found : Occurrence}
    (h : found ∈ grammar.scan text) : Text.slice? text found.span = some found.text := by
  obtain ⟨m, -, rfl⟩ := List.mem_map.1 h
  obtain ⟨rest, hparts⟩ := exists_parts text.toList m.start m.stop
  refine Text.slice?_eq_some_iff.2 ⟨text.toList.take m.start, rest, ?_⟩
  rw [Text.cut?_eq_some_iff, String.toList_ofList]
  refine ⟨hparts, ?_, ?_⟩
  · show _ = bytesBetween text.toList.toArray 0 m.start
    unfold bytesBetween
    rw [List.drop_zero, List.toList_toArray]
  · show _ = bytesBetween text.toList.toArray 0 m.start +
      bytesBetween text.toList.toArray m.start m.stop
    unfold bytesBetween
    rw [List.drop_zero, List.toList_toArray]

theorem bytesBetween_start (text : Array Char) (place : Nat) :
    bytesBetween text 0 place = Text.byteLength (text.toList.take place) := by
  unfold bytesBetween
  rw [List.drop_zero]

/-- The bytes up to a place are those up to an earlier one and those in between. -/
theorem bytesBetween_add (text : Array Char) {start stop : Nat} (h : start ≤ stop) :
    bytesBetween text 0 start + bytesBetween text start stop = bytesBetween text 0 stop := by
  rw [bytesBetween_start, bytesBetween_start]
  unfold bytesBetween
  rw [← Text.byteLength_append]
  congr 1
  have htake : text.toList.take start = (text.toList.take stop).take start := by
    rw [List.take_take, Nat.min_eq_left h]
  rw [htake, List.take_append_drop]

theorem bytesBetween_pos {text : Array Char} {start stop : Nat} (h : start < stop)
    (hle : stop ≤ text.size) : 0 < bytesBetween text start stop := by
  refine Nat.pos_of_ne_zero fun hzero => ?_
  have hnil := congrArg List.length (Text.eq_nil_of_byteLength hzero)
  rw [List.length_drop, List.length_take, Array.length_toList, List.length_nil] at hnil
  omega

/-- Occurrences do not overlap, and come from left to right. -/
theorem pairwise_scan (grammar : Microgrammar) (text : String) :
    (grammar.scan text).Pairwise fun a b => a.span.stop ≤ b.span.start := by
  unfold scan
  simp only
  rw [List.pairwise_map]
  refine (Regex.pairwise_findAll grammar.inner text.toList.toArray).imp_of_mem ?_
  intro m n hm hn hle
  show bytesBetween _ 0 m.start + bytesBetween _ m.start m.stop ≤ bytesBetween _ 0 n.start
  rw [bytesBetween_add _ (Regex.le_of_mem_findAll hm), ← bytesBetween_add _ hle]
  exact Nat.le_add_right _ _

/-- Different occurrences stand apart. -/
theorem apart_of_scan {grammar : Microgrammar} {text : String} {i j : Nat} {a b : Occurrence}
    (ha : (grammar.scan text)[i]? = some a) (hb : (grammar.scan text)[j]? = some b)
    (hne : i ≠ j) : a.span.Apart b.span := by
  obtain ⟨hi, rfl⟩ := List.getElem?_eq_some_iff.1 ha
  obtain ⟨hj, rfl⟩ := List.getElem?_eq_some_iff.1 hb
  have hpair := List.pairwise_iff_getElem.1 (grammar.pairwise_scan text)
  rcases Nat.lt_or_gt_of_ne hne with h | h
  · exact .inl (hpair i j hi hj h)
  · exact .inr (hpair j i hj hi h)

/-- What comes of choosing between the best so far and the next is among those there were. -/
theorem mem_of_foldl {α : Type} {better : Option α → α → Option α}
    (hbetter : ∀ best x, better best x = some x ∨ better best x = best) {xs : List α}
    {best : Option α} {x : α} (h : xs.foldl better best = some x) : x ∈ xs ∨ best = some x := by
  induction xs generalizing best with
  | nil => exact .inr h
  | cons y rest ih =>
      rw [List.foldl_cons] at h
      rcases ih h with hm | hs
      · exact .inl (List.mem_cons_of_mem _ hm)
      · rcases hbetter best y with hy | hb
        · rw [hy] at hs
          exact .inl (Option.some.inj hs ▸ List.mem_cons_self)
        · exact .inr (hb ▸ hs)

/-- The nearest span is one of the spans. -/
theorem mem_of_nearest? {offset : Nat} {spans : List Span} {span : Span}
    (h : nearest? offset spans = some span) : span ∈ spans := by
  unfold nearest? at h
  refine (mem_of_foldl (fun best s => ?_) h).resolve_right (by simp)
  cases best with
  | none => exact .inl rfl
  | some found =>
      dsimp only
      split
      · exact .inl rfl
      · exact .inr rfl

/-- Where an occurrence is found again its text stands. -/
theorem slice?_of_locate? {grammar : Microgrammar} {seen : Occurrence} {text : String}
    {span : Span} (h : grammar.locate? seen text = some span) :
    Text.slice? text span = some seen.text := by
  unfold locate? at h
  split at h
  · rename_i hs
    exact Option.some.inj h ▸ hs
  · obtain ⟨found, hf, rfl⟩ := List.mem_map.1 (mem_of_nearest? h)
    obtain ⟨hm, ht⟩ := List.mem_filter.1 hf
    rw [beq_iff_eq] at ht
    rw [slice?_of_mem_scan hm, ht]

-- ============================================================ batches

/-- Texts are put in the place of occurrences one after the other, each where its occurrence is
found again when its turn comes. -/
inductive Rewrites (grammar : Microgrammar) :
    String → List (Occurrence × String) → List Span → String → Prop
  | nil (text : String) : Rewrites grammar text [] [] text
  | cons {now next final text : String} {seen : Occurrence} {span : Span}
      {rest : List (Occurrence × String)} {spans : List Span} :
      grammar.locate? seen now = some span → Text.splice? now span text = some next →
      Rewrites grammar next rest spans final →
      Rewrites grammar now ((seen, text) :: rest) (span :: spans) final

/-- What is replaced, if all goes by what was seen at first. -/
def changes (updates : List (Occurrence × String)) : List Replacement :=
  updates.map fun u => ⟨u.1.span, u.2⟩

variable {grammar : Microgrammar} {now final : String} {updates : List (Occurrence × String)}
  {spans : List Span}

theorem Rewrites.spliceAll (h : grammar.Rewrites now updates spans final) :
    Text.spliceAll now (Text.placed (changes updates) spans) = some final := by
  induction h with
  | nil text => rfl
  | cons _ hone _ ih =>
      show (Text.splice? _ _ _).bind _ = _
      rw [hone]
      exact ih

/-- The first occurrence is found where it was seen, so what is to be known is where the others are
found. -/
theorem Rewrites.eq_turns (h : grammar.Rewrites now updates spans final)
    (seen : ∀ u ∈ updates, Text.slice? now u.1.span = some u.1.text)
    (others : spans.tail = (Text.turns [] (changes updates)).tail) :
    spans = Text.turns [] (changes updates) := by
  cases h with
  | nil => rfl
  | @cons _ _ _ text o span rest spans hloc _ _ =>
      have hspan : o.span = span := by
        unfold locate? at hloc
        rw [if_pos (seen _ List.mem_cons_self)] at hloc
        exact Option.some.inj hloc
      rw [← hspan]
      exact congrArg (o.span :: ·) others

/-- As long as moves cancel, each occurrence is found where it was seen. -/
theorem Rewrites.spans_eq (h : grammar.Rewrites now updates spans final) {old : String}
    {done : List Replacement} (hr : Text.Replaced old done now)
    (seen : ∀ u ∈ updates, Text.slice? old u.1.span = some u.1.text)
    (separate : Text.Separate ((done ++ changes updates).map (·.span)))
    (cancel : Text.turns done (changes updates) = (changes updates).map (·.span)) :
    spans = Text.turns done (changes updates) := by
  induction h generalizing done with
  | nil text => rfl
  | @cons now next final text o span rest spans hloc hone _ ih =>
      obtain ⟨hmoved, hrest⟩ := List.cons.inj cancel
      have hmoved : Text.moved done o.span = o.span := hmoved
      obtain ⟨hforward, hapart⟩ := separate.head
      have hslice : Text.slice? now (Text.moved done o.span) = some o.text :=
        hr.slice? hapart (seen _ List.mem_cons_self)
      rw [hmoved] at hslice
      have hspan : span = o.span := by
        unfold locate? at hloc
        rw [if_pos hslice] at hloc
        exact (Option.some.inj hloc).symm
      have hnext : Text.Replaced old (done ++ [⟨o.span, text⟩]) next := by
        refine hr.splice hforward hapart ?_
        show Text.splice? now (Text.moved done o.span) text = _
        rw [hmoved, ← hspan]
        exact hone
      have heq : done ++ [⟨o.span, text⟩] ++ changes rest =
          done ++ changes ((o, text) :: rest) := by simp [changes]
      show span :: spans = Text.moved done o.span ::
        Text.turns (done ++ [⟨o.span, text⟩]) (changes rest)
      rw [hspan, hmoved, ih hnext (fun u hu => seen u (List.mem_cons_of_mem _ hu))
        (by rw [heq]; exact separate) hrest]

/-- Texts put where their occurrences are found again come to all replacements at once, if each
occurrence after the first is found at its own place; so they do if moves cancel, or if the
occurrences come from the right to the left. -/
theorem Rewrites.replaced (h : grammar.Rewrites now updates spans final)
    (seen : ∀ u ∈ updates, Text.slice? now u.1.span = some u.1.text)
    (separate : Text.Separate ((changes updates).map (·.span)))
    (own : spans.tail = (Text.turns [] (changes updates)).tail ∨
      Text.turns [] (changes updates) = (changes updates).map (·.span) ∨
      (changes updates).Pairwise fun a b => b.span.start < a.span.start) :
    Text.Replaced now (changes updates) final := by
  have hturns : spans = Text.turns [] (changes updates) := by
    rcases own with others | cancel | order
    · exact h.eq_turns seen others
    · exact h.spans_eq (Text.replaced_nil _) seen separate cancel
    · exact h.spans_eq (Text.replaced_nil _) seen separate
        (Text.turns_of_descending separate order)
  have hsplices := h.spliceAll
  rw [hturns] at hsplices
  exact Text.replaced_of_spliceAll separate hsplices

end TreeQuery.Microgrammar
