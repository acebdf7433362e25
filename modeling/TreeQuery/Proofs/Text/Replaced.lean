/-
Many replacements in one text.

# At once

`Replaced old changes now` says that `now` is `old` with each of some spans replaced and all
between them kept, whatever order the replacements are listed in. It is a decomposition of
both texts side by side (`ReplacedFrom`), as a splice is one of a single text.

# One after the other

A replacement moves all that stands to the right of it. `moved changes span` is where a span of
the old text stands once the changes are made: what they have gained to the left of it and
lost there is accounted for. A span apart from all changes holds there what it held
(`Replaced.slice?`), and a splice there is one more change (`Replaced.splice`). So splices one
after the other come to the same as all at once, if each is made where its span has moved to.
-/
import TreeQuery.Proofs.Text.Cut

namespace TreeQuery.Text

/-- A span of a text, and what comes in its place. -/
structure Replacement where
  span : Span
  text : String
deriving DecidableEq, Repr

/-- No byte belongs to both. -/
def Span.Apart (a b : Span) : Prop := a.stop ≤ b.start ∨ b.stop ≤ a.start

instance (a b : Span) : Decidable (a.Apart b) :=
  inferInstanceAs (Decidable (a.stop ≤ b.start ∨ b.stop ≤ a.start))

-- ============================================================= at once

/-- The changes lead from one text to the other, where both start at `offset` and the changes come
in the order of their spans. -/
inductive ReplacedFrom : Nat → List Char → List Replacement → List Char → Prop
  | kept (offset : Nat) (text : List Char) : ReplacedFrom offset text [] text
  | piece {offset : Nat} {before middle old now : List Char} {span : Span} {new : String}
      {rest : List Replacement} :
      span.start = offset + byteLength before → span.stop = span.start + byteLength middle →
      ReplacedFrom span.stop old rest now →
      ReplacedFrom offset (before ++ middle ++ old) (⟨span, new⟩ :: rest)
        (before ++ new.toList ++ now)

/-- The second text is the first with each of the spans replaced and nothing else changed. -/
def Replaced (old : String) (changes : List Replacement) (now : String) : Prop :=
  ∃ ordered, ordered.Perm changes ∧ ReplacedFrom 0 old.toList ordered now.toList

theorem replaced_nil (text : String) : Replaced text [] text := ⟨[], .refl _, .kept 0 _⟩

variable {offset : Nat} {old now : List Char} {changes : List Replacement}

theorem ReplacedFrom.bounds (h : ReplacedFrom offset old changes now) :
    ∀ c ∈ changes, offset ≤ c.span.start ∧ c.span.start ≤ c.span.stop := by
  induction h with
  | kept offset text => exact fun c hc => by cases hc
  | piece hstart hstop _ ih =>
      intro c hc
      rcases List.mem_cons.1 hc with rfl | hc
      · simp only
        omega
      · have := ih c hc
        omega

/-- The changes come in the order of their spans. -/
theorem ReplacedFrom.ascending (h : ReplacedFrom offset old changes now) :
    changes.Pairwise fun a b => a.span.start ≤ b.span.start := by
  induction h with
  | kept offset text => exact .nil
  | piece hstart hstop hrest ih =>
      refine List.pairwise_cons.2 ⟨fun c hc => ?_, ih⟩
      have := (hrest.bounds c hc).1
      simp only
      omega

/-- In their order, the changes determine what comes out. -/
theorem ReplacedFrom.unique {now' : List Char} (h : ReplacedFrom offset old changes now)
    (h' : ReplacedFrom offset old changes now') : now = now' := by
  induction h generalizing now' with
  | kept offset text =>
      cases h'
      rfl
  | @piece offset before middle old now span new rest hstart hstop _ ih =>
      generalize hall : before ++ middle ++ old = all at h'
      cases h' with
      | @piece _ before' middle' old' now' _ _ _ hstart' hstop' hrest' =>
          rw [List.append_assoc, List.append_assoc] at hall
          obtain ⟨rfl, hafter⟩ := append_inj_of_byteLength hall (by omega)
          obtain ⟨rfl, rfl⟩ := append_inj_of_byteLength hafter (by omega)
          rw [ih hrest']

/-- Changes at different places have one outcome. -/
theorem Replaced.unique {old now now' : String} (h : Replaced old changes now)
    (h' : Replaced old changes now')
    (distinct : changes.Pairwise fun a b => a.span.start ≠ b.span.start) : now = now' := by
  obtain ⟨ordered, hperm, h⟩ := h
  obtain ⟨ordered', hperm', h'⟩ := h'
  have strict : ∀ {cs : List Replacement} {new : List Char}, cs.Perm changes →
      ReplacedFrom 0 old.toList cs new →
      cs.Pairwise fun a b => a.span.start < b.span.start := by
    intro cs new hp hr
    refine (hr.ascending.and ((hp.pairwise_iff fun {a b} h => h.symm).2 distinct)).imp ?_
    intro a b hab
    exact Nat.lt_of_le_of_ne hab.1 hab.2
  have horder : ordered = ordered' := by
    refine @List.Perm.eq_of_pairwise _ (fun a b => a.span.start < b.span.start) _ _ ?_
      (strict hperm h) (strict hperm' h') (hperm.trans hperm'.symm)
    intro a b _ _ hab hba
    exact absurd (Nat.lt_trans hab hba) (Nat.lt_irrefl _)
  subst horder
  exact String.toList_inj.1 (h.unique h')

-- =============================================================== moves

/-- How many bytes the changes have put in to the left of an offset. -/
def gained : List Replacement → Nat → Nat
  | [], _ => 0
  | c :: rest, offset =>
    (if c.span.stop ≤ offset then c.text.utf8ByteSize else 0) + gained rest offset

/-- How many bytes the changes have taken out to the left of an offset. -/
def lost : List Replacement → Nat → Nat
  | [], _ => 0
  | c :: rest, offset => (if c.span.stop ≤ offset then c.span.length else 0) + lost rest offset

/-- Where a span stands once the changes are made. -/
def moved (changes : List Replacement) (span : Span) : Span :=
  ⟨span.start + gained changes span.start - lost changes span.start,
    span.stop + gained changes span.start - lost changes span.start⟩

theorem gained_cons (c : Replacement) (changes : List Replacement) (offset : Nat) :
    gained (c :: changes) offset =
      (if c.span.stop ≤ offset then c.text.utf8ByteSize else 0) + gained changes offset := rfl

theorem lost_cons (c : Replacement) (changes : List Replacement) (offset : Nat) :
    lost (c :: changes) offset =
      (if c.span.stop ≤ offset then c.span.length else 0) + lost changes offset := rfl

/-- The order of the changes does not matter. -/
theorem moved_perm {changes' : List Replacement} (h : changes.Perm changes') (offset : Nat) :
    gained changes offset = gained changes' offset ∧
      lost changes offset = lost changes' offset := by
  induction h with
  | nil => exact ⟨rfl, rfl⟩
  | cons c _ ih =>
      rw [gained_cons, gained_cons, lost_cons, lost_cons, ih.1, ih.2]
      exact ⟨rfl, rfl⟩
  | swap c d rest =>
      simp only [gained_cons, lost_cons]
      omega
  | trans _ _ ih ih' => exact ⟨ih.1.trans ih'.1, ih.2.trans ih'.2⟩

/-- Changes that all stop further on move nothing. -/
theorem moved_eq_zero {place : Nat} (h : ∀ c ∈ changes, place < c.span.stop) :
    gained changes place = 0 ∧ lost changes place = 0 := by
  induction changes with
  | nil => exact ⟨rfl, rfl⟩
  | cons c rest ih =>
      have hc : ¬ c.span.stop ≤ place := Nat.not_le_of_lt (h c List.mem_cons_self)
      rw [gained_cons, lost_cons, if_neg hc, if_neg hc, Nat.zero_add, Nat.zero_add]
      exact ih fun d hd => h d (List.mem_cons_of_mem _ hd)

/-- Nothing moves a span that lies before the first change. -/
theorem ReplacedFrom.still (h : ReplacedFrom offset old changes now) {place : Nat}
    (hp : place < offset) : gained changes place = 0 ∧ lost changes place = 0 := by
  refine moved_eq_zero fun c hc => ?_
  have := h.bounds c hc
  omega

/-- No more is lost to the left of an offset than there is. -/
theorem ReplacedFrom.lost_le (h : ReplacedFrom offset old changes now) {place : Nat}
    (hp : offset ≤ place) : lost changes place + offset ≤ place := by
  induction h with
  | kept offset text => simpa [lost] using hp
  | @piece offset before middle old now span new rest hstart hstop hrest ih =>
      rw [lost_cons]
      simp only [Span.length]
      by_cases hs : span.stop ≤ place
      · have := ih hs
        rw [if_pos hs]
        omega
      · have hzero : lost rest place = 0 := (hrest.still (Nat.lt_of_not_le hs)).2
        rw [if_neg hs, hzero]
        omega

-- ============================================================= one more

/-- Of two ways to take a text apart, the longer first part goes on where the shorter one stops. -/
theorem exists_append_of_byteLength_le {a b c d : List Char} (h : a ++ b = c ++ d)
    (hl : byteLength a ≤ byteLength c) : ∃ x, c = a ++ x ∧ b = x ++ d := by
  rcases List.append_eq_append_iff.1 h with ⟨x, hc, hb⟩ | ⟨x, ha, hd⟩
  · exact ⟨x, hc, hb⟩
  · rw [ha, byteLength_append] at hl
    obtain rfl : x = [] := eq_nil_of_byteLength (by omega)
    exact ⟨[], by simpa using ha.symm, by simpa using hd.symm⟩

/-- What stands at a span apart from all changes stands there after them. -/
theorem ReplacedFrom.stays (h : ReplacedFrom offset old changes now) {span : Span}
    (apart : ∀ c ∈ changes, c.span.Apart span) {before middle after : List Char}
    (hold : old = before ++ middle ++ after) (hstart : span.start = offset + byteLength before)
    (hstop : span.stop = span.start + byteLength middle) :
    ∃ before' after', now = before' ++ middle ++ after' ∧
      offset + byteLength before' + lost changes span.start =
        span.start + gained changes span.start := by
  induction h generalizing before with
  | kept offset text => exact ⟨before, after, hold, by simp [lost, gained, hstart]⟩
  | @piece offset before₀ middle₀ old now span₀ new rest hstart₀ hstop₀ hrest ih =>
      rw [gained_cons, lost_cons]
      simp only [Span.length]
      by_cases hside : span₀.stop ≤ span.start
      · -- The change lies to the left: the span is looked for in what follows it.
        obtain ⟨x, rfl, hx⟩ := exists_append_of_byteLength_le
          (a := before₀ ++ middle₀) (b := old) (c := before) (d := middle ++ after)
          (by rw [hold, List.append_assoc]) (by rw [byteLength_append]; omega)
        rw [byteLength_append, byteLength_append] at hstart
        obtain ⟨before', after', hnow, hlen⟩ := @ih
          (fun c hc => apart c (List.mem_cons_of_mem _ hc)) x
          (by rw [hx, List.append_assoc]) (by omega)
        refine ⟨before₀ ++ new.toList ++ before', after', ?_, ?_⟩
        · rw [hnow]
          simp only [List.append_assoc]
        · rw [byteLength_append, byteLength_append, byteLength_toList, if_pos hside, if_pos hside]
          omega
      · -- The change lies to the right: the span is in what is kept before it.
        have hright : span.stop ≤ span₀.start := by
          rcases apart _ List.mem_cons_self with h | h
          · exact absurd h hside
          · exact h
        obtain ⟨x, rfl, -⟩ := exists_append_of_byteLength_le
          (a := before ++ middle) (b := after) (c := before₀) (d := middle₀ ++ old)
          (by rw [← hold, List.append_assoc]) (by rw [byteLength_append]; omega)
        obtain ⟨hgained, hlost⟩ := hrest.still (Nat.lt_of_not_le hside)
        refine ⟨before, x ++ new.toList ++ now, by simp only [List.append_assoc], ?_⟩
        rw [if_neg hside, if_neg hside, hgained, hlost]
        omega

/-- A splice where a span has moved to is one more change. -/
theorem ReplacedFrom.splice (h : ReplacedFrom offset old changes now) {span : Span}
    (hoffset : offset ≤ span.start) (apart : ∀ c ∈ changes, c.span.Apart span)
    {before middle after : List Char} (hnow : now = before ++ middle ++ after)
    (hstart : offset + byteLength before + lost changes span.start =
      span.start + gained changes span.start)
    (hstop : span.stop = span.start + byteLength middle) (new : String) :
    ∃ ordered, ordered.Perm (⟨span, new⟩ :: changes) ∧
      ReplacedFrom offset old ordered (before ++ new.toList ++ after) := by
  induction h generalizing before with
  | kept offset text =>
      refine ⟨[⟨span, new⟩], .refl _, ?_⟩
      rw [hnow]
      refine .piece ?_ hstop (.kept _ after)
      simpa [lost, gained] using hstart.symm
  | @piece offset before₀ middle₀ old now span₀ new₀ rest hstart₀ hstop₀ hrest ih =>
      rw [gained_cons, lost_cons] at hstart
      simp only [Span.length] at hstart
      by_cases hside : span₀.stop ≤ span.start
      · rw [if_pos hside, if_pos hside] at hstart
        have hlost := hrest.lost_le hside
        obtain ⟨x, rfl, hx⟩ := exists_append_of_byteLength_le
          (a := before₀ ++ new₀.toList) (b := now) (c := before) (d := middle ++ after)
          (by rw [hnow, List.append_assoc])
          (by rw [byteLength_append, byteLength_toList]; omega)
        rw [byteLength_append, byteLength_append, byteLength_toList] at hstart
        obtain ⟨ordered, hperm, hr⟩ := @ih hside
          (fun c hc => apart c (List.mem_cons_of_mem _ hc)) x
          (by rw [hx, List.append_assoc]) (by omega)
        refine ⟨⟨span₀, new₀⟩ :: ordered, (hperm.cons _).trans (.swap _ _ _), ?_⟩
        have hpiece : ReplacedFrom offset (before₀ ++ middle₀ ++ old) (⟨span₀, new₀⟩ :: ordered)
            (before₀ ++ new₀.toList ++ (x ++ new.toList ++ after)) := .piece hstart₀ hstop₀ hr
        simp only [List.append_assoc] at hpiece ⊢
        exact hpiece
      · have hright : span.stop ≤ span₀.start := by
          rcases apart _ List.mem_cons_self with h | h
          · exact absurd h hside
          · exact h
        obtain ⟨hgained, hlost⟩ := hrest.still (Nat.lt_of_not_le hside)
        rw [if_neg hside, if_neg hside, hgained, hlost] at hstart
        obtain ⟨x, rfl, hx⟩ := exists_append_of_byteLength_le
          (a := before ++ middle) (b := after) (c := before₀) (d := new₀.toList ++ now)
          (by rw [← hnow, List.append_assoc]) (by rw [byteLength_append]; omega)
        refine ⟨⟨span, new⟩ :: ⟨span₀, new₀⟩ :: rest, .refl _, ?_⟩
        rw [byteLength_append, byteLength_append] at hstart₀
        have hinner : ReplacedFrom span.stop (x ++ middle₀ ++ old) (⟨span₀, new₀⟩ :: rest)
            (x ++ new₀.toList ++ now) := .piece (by omega) hstop₀ hrest
        have hpiece : ReplacedFrom offset
            (before ++ middle ++ (x ++ middle₀ ++ old)) (⟨span, new⟩ :: ⟨span₀, new₀⟩ :: rest)
            (before ++ new.toList ++ (x ++ new₀.toList ++ now)) :=
          .piece (by omega) hstop hinner
        rw [hx]
        simp only [List.append_assoc] at hpiece ⊢
        exact hpiece

variable {old now : String} {span : Span}

/-- What a span of the old text held, its place in the new one holds. -/
theorem Replaced.slice? (h : Replaced old changes now)
    (apart : ∀ c ∈ changes, c.span.Apart span) {text : String}
    (hs : slice? old span = some text) : Text.slice? now (moved changes span) = some text := by
  obtain ⟨ordered, hperm, hr⟩ := h
  obtain ⟨before, after, hcut⟩ := slice?_eq_some_iff.1 hs
  obtain ⟨hold, hstart, hstop⟩ := cut?_eq_some_iff.1 hcut
  obtain ⟨before', after', hnow, hlen⟩ := hr.stays
    (fun c hc => apart c (hperm.mem_iff.1 hc)) hold (by omega) (by omega)
  rw [(moved_perm hperm _).1, (moved_perm hperm _).2] at hlen
  refine slice?_eq_some_iff.2 ⟨before', after', cut?_eq_some_iff.2 ⟨hnow, ?_, ?_⟩⟩
  · simp only [moved]
    omega
  · simp only [moved]
    omega

/-- A splice at the place a span has moved to is one more change. -/
theorem Replaced.splice (h : Replaced old changes now) (hle : span.start ≤ span.stop)
    (apart : ∀ c ∈ changes, c.span.Apart span) {new next : String}
    (hs : splice? now (moved changes span) new = some next) :
    Replaced old (changes ++ [⟨span, new⟩]) next := by
  obtain ⟨ordered, hperm, hr⟩ := h
  obtain ⟨before, middle, after, hcut, hnext⟩ := splice?_eq_some_iff.1 hs
  obtain ⟨hnow, hstart, hstop⟩ := cut?_eq_some_iff.1 hcut
  have hlost := hr.lost_le (Nat.zero_le span.start)
  rw [(moved_perm hperm _).2] at hlost
  simp only [moved] at hstart hstop
  obtain ⟨ordered', hperm', hr'⟩ := hr.splice (Nat.zero_le _)
    (fun c hc => apart c (hperm.mem_iff.1 hc)) hnow
    (by rw [(moved_perm hperm _).1, (moved_perm hperm _).2]; omega) (by omega) new
  refine ⟨ordered', hperm'.trans ((hperm.cons _).trans ?_), by rw [hnext]; exact hr'⟩
  exact (List.perm_append_singleton _ _).symm

-- ============================================================== turns

/-- Spans none of which runs backwards, and no two of which have a byte in common. -/
structure Separate (spans : List Span) : Prop where
  forward : ∀ span ∈ spans, span.start ≤ span.stop
  apart : spans.Pairwise Span.Apart

theorem Separate.head {done rest : List Replacement} {c : Replacement}
    (h : Separate ((done ++ c :: rest).map (·.span))) :
    c.span.start ≤ c.span.stop ∧ ∀ d ∈ done, d.span.Apart c.span := by
  have hc : c ∈ done ++ c :: rest := List.mem_append_right _ List.mem_cons_self
  refine ⟨h.forward _ (List.mem_map_of_mem hc), fun d hd => ?_⟩
  have hpair := h.apart
  rw [List.pairwise_map, List.pairwise_append] at hpair
  exact hpair.2.2 d hd c List.mem_cons_self

/-- The text after splices made one after the other, each in the text the last has left. -/
def spliceAll (text : String) : List Replacement → Option String
  | [] => some text
  | c :: rest => (splice? text c.span c.text).bind fun next => spliceAll next rest

/-- Where the spans of the changes stand when their turns come, if the only thing that happens is
that they are made one after the other. -/
def turns : List Replacement → List Replacement → List Span
  | _, [] => []
  | done, c :: rest => moved done c.span :: turns (done ++ [c]) rest

/-- The changes, each made somewhere else. -/
def placed (changes : List Replacement) (spans : List Span) : List Replacement :=
  List.zipWith (fun c span => ⟨span, c.text⟩) changes spans

theorem length_turns (done rest : List Replacement) :
    (turns done rest).length = rest.length := by
  induction rest generalizing done with
  | nil => rfl
  | cons c rest ih =>
      show (turns (done ++ [c]) rest).length + 1 = rest.length + 1
      rw [ih]

/-- Changes that all put in the same text differ by their spans only. -/
theorem placed_map {spans picks : List Span} (text : String)
    (h : picks.length = spans.length) :
    placed (spans.map fun span => ⟨span, text⟩) picks =
      picks.map fun span => ⟨span, text⟩ := by
  induction spans generalizing picks with
  | nil =>
      obtain rfl := List.length_eq_zero_iff.1 h
      rfl
  | cons span spans ih =>
      cases picks with
      | nil => cases h
      | cons pick picks =>
          show _ :: placed (spans.map _) picks = _ :: picks.map _
          rw [ih (Nat.succ.inj h)]

/-- Splices one after the other, each where its span has moved to, come to all changes at once. -/
theorem Replaced.spliceAll {done rest : List Replacement} {final : String}
    (h : Replaced old done now) (separate : Separate ((done ++ rest).map (·.span)))
    (hs : spliceAll now (placed rest (turns done rest)) = some final) :
    Replaced old (done ++ rest) final := by
  induction rest generalizing done now with
  | nil =>
      rw [List.append_nil]
      exact Option.some.inj hs ▸ h
  | cons c rest ih =>
      obtain ⟨next, hnext, hs⟩ := Option.bind_eq_some_iff.1 hs
      obtain ⟨hforward, hapart⟩ := separate.head
      have hone := h.splice hforward hapart hnext
      have heq : done ++ [c] ++ rest = done ++ c :: rest := by simp
      rw [← heq]
      exact ih hone (by rw [heq]; exact separate) hs

theorem replaced_of_spliceAll {final : String} (separate : Separate (changes.map (·.span)))
    (hs : spliceAll old (placed changes (turns [] changes)) = some final) :
    Replaced old changes final :=
  (replaced_nil old).spliceAll separate hs

/-- Changes made from the right to the left are made where they stood at first. -/
theorem turns_of_descending {done rest : List Replacement}
    (separate : Separate ((done ++ rest).map (·.span)))
    (order : (done ++ rest).Pairwise fun a b => b.span.start < a.span.start) :
    turns done rest = rest.map (·.span) := by
  induction rest generalizing done with
  | nil => rfl
  | cons c rest ih =>
      obtain ⟨-, -, hright⟩ := List.pairwise_append.1 order
      have hzero : gained done c.span.start = 0 ∧ lost done c.span.start = 0 := by
        refine moved_eq_zero fun d hd => ?_
        have hlt := hright d hd c List.mem_cons_self
        have hle := separate.forward d.span (List.mem_map_of_mem (List.mem_append_left _ hd))
        omega
      have hmoved : moved done c.span = c.span := by
        unfold moved
        rw [hzero.1, hzero.2]
        rfl
      have heq : done ++ [c] ++ rest = done ++ c :: rest := by simp
      show moved done c.span :: turns (done ++ [c]) rest = c.span :: rest.map _
      rw [hmoved, ih (by rw [heq]; exact separate) (by rw [heq]; exact order)]

end TreeQuery.Text
