/-
What a pattern matches, apart from the order in which matches are tried.

`Regex.Matches` says from where to where a pattern can match and what can be recorded on the way,
by recursion on the pattern: a sequence goes through a place in between, a loop makes some number
of rounds. The search agrees with it both ways. What it comes upon is a match
(`matches_of_mem_ends`), and where there is a match it comes upon one that ends at the same place
(`exists_mem_ends`), though it may have recorded something else on another way there: of the ways
to a place only the first is kept.

# Loops

That nothing is missed is plain except for a loop without a bound, which is searched depth first
and goes on from each place once. Rounds go forward, so while the loop is busy with a place all
places it still has to come back from lie before it; whatever it has arrived at from there on is
settled: there is an ending at it, and each place one round further has been arrived at
(`Loop.Settled`). That is the invariant of `arrive`. The fuel is enough for the same reason: a
round that leads anywhere leads forward, and there is an end to the text.
-/
import TreeQuery.Regex.Matcher

namespace TreeQuery.Regex

variable {text : Array Char} {regex : Regex} {e : Ending} {place : Nat}

-- ============================================================= matches

/-- From one place to another by `n` rounds, with what they record, the last first. -/
inductive Rounds (round : Nat → Nat → Captures → Prop) (start : Nat) :
    Nat → Nat → Captures → Prop
  | zero : Rounds round start 0 start []
  | succ {n middle stop : Nat} {before after : Captures} :
      Rounds round start n middle before → round middle stop after →
      Rounds round start (n + 1) stop (after ++ before)

/-- The pattern matches from one place to another and records something on the way. -/
def Matches (text : Array Char) : Regex → Nat → Nat → Captures → Prop
  | .empty, start, stop, captures => stop = start ∧ captures = []
  | .one set, start, stop, captures =>
    (∃ c, text[start]? = some c ∧ set.has c = true) ∧ stop = start + 1 ∧ captures = []
  | .assertion kind, start, stop, captures =>
    kind.holds (charBefore? text start) text[start]? = true ∧ stop = start ∧ captures = []
  | .seq first second, start, stop, captures =>
    ∃ middle before after, Matches text first start middle before ∧
      Matches text second middle stop after ∧ captures = after ++ before
  | .alt first second, start, stop, captures =>
    Matches text first start stop captures ∨ Matches text second start stop captures
  | .many body least most _, start, stop, captures =>
    ∃ n, least ≤ n ∧ (∀ bound, most = some bound → n ≤ max least bound) ∧
      Rounds (Matches text body) start n stop captures
  | .capture name body, start, stop, captures =>
    ∃ inner, Matches text body start stop inner ∧ captures = (name, start, stop) :: inner

section Rounds

variable {round : Nat → Nat → Captures → Prop} {n m start middle stop : Nat}
  {before after captures : Captures}

theorem rounds_one_iff : Rounds round start 1 stop captures ↔ round start stop captures := by
  constructor
  · intro h
    cases h with
    | succ hnone hone =>
        cases hnone
        rw [List.append_nil]
        exact hone
  · intro h
    have := Rounds.succ .zero h
    rwa [List.append_nil] at this

theorem Rounds.append (h : Rounds round start n middle before)
    (h' : Rounds round middle m stop after) :
    Rounds round start (n + m) stop (after ++ before) := by
  induction h' with
  | zero => exact h
  | succ _ hone ih =>
      rw [List.append_assoc]
      exact .succ ih hone

theorem Rounds.split (h : Rounds round start (n + m) stop captures) :
    ∃ middle before after, Rounds round start n middle before ∧
      Rounds round middle m stop after ∧ captures = after ++ before := by
  induction m generalizing stop captures with
  | zero => exact ⟨stop, captures, [], h, .zero, rfl⟩
  | succ m ih =>
      cases h with
      | succ hrest hone =>
          obtain ⟨middle, before, after, hn, hm, rfl⟩ := ih hrest
          exact ⟨middle, before, _, hn, .succ hm hone, (List.append_assoc ..).symm⟩

/-- Rounds that go forward within the text do so one after the other. -/
theorem Rounds.bounds {size : Nat}
    (hround : ∀ start stop captures, round start stop captures →
      start ≤ stop ∧ stop ≤ max start size)
    (h : Rounds round start n stop captures) : start ≤ stop ∧ stop ≤ max start size := by
  induction h with
  | zero => omega
  | succ _ hone ih =>
      have := hround _ _ _ hone
      omega

end Rounds

/-- A match goes forward, and not beyond the text. -/
theorem Matches.bounds {start stop : Nat} {captures : Captures}
    (h : Matches text regex start stop captures) : start ≤ stop ∧ stop ≤ max start text.size := by
  induction regex generalizing start stop captures with
  | empty =>
      obtain ⟨rfl, -⟩ := h
      omega
  | one set =>
      obtain ⟨⟨c, hc, -⟩, rfl, -⟩ := h
      obtain ⟨hlt, -⟩ := Array.getElem?_eq_some_iff.1 hc
      omega
  | assertion kind =>
      obtain ⟨-, rfl, -⟩ := h
      omega
  | seq first second ih ih' =>
      obtain ⟨middle, _, _, hfirst, hsecond, -⟩ := h
      have := ih hfirst
      have := ih' hsecond
      omega
  | alt first second ih ih' => exact h.elim ih ih'
  | many body least most greedy ih =>
      obtain ⟨n, -, -, hrounds⟩ := h
      exact hrounds.bounds fun _ _ _ => ih
  | capture name body ih =>
      obtain ⟨inner, hbody, -⟩ := h
      exact ih hbody

-- =============================================================== lists

theorem mem_of_mem_firstOfEach {endings : List Ending} (h : e ∈ firstOfEach endings) :
    e ∈ endings := by
  induction endings with
  | nil => exact h
  | cons f rest ih =>
      rcases List.mem_cons.1 h with rfl | h
      · exact List.mem_cons_self
      · exact List.mem_cons_of_mem _ (ih (List.mem_filter.1 h).1)

/-- Each place is kept. -/
theorem exists_mem_firstOfEach {endings : List Ending} (h : e ∈ endings) :
    ∃ f ∈ firstOfEach endings, f.place = e.place := by
  induction endings with
  | nil => cases h
  | cons first rest ih =>
      by_cases hplace : e.place = first.place
      · exact ⟨first, List.mem_cons_self, hplace.symm⟩
      · rcases List.mem_cons.1 h with rfl | h
        · exact absurd rfl hplace
        · obtain ⟨f, hf, he⟩ := ih h
          refine ⟨f, List.mem_cons_of_mem _ (List.mem_filter.2 ⟨hf, ?_⟩), he⟩
          rw [he]
          exact bne_iff_ne.2 hplace

theorem mem_follow {next : Nat → List Ending} {endings : List Ending}
    (h : e ∈ follow next endings) :
    ∃ f ∈ endings, ∃ g ∈ next f.place, e = ⟨g.place, g.captures ++ f.captures⟩ := by
  obtain ⟨f, hf, h⟩ := List.mem_flatMap.1 (mem_of_mem_firstOfEach h)
  obtain ⟨g, hg, rfl⟩ := List.mem_map.1 h
  exact ⟨f, hf, g, hg, rfl⟩

theorem exists_mem_follow {next : Nat → List Ending} {endings : List Ending} {f g : Ending}
    (hf : f ∈ endings) (hg : g ∈ next f.place) :
    ∃ e ∈ follow next endings, e.place = g.place := by
  have hm : (⟨g.place, g.captures ++ f.captures⟩ : Ending) ∈ endings.flatMap fun e =>
      (next e.place).map fun f => ⟨f.place, f.captures ++ e.captures⟩ :=
    List.mem_flatMap.2 ⟨f, hf, List.mem_map.2 ⟨g, hg, rfl⟩⟩
  obtain ⟨e, he, hplace⟩ := exists_mem_firstOfEach hm
  exact ⟨e, he, hplace⟩

theorem mem_more_or_none {more : List Ending} {greedy : Bool}
    (h : e ∈ firstOfEach (if greedy then more ++ [⟨place, []⟩] else ⟨place, []⟩ :: more)) :
    e ∈ more ∨ e = ⟨place, []⟩ := by
  have h := mem_of_mem_firstOfEach h
  split at h
  · exact (List.mem_append.1 h).imp_right List.mem_singleton.1
  · exact (List.mem_cons.1 h).symm

theorem exists_mem_more_or_none {more : List Ending} (greedy : Bool)
    (h : e ∈ more ∨ e = ⟨place, []⟩) :
    ∃ f ∈ firstOfEach (if greedy then more ++ [⟨place, []⟩] else ⟨place, []⟩ :: more),
      f.place = e.place := by
  refine exists_mem_firstOfEach ?_
  split
  · exact List.mem_append.2 (h.imp_right List.mem_singleton.2)
  · exact List.mem_cons.2 h.symm

-- =========================================================== soundness

/-- What is come upon is there. -/
def Sound (next : Nat → List Ending) (way : Nat → Nat → Captures → Prop) : Prop :=
  ∀ start, ∀ e ∈ next start, way start e.place e.captures

theorem mem_finish {loop : Loop} {f : Ending} (h : f ∈ (loop.finish e).endings) :
    f ∈ loop.endings ∨ f = e := by
  unfold Loop.finish at h
  split at h
  · exact .inl h
  · exact (List.mem_cons.1 h).symm

/-- What holds of the endings of a loop and is kept by each step holds after all steps. -/
theorem foldl_endings {P : Ending → Prop} {step : Loop → Ending → Loop} {endings : List Ending}
    {loop : Loop} (hl : ∀ e ∈ loop.endings, P e)
    (hs : ∀ e ∈ endings, ∀ loop : Loop, (∀ f ∈ loop.endings, P f) →
      ∀ f ∈ (step loop e).endings, P f) :
    ∀ f ∈ (endings.foldl step loop).endings, P f := by
  induction endings generalizing loop with
  | nil => exact hl
  | cons e rest ih =>
      rw [List.foldl_cons]
      exact ih (hs e List.mem_cons_self loop hl) fun e he => hs e (List.mem_cons_of_mem _ he)

theorem finish_endings {P : Ending → Prop} {loop : Loop} (hl : ∀ e ∈ loop.endings, P e)
    (he : P e) : ∀ f ∈ (loop.finish e).endings, P f := by
  intro f hf
  rcases mem_finish hf with hf | rfl
  · exact hl f hf
  · exact he

/-- What holds of an ending and goes over to one a round further holds of all a loop finds. -/
theorem arrive_endings {P : Ending → Prop} {round : Nat → List Ending}
    (hround : ∀ here, P here → ∀ e ∈ round here.place, P ⟨e.place, e.captures ++ here.captures⟩)
    (greedy : Bool) (fuel : Nat) {here : Ending} {loop : Loop} (hh : P here)
    (hl : ∀ e ∈ loop.endings, P e) :
    ∀ f ∈ (arrive round greedy fuel here loop).endings, P f := by
  induction fuel generalizing here loop with
  | zero => exact hl
  | succ fuel ih =>
      have goOn : ∀ loop : Loop, (∀ e ∈ loop.endings, P e) →
          ∀ f ∈ ((round here.place).foldl (fun loop e =>
            arrive round greedy fuel ⟨e.place, e.captures ++ here.captures⟩ loop) loop).endings,
            P f :=
        fun loop hl => foldl_endings hl fun e he loop hl => ih (hround here hh e he) hl
      unfold arrive
      split
      · exact hl
      · dsimp only
        split
        · exact finish_endings (goOn _ hl) hh
        · exact goOn _ (finish_endings hl hh)

section

variable {round : Nat → List Ending} {way : Nat → Nat → Captures → Prop}

theorem sound_oneOrMore (h : Sound round way) (greedy : Bool) (fuel : Nat) :
    Sound (oneOrMore round greedy fuel) fun start stop captures =>
      ∃ n, 1 ≤ n ∧ Rounds way start n stop captures := by
  intro start e he
  refine foldl_endings (P := fun e => ∃ n, 1 ≤ n ∧ Rounds way start n e.place e.captures)
    (fun f hf => by cases hf) (fun f hf loop hl => ?_) e (List.mem_reverse.1 he)
  have hone : ∃ n, 1 ≤ n ∧ Rounds way start n f.place f.captures :=
    ⟨1, Nat.le_refl _, rounds_one_iff.2 (h start f hf)⟩
  split
  · exact finish_endings hl hone
  · refine arrive_endings (fun here ⟨n, hn, hrounds⟩ e he => ?_) greedy fuel hone hl
    exact ⟨n + 1, Nat.le_succ_of_le hn, hrounds.succ (h here.place e he)⟩

theorem sound_exactly (h : Sound round way) (n : Nat) :
    Sound (exactly round n) fun start stop captures => Rounds way start n stop captures := by
  induction n with
  | zero =>
      intro start e he
      obtain rfl := List.mem_singleton.1 he
      exact .zero
  | succ n ih =>
      intro start e he
      obtain ⟨f, hf, g, hg, rfl⟩ := mem_follow he
      exact .succ (ih start f hf) (h f.place g hg)

theorem sound_upTo (h : Sound round way) (greedy : Bool) (n : Nat) :
    Sound (upTo round greedy n) fun start stop captures =>
      ∃ m, m ≤ n ∧ Rounds way start m stop captures := by
  induction n with
  | zero =>
      intro start e he
      obtain rfl := List.mem_singleton.1 he
      exact ⟨0, Nat.le_refl _, .zero⟩
  | succ n ih =>
      intro start e he
      rcases mem_more_or_none he with he | rfl
      · obtain ⟨f, hf, g, hg, rfl⟩ := mem_follow he
        obtain ⟨m, hm, hrounds⟩ := ih f.place g hg
        refine ⟨1 + m, by omega, ?_⟩
        exact (rounds_one_iff.2 (h start f hf)).append hrounds
      · exact ⟨0, Nat.zero_le _, .zero⟩

theorem sound_loopEnds (h : Sound round way) (least : Nat) (most : Option Nat) (greedy : Bool)
    (fuel : Nat) :
    Sound (loopEnds round least most greedy fuel) fun start stop captures =>
      ∃ n, least ≤ n ∧ (∀ bound, most = some bound → n ≤ max least bound) ∧
        Rounds way start n stop captures := by
  intro start e he
  unfold loopEnds at he
  split at he
  · rename_i most
    obtain ⟨f, hf, g, hg, rfl⟩ := mem_follow he
    obtain ⟨m, hm, hrounds⟩ := sound_upTo h greedy _ f.place g hg
    refine ⟨least + m, Nat.le_add_right _ _, ?_, (sound_exactly h least start f hf).append hrounds⟩
    rintro bound hbound
    obtain rfl := Option.some.inj hbound
    omega
  · split at he
    · rcases mem_more_or_none he with he | rfl
      · obtain ⟨n, -, hrounds⟩ := sound_oneOrMore h greedy fuel start e he
        exact ⟨n, Nat.zero_le _, fun _ hb => (by cases hb), hrounds⟩
      · exact ⟨0, Nat.zero_le _, fun _ hb => (by cases hb), .zero⟩
    · rename_i n
      obtain ⟨f, hf, g, hg, rfl⟩ := mem_follow he
      obtain ⟨m, hm, hrounds⟩ := sound_oneOrMore h greedy fuel f.place g hg
      exact ⟨n + m, by omega, fun _ hb => (by cases hb),
        (sound_exactly h n start f hf).append hrounds⟩

end

/-- What the search comes upon is a match. -/
theorem matches_of_mem_ends (text : Array Char) (regex : Regex) :
    Sound (ends text regex) (Matches text regex) := by
  induction regex with
  | empty =>
      intro start e he
      obtain rfl := List.mem_singleton.1 he
      exact ⟨rfl, rfl⟩
  | one set =>
      intro start e he
      unfold ends at he
      split at he
      · rename_i c hc
        split at he
        · rename_i hset
          obtain rfl := List.mem_singleton.1 he
          exact ⟨⟨c, hc, hset⟩, rfl, rfl⟩
        · cases he
      · cases he
  | assertion kind =>
      intro start e he
      unfold ends at he
      split at he
      · rename_i hholds
        obtain rfl := List.mem_singleton.1 he
        exact ⟨hholds, rfl, rfl⟩
      · cases he
  | seq first second ih ih' =>
      intro start e he
      obtain ⟨f, hf, g, hg, rfl⟩ := mem_follow he
      exact ⟨f.place, f.captures, g.captures, ih start f hf, ih' f.place g hg, rfl⟩
  | alt first second ih ih' =>
      intro start e he
      exact (List.mem_append.1 (mem_of_mem_firstOfEach he)).imp (ih start e) (ih' start e)
  | many body least most greedy ih => exact sound_loopEnds ih least most greedy _
  | capture name body ih =>
      intro start e he
      obtain ⟨f, hf, rfl⟩ := List.mem_map.1 he
      exact ⟨f.captures, ih start f hf, rfl⟩

-- ======================================================== completeness

/-- The loop has arrived wherever it had before, and has the endings it had. -/
structure Loop.Grown (loop later : Loop) : Prop where
  arrived : loop.arrived ⊆ later.arrived
  endings : loop.endings ⊆ later.endings

theorem Loop.Grown.refl (loop : Loop) : loop.Grown loop :=
  ⟨List.Subset.refl _, List.Subset.refl _⟩

theorem Loop.Grown.trans {loop later last : Loop} (h : loop.Grown later)
    (h' : later.Grown last) : loop.Grown last :=
  ⟨List.Subset.trans h.arrived h'.arrived, List.Subset.trans h.endings h'.endings⟩

theorem Loop.grown_finish (loop : Loop) (e : Ending) : loop.Grown (loop.finish e) := by
  unfold finish
  split
  · exact .refl loop
  · exact ⟨List.Subset.refl _, List.subset_cons_self _ _⟩

theorem Loop.arrived_finish (loop : Loop) (e : Ending) :
    (loop.finish e).arrived = loop.arrived := by
  unfold finish
  split
  · rfl
  · rfl

theorem Loop.exists_mem_finish (loop : Loop) (e : Ending) :
    ∃ f ∈ (loop.finish e).endings, f.place = e.place := by
  unfold finish
  split
  · rename_i h
    obtain ⟨f, hf, he⟩ := List.any_eq_true.1 h
    exact ⟨f, hf, beq_iff_eq.1 he⟩
  · exact ⟨e, List.mem_cons_self, rfl⟩

section

variable {round : Nat → List Ending} {size low : Nat} {loop later : Loop} {here : Ending}

/-- There is an ending at the place, and the loop has been at all places a round further. -/
structure Loop.Settled (loop : Loop) (round : Nat → List Ending) (place : Nat) : Prop where
  ending : ∃ e ∈ loop.endings, e.place = place
  onward : ∀ e ∈ round place, e.place ∈ loop.arrived

theorem Loop.Settled.grown (h : loop.Settled round place) (hg : loop.Grown later) :
    later.Settled round place := by
  obtain ⟨e, he, hplace⟩ := h.ending
  exact ⟨⟨e, hg.endings he, hplace⟩, fun f hf => hg.arrived (h.onward f hf)⟩

/-- Steps that keep something of a loop and each bring something about that lasts. -/
theorem foldl_steps {I : Loop → Prop} {Q : Ending → Loop → Prop} {step : Loop → Ending → Loop}
    {endings : List Ending}
    (hstep : ∀ e ∈ endings, ∀ now, I now →
      I (step now e) ∧ Q e (step now e) ∧ now.Grown (step now e))
    (lasts : ∀ e now later, Loop.Grown now later → Q e now → Q e later) (hloop : I loop) :
    I (endings.foldl step loop) ∧ (∀ e ∈ endings, Q e (endings.foldl step loop)) ∧
      loop.Grown (endings.foldl step loop) := by
  induction endings generalizing loop with
  | nil => exact ⟨hloop, fun _ he => absurd he List.not_mem_nil, .refl loop⟩
  | cons e rest ih =>
      obtain ⟨hkeep, hdone, hgrown⟩ := hstep e List.mem_cons_self loop hloop
      obtain ⟨hlast, hothers, hgrown'⟩ := ih (fun f hf => hstep f (List.mem_cons_of_mem _ hf)) hkeep
      rw [List.foldl_cons]
      refine ⟨hlast, fun f hf => ?_, hgrown.trans hgrown'⟩
      rcases List.mem_cons.1 hf with rfl | hf
      · exact lasts _ _ _ hgrown' hdone
      · exact hothers f hf

/-- Rounds go forward, and not beyond the text. -/
def Advancing (round : Nat → List Ending) (size : Nat) : Prop :=
  ∀ place, ∀ e ∈ round place, place ≤ e.place ∧ e.place ≤ max place size

/-- The loop is busy with a place: it has arrived there, and all it has come to further on is
settled. -/
structure Loop.Busy (loop now : Loop) (round : Nat → List Ending) (place : Nat) : Prop where
  arrived : place ∈ now.arrived
  grown : loop.Grown now
  fresh : ∀ p ∈ now.arrived, p ∈ loop.arrived ∨ place ≤ p
  settled : ∀ p ∈ now.arrived, place + 1 ≤ p → now.Settled round p

/-- The loop has been at a place and gone on from there: what was settled is so still, and what is
new is settled and does not lie before the place. -/
structure Loop.Visited (loop later : Loop) (round : Nat → List Ending) (low place : Nat) :
    Prop where
  arrived : place ∈ later.arrived
  grown : loop.Grown later
  fresh : ∀ p ∈ later.arrived, p ∈ loop.arrived ∨ place ≤ p
  settled : ∀ p ∈ later.arrived, low ≤ p → later.Settled round p

/-- A loop that arrives at a place is busy with it. -/
theorem Loop.busy_mark (settled : ∀ p ∈ loop.arrived, place + 1 ≤ p → loop.Settled round p) :
    loop.Busy { loop with arrived := place :: loop.arrived } round place := by
  have hgrown : loop.Grown { loop with arrived := place :: loop.arrived } :=
    ⟨List.subset_cons_self _ _, List.Subset.refl _⟩
  refine ⟨List.mem_cons_self, hgrown, fun p hp => ?_, fun p hp hle => ?_⟩
  · rcases List.mem_cons.1 hp with rfl | hp
    · exact .inr (Nat.le_refl _)
    · exact .inl hp
  · rcases List.mem_cons.1 hp with rfl | hp
    · omega
    · exact (settled p hp hle).grown hgrown

theorem Loop.Busy.finish {now : Loop} (h : loop.Busy now round place) (e : Ending) :
    loop.Busy (now.finish e) round place := by
  have hgrown := now.grown_finish e
  refine ⟨hgrown.arrived h.arrived, h.grown.trans hgrown, fun p hp => ?_, fun p hp hle => ?_⟩
  · exact h.fresh p (now.arrived_finish e ▸ hp)
  · exact (h.settled p (now.arrived_finish e ▸ hp) hle).grown hgrown

/-- A place is settled when the loop has an ending at it and has been at all places a round
further. -/
theorem Loop.Busy.visited {now : Loop} (h : loop.Busy now round place)
    (settled : ∀ p ∈ loop.arrived, low ≤ p → loop.Settled round p)
    (hplace : now.Settled round place) : loop.Visited now round low place := by
  refine ⟨h.arrived, h.grown, h.fresh, fun p hp hle => ?_⟩
  rcases h.fresh p hp with hold | hnew
  · exact (settled p hold hle).grown h.grown
  · by_cases heq : p = place
    · exact heq ▸ hplace
    · exact h.settled p hp (by omega)

theorem arrive_of_mem {greedy : Bool} {fuel : Nat} (h : here.place ∈ loop.arrived) :
    arrive round greedy fuel here loop = loop := by
  cases fuel with
  | zero => rfl
  | succ fuel =>
      unfold arrive
      rw [if_pos (List.contains_iff_mem.2 h)]

/-- The loop stays busy with a place while it goes on from there, one place after the other. -/
theorem Loop.Busy.goOn {now : Loop} {step : Loop → Ending → Loop} {endings : List Ending}
    (h : loop.Busy now round place)
    (hstep : ∀ e ∈ endings, ∀ now, loop.Busy now round place →
      now.Visited (step now e) round (place + 1) e.place ∨ (e.place = place ∧ step now e = now))
    (forward : ∀ e ∈ endings, place ≤ e.place) :
    loop.Busy (endings.foldl step now) round place ∧
      (∀ e ∈ endings, e.place ∈ (endings.foldl step now).arrived) ∧
      now.Grown (endings.foldl step now) := by
  refine foldl_steps (I := fun now => loop.Busy now round place)
    (Q := fun e now => e.place ∈ now.arrived) (fun e he now hnow => ?_)
    (fun _ _ _ hgrown hm => hgrown.arrived hm) h
  rcases hstep e he now hnow with hvisited | ⟨heq, hstay⟩
  · have hle := forward e he
    refine ⟨⟨hvisited.grown.arrived hnow.arrived, hnow.grown.trans hvisited.grown, fun p hp => ?_,
      hvisited.settled⟩, hvisited.arrived, hvisited.grown⟩
    rcases hvisited.fresh p hp with hp | hp
    · exact hnow.fresh p hp
    · exact .inr (Nat.le_trans hle hp)
  · rw [hstay, heq]
    exact ⟨hnow, hnow.arrived, .refl now⟩

theorem visited_arrive (advancing : Advancing round size) (greedy : Bool) {fuel : Nat}
    (enough : size < fuel + here.place) (within : here.place ≤ size) (hlow : low ≤ here.place)
    (settled : ∀ p ∈ loop.arrived, low ≤ p → loop.Settled round p) :
    loop.Visited (arrive round greedy fuel here loop) round low here.place := by
  induction fuel generalizing here loop low with
  | zero => omega
  | succ fuel ih =>
      by_cases hmem : here.place ∈ loop.arrived
      · rw [arrive_of_mem hmem]
        exact ⟨hmem, .refl loop, fun p hp => .inl hp, settled⟩
      · have hmark : loop.Busy { loop with arrived := here.place :: loop.arrived } round
            here.place := Loop.busy_mark fun p hp hle => settled p hp (by omega)
        have hforward : ∀ e ∈ round here.place, here.place ≤ e.place := fun e he =>
          (advancing here.place e he).1
        have hstep : ∀ e ∈ round here.place, ∀ now, loop.Busy now round here.place →
            now.Visited (arrive round greedy fuel ⟨e.place, e.captures ++ here.captures⟩ now) round
                (here.place + 1) e.place ∨
              (e.place = here.place ∧
                arrive round greedy fuel ⟨e.place, e.captures ++ here.captures⟩ now = now) := by
          intro e he now hnow
          have hadv := advancing here.place e he
          by_cases heq : e.place = here.place
          · exact .inr ⟨heq, arrive_of_mem (heq ▸ hnow.arrived)⟩
          · exact .inl (@ih (here.place + 1) now ⟨e.place, e.captures ++ here.captures⟩
              (by simp only; omega) (by simp only; omega) (by simp only; omega) hnow.settled)
        unfold arrive
        rw [if_neg (mt List.contains_iff_mem.1 hmem)]
        dsimp only
        cases greedy with
        | true =>
            rw [if_pos rfl]
            obtain ⟨hbusy, honward, -⟩ := hmark.goOn hstep hforward
            refine (hbusy.finish here).visited settled ⟨Loop.exists_mem_finish _ here, ?_⟩
            intro e he
            rw [Loop.arrived_finish]
            exact honward e he
        | false =>
            rw [if_neg Bool.false_ne_true]
            obtain ⟨hbusy, honward, hgrown⟩ := (hmark.finish here).goOn hstep hforward
            refine hbusy.visited settled ⟨?_, honward⟩
            obtain ⟨f, hf, hplace⟩ := Loop.exists_mem_finish
              { loop with arrived := here.place :: loop.arrived } here
            exact ⟨f, hgrown.endings hf, hplace⟩

/-- Where there is a way, something is come upon that ends at the same place. -/
def Complete (next : Nat → List Ending) (way : Nat → Nat → Captures → Prop) : Prop :=
  ∀ start stop captures, way start stop captures → ∃ e ∈ next start, e.place = stop

variable {way : Nat → Nat → Captures → Prop}

/-- The loop that starts at a place and has come to its end. -/
def loopFrom (round : Nat → List Ending) (greedy : Bool) (fuel start : Nat) : Loop :=
  (round start).foldl (fun loop e =>
    if e.place = start then loop.finish e else arrive round greedy fuel e loop) {}

/-- Nothing is left for the loop to go on from: what it has arrived at is settled, and it has been
at all places a round from its start, of which the start itself needs an ending only. -/
structure Loop.Closed (loop : Loop) (round : Nat → List Ending) (start : Nat) : Prop where
  settled : ∀ p ∈ loop.arrived, loop.Settled round p
  first : ∀ e ∈ round start, e.place ∈ loop.arrived ∨
    (e.place = start ∧ ∃ f ∈ loop.endings, f.place = start)

theorem closed_loopFrom (advancing : Advancing round size) (greedy : Bool) (start : Nat) :
    (loopFrom round greedy (size + 1) start).Closed round start := by
  obtain ⟨hsettled, hfirst, -⟩ :
      (∀ p ∈ (loopFrom round greedy (size + 1) start).arrived,
        (loopFrom round greedy (size + 1) start).Settled round p) ∧
      (∀ e ∈ round start, e.place ∈ (loopFrom round greedy (size + 1) start).arrived ∨
        (e.place = start ∧
          ∃ f ∈ (loopFrom round greedy (size + 1) start).endings, f.place = start)) ∧
      Loop.Grown {} (loopFrom round greedy (size + 1) start) := by
    refine foldl_steps (I := fun now => ∀ p ∈ now.arrived, now.Settled round p)
      (Q := fun e now => e.place ∈ now.arrived ∨
        (e.place = start ∧ ∃ f ∈ now.endings, f.place = start))
      (fun e he now hnow => ?_) (fun e now later hgrown hq => ?_) (fun p hp => by cases hp)
    · have hadv := advancing start e he
      by_cases heq : e.place = start
      · rw [if_pos heq]
        have hgrown := now.grown_finish e
        obtain ⟨f, hf, hplace⟩ := now.exists_mem_finish e
        refine ⟨fun p hp => ?_, .inr ⟨heq, f, hf, hplace.trans heq⟩, hgrown⟩
        exact (hnow p (now.arrived_finish e ▸ hp)).grown hgrown
      · rw [if_neg heq]
        have hvisited := visited_arrive advancing greedy (show size < size + 1 + e.place by omega)
          (show e.place ≤ size by omega) (Nat.zero_le _) fun p hp _ => hnow p hp
        exact ⟨fun p hp => hvisited.settled p hp (Nat.zero_le _), .inl hvisited.arrived,
          hvisited.grown⟩
    · rcases hq with hq | ⟨heq, f, hf, hplace⟩
      · exact .inl (hgrown.arrived hq)
      · exact .inr ⟨heq, f, hgrown.endings hf, hplace⟩
  exact ⟨hsettled, hfirst⟩

/-- A round from where a closed loop has been leads to where it has been, and to an ending. -/
theorem Loop.Closed.onward {start middle : Nat} {e : Ending} (hl : loop.Closed round start)
    (hm : middle = start ∨ middle ∈ loop.arrived) (he : e ∈ round middle) :
    (e.place = start ∨ e.place ∈ loop.arrived) ∧ ∃ f ∈ loop.endings, f.place = e.place := by
  have hsettled : e.place ∈ loop.arrived → (e.place = start ∨ e.place ∈ loop.arrived) ∧
      ∃ f ∈ loop.endings, f.place = e.place :=
    fun harrived => ⟨.inr harrived, (hl.settled _ harrived).ending⟩
  rcases hm with rfl | hm
  · rcases hl.first e he with harrived | ⟨heq, hending⟩
    · exact hsettled harrived
    · exact ⟨.inl heq, heq.symm ▸ hending⟩
  · exact hsettled ((hl.settled middle hm).onward e he)

theorem complete_oneOrMore (advancing : Advancing round size) (h : Complete round way)
    (greedy : Bool) :
    Complete (oneOrMore round greedy (size + 1)) fun start stop captures =>
      ∃ n, 1 ≤ n ∧ Rounds way start n stop captures := by
  rintro start stop captures ⟨n, hn, hrounds⟩
  have hclosed := closed_loopFrom advancing greedy start
  have hreach : ∀ n middle captures, Rounds way start n middle captures →
      middle = start ∨ middle ∈ (loopFrom round greedy (size + 1) start).arrived := by
    intro n middle captures hrounds
    induction hrounds with
    | zero => exact .inl rfl
    | succ _ hone ih =>
        obtain ⟨e, he, rfl⟩ := h _ _ _ hone
        exact (hclosed.onward ih he).1
  cases hrounds with
  | zero => omega
  | succ hrest hone =>
      obtain ⟨e, he, rfl⟩ := h _ _ _ hone
      obtain ⟨f, hf, hplace⟩ := (hclosed.onward (hreach _ _ _ hrest) he).2
      exact ⟨f, List.mem_reverse.2 hf, hplace⟩

theorem complete_exactly (h : Complete round way) (n : Nat) :
    Complete (exactly round n) fun start stop captures => Rounds way start n stop captures := by
  induction n with
  | zero =>
      intro start stop captures hrounds
      cases hrounds with
      | zero => exact ⟨_, List.mem_singleton_self _, rfl⟩
  | succ n ih =>
      intro start stop captures hrounds
      cases hrounds with
      | succ hrest hone =>
          obtain ⟨f, hf, rfl⟩ := ih _ _ _ hrest
          obtain ⟨g, hg, rfl⟩ := h _ _ _ hone
          exact exists_mem_follow hf hg

theorem complete_upTo (h : Complete round way) (greedy : Bool) (n : Nat) :
    Complete (upTo round greedy n) fun start stop captures =>
      ∃ m, m ≤ n ∧ Rounds way start m stop captures := by
  induction n with
  | zero =>
      rintro start stop captures ⟨m, hm, hrounds⟩
      obtain rfl := Nat.le_zero.1 hm
      cases hrounds with
      | zero => exact ⟨_, List.mem_singleton_self _, rfl⟩
  | succ n ih =>
      rintro start stop captures ⟨m, hm, hrounds⟩
      cases m with
      | zero =>
          cases hrounds with
          | zero => exact exists_mem_more_or_none greedy (.inr rfl)
      | succ m =>
          obtain ⟨middle, _, _, hone, hrest, -⟩ := (Nat.add_comm m 1 ▸ hrounds).split
          obtain ⟨f, hf, rfl⟩ := h _ _ _ (rounds_one_iff.1 hone)
          obtain ⟨g, hg, rfl⟩ := ih _ _ _ ⟨m, by omega, hrest⟩
          obtain ⟨e, he, hplace⟩ := exists_mem_follow hf hg
          obtain ⟨e', he', hplace'⟩ := exists_mem_more_or_none greedy (.inl he)
          exact ⟨e', he', hplace'.trans hplace⟩

theorem complete_loopEnds (advancing : Advancing round size) (h : Complete round way)
    (least : Nat) (most : Option Nat) (greedy : Bool) :
    Complete (loopEnds round least most greedy (size + 1)) fun start stop captures =>
      ∃ n, least ≤ n ∧ (∀ bound, most = some bound → n ≤ max least bound) ∧
        Rounds way start n stop captures := by
  rintro start stop captures ⟨n, hleast, hmost, hrounds⟩
  obtain ⟨more, rfl⟩ := Nat.exists_eq_add_of_le hleast
  unfold loopEnds
  cases most with
  | some most =>
      have hbound := hmost most rfl
      obtain ⟨middle, _, _, hexact, hmore, -⟩ := hrounds.split
      obtain ⟨f, hf, rfl⟩ := complete_exactly h least _ _ _ hexact
      obtain ⟨g, hg, rfl⟩ := complete_upTo h greedy (most - least) _ _ _ ⟨more, by omega, hmore⟩
      exact exists_mem_follow hf hg
  | none =>
      cases least with
      | zero =>
          rw [Nat.zero_add] at hrounds
          cases more with
          | zero =>
              cases hrounds with
              | zero => exact exists_mem_more_or_none greedy (.inr rfl)
          | succ more =>
              obtain ⟨f, hf, rfl⟩ := complete_oneOrMore advancing h greedy start stop captures
                ⟨more + 1, by omega, hrounds⟩
              exact exists_mem_more_or_none greedy (.inl hf)
      | succ least =>
          rw [Nat.add_assoc] at hrounds
          obtain ⟨middle, _, _, hexact, hmore, -⟩ := hrounds.split
          obtain ⟨f, hf, rfl⟩ := complete_exactly h least _ _ _ hexact
          obtain ⟨g, hg, rfl⟩ := complete_oneOrMore advancing h greedy _ _ _
            ⟨1 + more, by omega, hmore⟩
          exact exists_mem_follow hf hg

end

theorem advancing_ends (text : Array Char) (regex : Regex) :
    Advancing (ends text regex) text.size :=
  fun place e he => (matches_of_mem_ends text regex place e he).bounds

/-- Where the pattern matches, the search comes upon a match that ends at the same place. -/
theorem exists_mem_ends (text : Array Char) (regex : Regex) :
    Complete (ends text regex) (Matches text regex) := by
  induction regex with
  | empty =>
      rintro start stop captures ⟨rfl, -⟩
      exact ⟨_, List.mem_singleton_self _, rfl⟩
  | one set =>
      rintro start stop captures ⟨⟨c, hc, hset⟩, rfl, -⟩
      refine ⟨⟨start + 1, []⟩, ?_, rfl⟩
      unfold ends
      rw [hc]
      dsimp only
      rw [if_pos hset]
      exact List.mem_singleton_self _
  | assertion kind =>
      rintro start stop captures ⟨hholds, rfl, -⟩
      refine ⟨⟨stop, []⟩, ?_, rfl⟩
      unfold ends
      rw [if_pos hholds]
      exact List.mem_singleton_self _
  | seq first second ih ih' =>
      rintro start stop captures ⟨middle, before, after, hfirst, hsecond, -⟩
      obtain ⟨f, hf, rfl⟩ := ih _ _ _ hfirst
      obtain ⟨g, hg, rfl⟩ := ih' _ _ _ hsecond
      exact exists_mem_follow hf hg
  | alt first second ih ih' =>
      rintro start stop captures (hfirst | hsecond)
      · obtain ⟨f, hf, rfl⟩ := ih _ _ _ hfirst
        exact exists_mem_firstOfEach (List.mem_append_left _ hf)
      · obtain ⟨f, hf, rfl⟩ := ih' _ _ _ hsecond
        exact exists_mem_firstOfEach (List.mem_append_right _ hf)
  | many body least most greedy ih =>
      exact complete_loopEnds (advancing_ends text body) ih least most greedy
  | capture name body ih =>
      rintro start stop captures ⟨inner, hbody, -⟩
      obtain ⟨f, hf, rfl⟩ := ih _ _ _ hbody
      exact ⟨_, List.mem_map.2 ⟨f, hf, rfl⟩, rfl⟩

end TreeQuery.Regex
