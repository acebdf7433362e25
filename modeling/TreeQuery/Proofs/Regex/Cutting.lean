/-
What is found in a part of a text.

A pattern without assertions sees nothing but the characters it takes, and it takes them from the
left to the right. So within a part of a text it comes upon what it comes upon in the whole, in the
same order and with the same groups, counted from where the part starts: only what ends beyond the
part is missing (`cut_ends`). In particular a match is the first thing that is
come upon in the text it matches, though there may be shorter ones (`ends_part`).

For a loop this has a reason of its own. It goes on only once from each place, so what it has seen
before matters; but what it sees beyond the part it has come to from within the part, and it never
comes back (`cut_arrive_beyond`). So the two loops go in step as long as they are within the part
(`LoopCut`).
-/
import TreeQuery.Proofs.Regex.Matching
import TreeQuery.Regex.Search

namespace TreeQuery.Regex

variable {base len : Nat} {whole part : List Ending} {e here : Ending}

-- ========================================================= assertions

/-- The pattern asks for nothing beside the characters it takes. -/
def AssertionFree : Regex → Prop
  | .empty => True
  | .one _ => True
  | .assertion _ => False
  | .seq first second => first.AssertionFree ∧ second.AssertionFree
  | .alt first second => first.AssertionFree ∧ second.AssertionFree
  | .many body _ _ _ => body.AssertionFree
  | .capture _ body => body.AssertionFree

-- ============================================================== lists

/-- What has been recorded, if the text starts further to the left. -/
def Captures.raise (base : Nat) (captures : Captures) : Captures :=
  captures.map fun capture => (capture.1, base + capture.2.1, base + capture.2.2)

/-- The ending, if the text starts further to the left. -/
def Ending.raise (base : Nat) (e : Ending) : Ending := ⟨base + e.place, e.captures.raise base⟩

/-- The second list has those endings of the first that do not lie beyond a part of the text, as
they are in the part. -/
inductive Cut (base len : Nat) : List Ending → List Ending → Prop
  | nil : Cut base len [] []
  | keep {e : Ending} {whole part : List Ending} :
      e.place ≤ len → Cut base len whole part →
      Cut base len (e.raise base :: whole) (e :: part)
  | drop {e : Ending} {whole part : List Ending} :
      base + len < e.place → Cut base len whole part → Cut base len (e :: whole) part

theorem cut_nil (h : ∀ e ∈ whole, base + len < e.place) : Cut base len whole [] := by
  induction whole with
  | nil => exact .nil
  | cons e whole ih =>
      obtain ⟨he, h⟩ := List.forall_mem_cons.1 h
      exact .drop he (ih h)

theorem Cut.mem (h : Cut base len whole part) (he : e ∈ part) : e.raise base ∈ whole := by
  induction h with
  | nil => cases he
  | keep _ _ ih =>
      rcases List.mem_cons.1 he with rfl | he
      · exact List.mem_cons_self
      · exact List.mem_cons_of_mem _ (ih he)
  | drop _ _ ih => exact List.mem_cons_of_mem _ (ih he)

theorem Cut.append {later later' : List Ending} (h : Cut base len whole part)
    (h' : Cut base len later later') : Cut base len (whole ++ later) (part ++ later') := by
  induction h with
  | nil => exact h'
  | keep he _ ih => exact .keep he ih
  | drop he _ ih => exact .drop he ih

theorem Cut.reverse (h : Cut base len whole part) : Cut base len whole.reverse part.reverse := by
  induction h with
  | nil => exact .nil
  | keep he _ ih =>
      rw [List.reverse_cons, List.reverse_cons]
      exact ih.append (.keep he .nil)
  | @drop e whole part he _ ih =>
      rw [List.reverse_cons, ← List.append_nil part.reverse]
      exact ih.append (.drop he .nil)

theorem Cut.filter {p p' : Ending → Bool} (h : Cut base len whole part)
    (hp : ∀ e, e.place ≤ len → p (e.raise base) = p' e) :
    Cut base len (whole.filter p) (part.filter p') := by
  induction h with
  | nil => exact .nil
  | keep he _ ih =>
      rw [List.filter_cons, List.filter_cons, hp _ he]
      split
      · exact .keep he ih
      · exact ih
  | drop he _ ih =>
      rw [List.filter_cons]
      split
      · exact .drop he ih
      · exact ih

theorem Cut.map {f f' : Ending → Ending} (h : Cut base len whole part)
    (hraise : ∀ e, f (e.raise base) = (f' e).raise base) (hplace : ∀ e, (f e).place = e.place)
    (hplace' : ∀ e, (f' e).place = e.place) : Cut base len (whole.map f) (part.map f') := by
  induction h with
  | nil => exact .nil
  | keep he _ ih =>
      rw [List.map_cons, List.map_cons, hraise]
      exact .keep ((hplace' _).symm ▸ he) ih
  | drop he _ ih => exact .drop ((hplace _).symm ▸ he) ih

theorem Cut.flatMap {f f' : Ending → List Ending} (h : Cut base len whole part)
    (hkeep : ∀ e, e.place ≤ len → Cut base len (f (e.raise base)) (f' e))
    (hdrop : ∀ e, base + len < e.place → Cut base len (f e) []) :
    Cut base len (whole.flatMap f) (part.flatMap f') := by
  induction h with
  | nil => exact .nil
  | keep he _ ih =>
      rw [List.flatMap_cons, List.flatMap_cons]
      exact (hkeep _ he).append ih
  | drop he _ ih =>
      rw [List.flatMap_cons]
      exact (hdrop _ he).append ih

theorem raise_place_bne (base q : Nat) (e : Ending) :
    ((e.raise base).place != base + q) = (e.place != q) := by
  rw [Bool.eq_iff_iff, bne_iff_ne, bne_iff_ne]
  exact not_congr Nat.add_left_cancel_iff

/-- What lies beyond takes no place from what does not. -/
theorem Cut.firstOfEach (h : Cut base len whole part) :
    Cut base len (firstOfEach whole) (firstOfEach part) := by
  induction h with
  | nil => exact .nil
  | @keep e whole part he _ ih =>
      exact .keep he (ih.filter fun f _ => raise_place_bne base e.place f)
  | @drop e whole part he _ ih =>
      refine .drop he ?_
      rw [← List.filter_eq_self.2 fun f (_ : f ∈ Regex.firstOfEach part) => rfl]
      refine ih.filter fun f hf => bne_iff_ne.2 ?_
      show base + f.place ≠ e.place
      omega

theorem Cut.any (h : Cut base len whole part) {q : Nat} (hq : q ≤ len) :
    whole.any (·.place == base + q) = part.any (·.place == q) := by
  induction h with
  | nil => rfl
  | @keep e whole part _ _ ih =>
      have hplace : ((e.raise base).place == base + q) = (e.place == q) := by
        rw [Bool.eq_iff_iff, beq_iff_eq, beq_iff_eq]
        exact Nat.add_left_cancel_iff
      rw [List.any_cons, List.any_cons, hplace, ih]
  | @drop e whole part he _ ih =>
      have hplace : (e.place == base + q) = false := by
        rw [beq_eq_false_iff_ne]
        omega
      rw [List.any_cons, hplace, Bool.false_or, ih]

/-- Two folds in step: over what is kept both go on, over what is dropped the first one does. -/
theorem Cut.foldl {I : Loop → Loop → Prop} {step : Loop → Ending → Loop}
    (step' : Loop → Ending → Loop) (h : Cut base len whole part)
    (hkeep : ∀ e ∈ part, e.place ≤ len → ∀ now now', I now now' →
      I (step now (e.raise base)) (step' now' e))
    (hdrop : ∀ e ∈ whole, base + len < e.place → ∀ now now', I now now' → I (step now e) now')
    {now now' : Loop} (hnow : I now now') : I (whole.foldl step now) (part.foldl step' now') := by
  induction h generalizing now now' with
  | nil => exact hnow
  | keep he _ ih =>
      obtain ⟨hone, hkeep⟩ := List.forall_mem_cons.1 hkeep
      exact ih hkeep (fun e he => hdrop e (List.mem_cons_of_mem _ he)) (hone he _ _ hnow)
  | drop he _ ih =>
      obtain ⟨hone, hdrop⟩ := List.forall_mem_cons.1 hdrop
      exact ih hkeep hdrop (hone he _ _ hnow)

-- ============================================================ searches

/-- From places of the part, the second search comes upon what the first one does, as far as that
does not lie beyond the part. -/
def Cuts (base len : Nat) (next next' : Nat → List Ending) : Prop :=
  ∀ q, q ≤ len → Cut base len (next (base + q)) (next' q)

section

variable {next next' round round' : Nat → List Ending} {size : Nat}

theorem Cut.follow (h : Cut base len whole part) (hnext : Cuts base len next next')
    (advancing : Advancing next size) :
    Cut base len (follow next whole) (follow next' part) := by
  refine (h.flatMap (fun e he => ?_) fun e he => cut_nil fun f hf => ?_).firstOfEach
  · refine (hnext e.place he).map (fun f => ?_) (fun _ => rfl) fun _ => rfl
    exact congrArg (Ending.mk _) List.map_append.symm
  · obtain ⟨g, hg, rfl⟩ := List.mem_map.1 hf
    have := (advancing e.place g hg).1
    show base + len < g.place
    omega

theorem cut_here {q : Nat} (hq : q ≤ len) : Cut base len [⟨base + q, []⟩] [⟨q, []⟩] :=
  .keep (e := ⟨q, []⟩) hq .nil

/-- One more ending, before the others or behind them. -/
theorem Cut.more_or_none (h : Cut base len whole part) (greedy : Bool) {q : Nat} (hq : q ≤ len) :
    Cut base len
      (Regex.firstOfEach (if greedy then whole ++ [⟨base + q, []⟩] else ⟨base + q, []⟩ :: whole))
      (Regex.firstOfEach (if greedy then part ++ [⟨q, []⟩] else ⟨q, []⟩ :: part)) := by
  refine Cut.firstOfEach ?_
  split
  · exact h.append (cut_here hq)
  · exact (cut_here hq).append h

-- =============================================================== loops

/-- In the part the second loop has been where the first one has been, and has its endings. -/
structure LoopCut (base len : Nat) (loop loop' : Loop) : Prop where
  arrived : ∀ q, q ≤ len → (q ∈ loop'.arrived ↔ base + q ∈ loop.arrived)
  endings : Cut base len loop.endings loop'.endings

variable {loop loop' : Loop}

theorem LoopCut.mark (h : LoopCut base len loop loop') (q : Nat) :
    LoopCut base len { loop with arrived := (base + q) :: loop.arrived }
      { loop' with arrived := q :: loop'.arrived } := by
  refine ⟨fun p hp => ?_, h.endings⟩
  rw [List.mem_cons, List.mem_cons, h.arrived p hp, Nat.add_left_cancel_iff]

theorem LoopCut.finish (h : LoopCut base len loop loop') (he : e.place ≤ len) :
    LoopCut base len (loop.finish (e.raise base)) (loop'.finish e) := by
  have hany : loop.endings.any (·.place == (e.raise base).place) =
      loop'.endings.any (·.place == e.place) := h.endings.any he
  unfold Loop.finish
  rw [hany]
  split
  · exact h
  · exact ⟨h.arrived, .keep he h.endings⟩

theorem LoopCut.finish_beyond (h : LoopCut base len loop loop') (he : base + len < e.place) :
    LoopCut base len (loop.finish e) loop' := by
  unfold Loop.finish
  split
  · exact h
  · exact ⟨h.arrived, .drop he h.endings⟩

/-- A loop that is beyond the part stays there. -/
theorem cut_arrive_beyond (advancing : Advancing round size) (greedy : Bool) (fuel : Nat)
    (h : LoopCut base len loop loop') (beyond : base + len < here.place) :
    LoopCut base len (arrive round greedy fuel here loop) loop' := by
  induction fuel generalizing here loop loop' with
  | zero => exact h
  | succ fuel ih =>
      have hall : ∀ e ∈ round here.place, base + len < e.place := fun e he => by
        have := (advancing here.place e he).1
        omega
      have goOn : ∀ {now : Loop}, LoopCut base len now loop' →
          LoopCut base len ((round here.place).foldl (fun loop e =>
            arrive round greedy fuel ⟨e.place, e.captures ++ here.captures⟩ loop) now) loop' :=
        fun hnow => (cut_nil hall).foldl (I := fun now now' => LoopCut base len now now')
          (fun now' _ => now') (fun e he => absurd he List.not_mem_nil)
          (fun e _ he now now' hn =>
            @ih ⟨e.place, e.captures ++ here.captures⟩ now now' hn he) hnow
      have hmark : LoopCut base len { loop with arrived := here.place :: loop.arrived } loop' := by
        refine ⟨fun q hq => ?_, h.endings⟩
        rw [h.arrived q hq, List.mem_cons, or_iff_right (by omega)]
      unfold arrive
      split
      · exact h
      · dsimp only
        split
        · exact (goOn hmark).finish_beyond beyond
        · exact goOn (hmark.finish_beyond beyond)

theorem mem_arrived_foldl {step : Loop → Ending → Loop} {place : Nat}
    (hstep : ∀ e, ∀ now : Loop, place ∈ now.arrived → place ∈ (step now e).arrived)
    (endings : List Ending) (h : place ∈ loop.arrived) :
    place ∈ (endings.foldl step loop).arrived := by
  induction endings generalizing loop with
  | nil => exact h
  | cons e rest ih => exact ih (hstep e loop h)

theorem mem_arrived_arrive (greedy : Bool) (fuel : Nat) {place : Nat}
    (h : place ∈ loop.arrived) : place ∈ (arrive round greedy fuel here loop).arrived := by
  induction fuel generalizing here loop with
  | zero => exact h
  | succ fuel ih =>
      unfold arrive
      split
      · exact h
      · dsimp only
        split
        · rw [Loop.arrived_finish]
          exact mem_arrived_foldl (fun e now hn => ih hn) _ (List.mem_cons_of_mem _ h)
        · refine mem_arrived_foldl (fun e now hn => ih hn) _ ?_
          rw [Loop.arrived_finish]
          exact List.mem_cons_of_mem _ h

/-- Two loops that arrive at a place of the part stay in step. -/
theorem cut_arrive (hround : Cuts base len round round') (advancing : Advancing round size)
    (greedy : Bool) {fuel fuel' : Nat} (h : LoopCut base len loop loop')
    (within : here.place ≤ len) (enough : len < fuel + here.place)
    (enough' : len < fuel' + here.place) :
    LoopCut base len (arrive round greedy fuel (here.raise base) loop)
      (arrive round' greedy fuel' here loop') := by
  induction fuel generalizing fuel' here loop loop' with
  | zero => omega
  | succ fuel ih =>
      match fuel', enough' with
      | 0, enough' => omega
      | fuel' + 1, enough' =>
          have hcut := hround here.place within
          -- Where a round takes nothing, both have been already.
          have goOn : ∀ {now now' : Loop}, LoopCut base len now now' → here.place ∈ now'.arrived →
              LoopCut base len
                ((round (base + here.place)).foldl (fun loop e => arrive round greedy fuel
                  ⟨e.place, e.captures ++ here.captures.raise base⟩ loop) now)
                ((round' here.place).foldl (fun loop e => arrive round' greedy fuel'
                  ⟨e.place, e.captures ++ here.captures⟩ loop) now') := by
            intro now now' hnow hmem
            refine And.left (hcut.foldl
              (I := fun now now' => LoopCut base len now now' ∧ here.place ∈ now'.arrived) _
              (fun e he hle now now' hn => ?_) (fun e _ he now now' hn => ?_) ⟨hnow, hmem⟩)
            · have hforward := (advancing _ _ (hcut.mem he)).1
              have hraised : (⟨(e.raise base).place,
                  (e.raise base).captures ++ here.captures.raise base⟩ : Ending) =
                  Ending.raise base ⟨e.place, e.captures ++ here.captures⟩ :=
                congrArg (Ending.mk _) List.map_append.symm
              refine ⟨?_, mem_arrived_arrive greedy fuel' hn.2⟩
              rw [hraised]
              by_cases heq : e.place = here.place
              · have hmem' := (hn.1.arrived here.place within).1 hn.2
                rw [arrive_of_mem (by show base + e.place ∈ _; rw [heq]; exact hmem'),
                  arrive_of_mem (by show e.place ∈ _; rw [heq]; exact hn.2)]
                exact hn.1
              · have hlt : here.place < e.place := by
                  have hforward : base + here.place ≤ base + e.place := hforward
                  omega
                exact ih hn.1 hle (by dsimp only; omega) (by dsimp only; omega)
            · exact ⟨cut_arrive_beyond advancing greedy fuel hn.1 he, hn.2⟩
          have hmark := h.mark here.place
          by_cases hmem : here.place ∈ loop'.arrived
          · rw [arrive_of_mem hmem, arrive_of_mem ((h.arrived _ within).1 hmem)]
            exact h
          · have hmem' : (here.raise base).place ∉ loop.arrived :=
              mt (h.arrived _ within).2 hmem
            unfold arrive
            rw [if_neg (mt List.contains_iff_mem.1 hmem), if_neg (mt List.contains_iff_mem.1 hmem')]
            dsimp only
            split
            · exact (goOn hmark List.mem_cons_self).finish within
            · refine goOn (hmark.finish within) ?_
              rw [Loop.arrived_finish]
              exact List.mem_cons_self

theorem cut_oneOrMore (hround : Cuts base len round round') (advancing : Advancing round size)
    (greedy : Bool) {fuel fuel' : Nat} (enough : len < fuel) (enough' : len < fuel') :
    Cuts base len (oneOrMore round greedy fuel) (oneOrMore round' greedy fuel') := by
  intro q hq
  have hstart : LoopCut base len {} {} :=
    ⟨fun p _ => iff_of_false List.not_mem_nil List.not_mem_nil, .nil⟩
  refine (LoopCut.endings ((hround q hq).foldl (I := fun now now' => LoopCut base len now now') _
    (fun e he hle now now' hn => ?_) (fun e he hlt now now' hn => ?_) hstart)).reverse
  · have hplace : (e.raise base).place = base + e.place := rfl
    by_cases heq : e.place = q
    · rw [if_pos heq, if_pos (by rw [hplace, heq])]
      exact hn.finish hle
    · rw [if_neg heq, if_neg (by omega)]
      exact cut_arrive hround advancing greedy hn hle (by omega) (by omega)
  · rw [if_neg (by omega)]
    exact cut_arrive_beyond advancing greedy fuel hn hlt

theorem advancing_oneOrMore (h : Advancing round size) (greedy : Bool) (fuel : Nat) :
    Advancing (oneOrMore round greedy fuel) size := by
  intro place e he
  have hround : Sound round fun start stop _ => start ≤ stop ∧ stop ≤ max start size := h
  obtain ⟨n, -, hrounds⟩ := sound_oneOrMore hround greedy fuel place e he
  exact hrounds.bounds fun _ _ _ h => h

theorem advancing_upTo (h : Advancing round size) (greedy : Bool) (n : Nat) :
    Advancing (upTo round greedy n) size := by
  intro place e he
  have hround : Sound round fun start stop _ => start ≤ stop ∧ stop ≤ max start size := h
  obtain ⟨m, -, hrounds⟩ := sound_upTo hround greedy n place e he
  exact hrounds.bounds fun _ _ _ h => h

theorem cut_exactly (hround : Cuts base len round round') (advancing : Advancing round size)
    (n : Nat) : Cuts base len (exactly round n) (exactly round' n) := by
  induction n with
  | zero => exact fun q hq => cut_here hq
  | succ n ih => exact fun q hq => (ih q hq).follow hround advancing

theorem cut_upTo (hround : Cuts base len round round') (advancing : Advancing round size)
    (greedy : Bool) (n : Nat) :
    Cuts base len (upTo round greedy n) (upTo round' greedy n) := by
  induction n with
  | zero => exact fun q hq => cut_here hq
  | succ n ih =>
      intro q hq
      have hmore := (hround q hq).follow ih (advancing_upTo advancing greedy n)
      exact hmore.more_or_none greedy hq

theorem cut_loopEnds (hround : Cuts base len round round') (advancing : Advancing round size)
    (least : Nat) (most : Option Nat) (greedy : Bool) {fuel fuel' : Nat} (enough : len < fuel)
    (enough' : len < fuel') :
    Cuts base len (loopEnds round least most greedy fuel)
      (loopEnds round' least most greedy fuel') := by
  intro q hq
  unfold loopEnds
  cases most with
  | some most =>
      exact (cut_exactly hround advancing least q hq).follow
        (cut_upTo hround advancing greedy (most - least)) (advancing_upTo advancing greedy _)
  | none =>
      have hmore := cut_oneOrMore hround advancing greedy enough enough'
      cases least with
      | zero => exact (hmore q hq).more_or_none greedy hq
      | succ least =>
          exact (cut_exactly hround advancing least q hq).follow hmore
            (advancing_oneOrMore advancing greedy fuel)

end

-- ============================================================ patterns

/-- The text has the characters of another from some place on. -/
structure Part (text : Array Char) (base len : Nat) (part : Array Char) : Prop where
  size : part.size = len
  within : base + len ≤ text.size
  character : ∀ q, q < len → part[q]? = text[base + q]?

variable {text piece : Array Char} {regex : Regex}

/-- In a part of a text, a pattern without assertions comes upon what it comes upon in the whole,
as far as that does not lie beyond the part. -/
theorem cut_ends (hpart : Part text base len piece) (free : regex.AssertionFree) :
    Cuts base len (ends text regex) (ends piece regex) := by
  induction regex with
  | empty => exact fun q hq => cut_here hq
  | one set =>
      intro q hq
      unfold ends
      rcases Nat.lt_or_eq_of_le hq with hlt | rfl
      · rw [hpart.character q hlt]
        cases text[base + q]? with
        | none => exact .nil
        | some c =>
            dsimp only
            split
            · exact cut_here hlt
            · exact .nil
      · have hnone : piece[q]? = none := Array.getElem?_eq_none (Nat.le_of_eq hpart.size)
        rw [hnone]
        refine cut_nil fun e he => ?_
        split at he
        · split at he
          · obtain rfl := List.mem_singleton.1 he
            exact Nat.lt_succ_self _
          · cases he
        · cases he
  | assertion kind => exact absurd free id
  | seq first second ih ih' =>
      exact fun q hq => (ih free.1 q hq).follow (ih' free.2) (advancing_ends text second)
  | alt first second ih ih' =>
      exact fun q hq => ((ih free.1 q hq).append (ih' free.2 q hq)).firstOfEach
  | many body least most greedy ih =>
      have hsize := hpart.size
      have hwithin := hpart.within
      exact cut_loopEnds (ih free) (advancing_ends text body) least most greedy (by omega)
        (by omega)
  | capture name body ih =>
      exact fun q hq => (ih free q hq).map (fun _ => rfl) (fun _ => rfl) fun _ => rfl

theorem Cut.head (h : Cut base len (e :: whole) part) (he : e.place ≤ base + len) :
    ∃ e' rest, part = e' :: rest ∧ e = e'.raise base := by
  cases h with
  | @keep e' _ rest _ _ => exact ⟨e', rest, rfl, rfl⟩
  | drop hlt _ => omega

/-- What is matched within a text is the first thing that is come upon in what is matched. -/
theorem ends_part {m : Match} (hpart : Part text base len piece) (free : regex.AssertionFree)
    (hm : matchAt? regex text base = some m) (hstop : m.stop = base + len) :
    ∃ captures rest, ends piece regex 0 = ⟨len, captures⟩ :: rest ∧
      m.captures = captures.raise base := by
  obtain ⟨e, he, rfl⟩ := Option.map_eq_some_iff.1 hm
  obtain ⟨rest, hends⟩ := List.head?_eq_some_iff.1 he
  have hplace : e.place = base + len := hstop
  have hcut := cut_ends hpart free 0 (Nat.zero_le _)
  rw [Nat.add_zero, hends] at hcut
  obtain ⟨⟨place, captures⟩, rest, hpiece, rfl⟩ := hcut.head (Nat.le_of_eq hplace)
  obtain rfl : place = len := Nat.add_left_cancel hplace
  exact ⟨captures, rest, hpiece, rfl⟩

-- ======================================================= whole texts

theorem follow_cons {next : Nat → List Ending} {endings rest : List Ending} {place stop : Nat}
    {before after : Captures} (h : next place = ⟨stop, after⟩ :: rest) :
    ∃ others, follow next (⟨place, before⟩ :: endings) = ⟨stop, after ++ before⟩ :: others := by
  unfold follow
  rw [List.flatMap_cons, h, List.map_cons, List.cons_append]
  exact ⟨_, rfl⟩

/-- If the first thing that is come upon is the end of the text, that is what is found if the text
has to match as a whole. -/
theorem find?_whole {captures : Captures} {rest : List Ending}
    (h : ends text regex 0 = ⟨text.size, captures⟩ :: rest) :
    find? (.seq (.seq (.assertion .textStart) regex) (.assertion .textEnd)) text 0 =
      some ⟨0, text.size, captures⟩ := by
  have hstart : ends text (.assertion .textStart) 0 = [⟨0, []⟩] := rfl
  have hend : ends text (.assertion .textEnd) text.size = [⟨text.size, []⟩] := by
    unfold ends
    rw [if_pos]
    show text[text.size]?.isNone = true
    simp
  obtain ⟨others, hinner⟩ : ∃ others, follow (ends text regex) [⟨0, []⟩] =
      ⟨text.size, captures ++ []⟩ :: others := follow_cons h
  rw [List.append_nil] at hinner
  obtain ⟨others', hwhole⟩ : ∃ others', follow (ends text (.assertion .textEnd))
      (⟨text.size, captures⟩ :: others) = ⟨text.size, [] ++ captures⟩ :: others' :=
    follow_cons hend
  have hends : ends text (.seq (.seq (.assertion .textStart) regex) (.assertion .textEnd)) 0 =
      ⟨text.size, captures⟩ :: others' := by
    show follow _ (follow _ (ends text (.assertion .textStart) 0)) = _
    rw [hstart, hinner, hwhole]
    rfl
  unfold find?
  rw [Nat.sub_zero, findAmong?]
  unfold matchAt?
  rw [hends]
  rfl

end TreeQuery.Regex
