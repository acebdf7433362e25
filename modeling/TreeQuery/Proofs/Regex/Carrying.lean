/-
Reading on past the end.

A reader takes characters from the front of what is ahead and leaves the rest, so what it reads
should not depend on what follows. `Carries` says so: with more text behind, the same is read and
the same is left, with the more behind it. There are two ways in which it could fail to be true. A
reader may come to the end of the text and stop there for no other reason; so something must be
left, or what follows must be such that every reader stops at it, a parenthesis that closes
(`Closing`). And where white space does not count, the text may end in a comment, which takes in
all that follows up to the end of the line; nothing is left then either way (`Followed`).

Readers are put together from others, and so are the proofs that they carry: one lemma for each
way of putting them together, in the namespace `Carries`.
-/
import TreeQuery.Regex.Parser

namespace TreeQuery.Regex

variable {α β : Type} {flags : Flags} {more ahead ahead' left left' rest : List Char}

/-- What may follow a pattern: it starts with the parenthesis that closes the group around the
pattern, and no end of a line is there to end a comment. -/
structure Closing (more : List Char) : Prop where
  closes : more.head? = some ')'
  oneLine : '\n' ∉ more

/-- What is ahead of a reader, and what is ahead when `more` follows: an open comment takes that
in. -/
def Followed (more ahead ahead' : List Char) : Prop :=
  ahead' = ahead ++ more ∨ (ahead = [] ∧ ahead' = [])

theorem followed_append (more ahead : List Char) : Followed more ahead (ahead ++ more) := .inl rfl

theorem Followed.cons {c : Char} (h : Followed more (c :: rest) ahead') :
    ahead' = c :: (rest ++ more) := by
  rcases h with rfl | ⟨h, -⟩
  · rfl
  · cases h

theorem Closing.exists_cons (h : Closing more) : ∃ rest, more = ')' :: rest := by
  cases more with
  | nil => cases h.closes
  | cons c rest => exact ⟨rest, congrArg (· :: rest) (Option.some.inj h.closes)⟩

theorem Followed.length_le (h : Followed more ahead ahead') : ahead.length ≤ ahead'.length := by
  rcases h with rfl | ⟨rfl, rfl⟩
  · rw [List.length_append]
    omega
  · exact Nat.le_refl _

theorem head?_ne_some {c : Char} (h : ∀ rest, ahead = c :: rest → False) :
    ahead.head? ≠ some c := by
  intro hhead
  obtain ⟨rest, hrest⟩ := List.head?_eq_some_iff.1 hhead
  exact h rest hrest

/-- A character that closes nothing is ahead only if it is so before anything follows. -/
theorem Followed.head?_ne {c : Char} (h : Followed more ahead ahead') (hc : c ≠ ')')
    (hhead : ahead.head? ≠ some c) (hm : ahead ≠ [] ∨ Closing more) : ahead'.head? ≠ some c := by
  cases ahead with
  | nil =>
      rcases h with rfl | ⟨-, rfl⟩
      · obtain ⟨rest, rfl⟩ := (hm.resolve_left fun h => h rfl).exists_cons
        exact fun heq => hc (Option.some.inj heq).symm
      · exact hhead
  | cons d rest =>
      rw [h.cons]
      exact hhead

-- ============================================================ white space

theorem skipSpace_suffix (flags : Flags) (ahead : List Char) : skipSpace flags ahead <:+ ahead := by
  have hgo : ∀ comment, skipSpace.go comment ahead <:+ ahead := by
    induction ahead with
    | nil => exact fun _ => List.suffix_rfl
    | cons c rest ih =>
        intro comment
        unfold skipSpace.go
        split
        · exact (ih _).trans (List.suffix_cons _ _)
        · split
          · exact (ih _).trans (List.suffix_cons _ _)
          · split
            · exact (ih _).trans (List.suffix_cons _ _)
            · exact List.suffix_rfl
  unfold skipSpace
  split
  · exact hgo false
  · exact List.suffix_rfl

/-- In front of something that counts the same is skipped whatever follows; else all is skipped,
and what follows is, too, if it is part of a comment. -/
theorem go_followed (comment : Bool)
    (hm : skipSpace.go comment ahead ≠ [] ∨ Closing more) :
    Followed more (skipSpace.go comment ahead) (skipSpace.go comment (ahead ++ more)) := by
  induction ahead generalizing comment with
  | nil =>
      have hclosing := hm.resolve_left fun h => h rfl
      cases comment with
      | false =>
          obtain ⟨rest, rfl⟩ := hclosing.exists_cons
          exact .inl rfl
      | true =>
          have hline := hclosing.oneLine
          clear hm hclosing
          refine .inr ⟨rfl, ?_⟩
          rw [List.nil_append]
          induction more with
          | nil => rfl
          | cons c rest ih =>
              rw [List.mem_cons, not_or] at hline
              unfold skipSpace.go
              rw [if_pos rfl, bne_iff_ne.2 (Ne.symm hline.1)]
              exact ih hline.2
  | cons c rest ih =>
      rw [List.cons_append]
      unfold skipSpace.go at hm ⊢
      split
      · rw [if_pos ‹_›] at hm
        exact ih _ hm
      · rw [if_neg ‹_›] at hm
        split
        · rw [if_pos ‹_›] at hm
          exact ih _ hm
        · rw [if_neg ‹_›] at hm
          split
          · rw [if_pos ‹_›] at hm
            exact ih _ hm
          · exact .inl rfl

/-- What is skipped does not depend on what follows, unless all is skipped and what follows does not
close. -/
structure Skips (more : List Char) (skip : List Char → List Char) : Prop where
  suffix : ∀ ahead, skip ahead <:+ ahead
  followed : ∀ {ahead ahead'}, Followed more ahead ahead' → (skip ahead ≠ [] ∨ Closing more) →
    Followed more (skip ahead) (skip ahead')

theorem Skips.cons {skip : List Char → List Char} (h : Skips more skip) {c : Char}
    (hskip : skip ahead = c :: rest) (hf : Followed more ahead ahead') :
    skip ahead' = c :: (rest ++ more) := by
  have hne : skip ahead ≠ [] := hskip ▸ List.cons_ne_nil c rest
  have hfollowed := h.followed hf (.inl hne)
  rw [hskip] at hfollowed
  exact hfollowed.cons

theorem skips_nothing (more : List Char) : Skips more fun ahead => ahead :=
  ⟨fun _ => List.suffix_rfl, fun h _ => h⟩

theorem skips_space (more : List Char) (flags : Flags) : Skips more (skipSpace flags) := by
  refine ⟨skipSpace_suffix flags, @fun ahead _ h hm => ?_⟩
  rcases h with rfl | ⟨rfl, rfl⟩
  · unfold skipSpace at hm ⊢
    split
    · rw [if_pos ‹_›] at hm
      exact go_followed false hm
    · exact followed_append more ahead
  · have hnil : skipSpace flags [] = [] := List.suffix_nil.1 (skipSpace_suffix flags [])
    exact .inr ⟨hnil, hnil⟩

/-- The white space around a number counts for nothing, whatever the flags. -/
theorem skips_blank (more : List Char) : Skips more (List.dropWhile Unicode.isWhitespace) := by
  refine ⟨fun ahead => List.dropWhile_suffix _, @fun ahead _ h hm => ?_⟩
  rcases h with rfl | ⟨rfl, rfl⟩
  · induction ahead with
    | nil =>
        obtain ⟨rest, rfl⟩ := (hm.resolve_left fun h => h rfl).exists_cons
        exact .inl rfl
    | cons c rest ih =>
        rw [List.cons_append, List.dropWhile_cons, List.dropWhile_cons]
        rw [List.dropWhile_cons] at hm
        split
        · rw [if_pos ‹_›] at hm
          exact ih hm
        · exact .inl rfl
  · exact .inr ⟨rfl, rfl⟩

-- ================================================================ readers

/-- What a reader reads does not depend on what follows, unless it leaves nothing and what
follows does not close. With more to read, the reader may have more fuel. -/
structure Carries (more : List Char) (read read' : List Char → Option (α × List Char)) : Prop where
  suffix : ∀ {ahead x left}, read ahead = some (x, left) → left <:+ ahead
  carries : ∀ {ahead ahead' x left}, read ahead = some (x, left) → (left ≠ [] ∨ Closing more) →
    Followed more ahead ahead' → ∃ left', read' ahead' = some (x, left') ∧ Followed more left left'

theorem clear_of_suffix (h : left <:+ ahead) (hm : left ≠ [] ∨ Closing more) :
    ahead ≠ [] ∨ Closing more := by
  refine hm.imp_left fun hne heq => hne ?_
  rw [heq] at h
  exact List.suffix_nil.1 h

namespace Carries

variable {read read' other other' : List Char → Option (α × List Char)}
  {skip : List Char → List Char}

theorem none : Carries more (fun _ => Option.none) read' :=
  ⟨@fun _ _ _ h => (by cases h), @fun _ _ _ _ h => (by cases h)⟩

theorem refused :
    Carries more (fun _ => (Option.none : Option (α × List Char))) fun _ => Option.none :=
  .none

theorem pure (x : α) :
    Carries more (fun ahead => some (x, ahead)) fun ahead => some (x, ahead) := by
  refine ⟨fun h => ?_, fun h hm hf => ?_⟩
  · obtain ⟨-, rfl⟩ := Prod.mk.inj (Option.some.inj h)
    exact List.suffix_rfl
  · obtain ⟨rfl, rfl⟩ := Prod.mk.inj (Option.some.inj h)
    exact ⟨_, rfl, hf⟩

theorem bind {next next' : α → List Char → Option (β × List Char)} (h : Carries more read read')
    (hnext : ∀ x, Carries more (next x) (next' x)) :
    Carries more (fun ahead => (read ahead).bind fun r => next r.1 r.2)
      fun ahead => (read' ahead).bind fun r => next' r.1 r.2 := by
  refine ⟨fun h' => ?_, fun h' hm hf => ?_⟩
  · obtain ⟨⟨x, middle⟩, hread, hlast⟩ := Option.bind_eq_some_iff.1 h'
    exact ((hnext x).suffix hlast).trans (h.suffix hread)
  · obtain ⟨⟨x, middle⟩, hread, hlast⟩ := Option.bind_eq_some_iff.1 h'
    obtain ⟨middle', hread', hmiddle⟩ :=
      h.carries hread (clear_of_suffix ((hnext x).suffix hlast) hm) hf
    obtain ⟨left', hlast', hleft⟩ := (hnext x).carries hlast hm hmiddle
    exact ⟨left', Option.bind_eq_some_iff.2 ⟨_, hread', hlast'⟩, hleft⟩

/-- What is read decides whether to go on. -/
theorem given {next next' : β → List Char → Option (α × List Char)} (known : Option β)
    (hnext : ∀ y, Carries more (next y) (next' y)) :
    Carries more (fun ahead => known.bind fun y => next y ahead)
      fun ahead => known.bind fun y => next' y ahead := by
  cases known with
  | none => exact none
  | some y => exact hnext y

theorem ite {p : Prop} [Decidable p] (h : p → Carries more read read')
    (h' : ¬p → Carries more other other') :
    Carries more (fun ahead => if p then read ahead else other ahead)
      fun ahead => if p then read' ahead else other' ahead := by
  by_cases hp : p
  · simp only [if_pos hp]
    exact h hp
  · simp only [if_neg hp]
    exact h' hp

theorem when (p : Prop) [Decidable p] (h : Carries more read read') :
    Carries more (fun ahead => if p then read ahead else Option.none)
      fun ahead => if p then read' ahead else Option.none :=
  .ite (fun _ => h) fun _ => .none

theorem without (p : Prop) [Decidable p] (h : Carries more read read') :
    Carries more (fun ahead => if p then Option.none else read ahead)
      fun ahead => if p then Option.none else read' ahead :=
  .ite (fun _ => .none) fun _ => h

theorem skipping (hs : Skips more skip) (h : Carries more read read') :
    Carries more (fun ahead => read (skip ahead)) fun ahead => read' (skip ahead) := by
  refine ⟨fun h' => (h.suffix h').trans (hs.suffix _), fun h' hm hf => ?_⟩
  exact h.carries h' hm (hs.followed hf (clear_of_suffix (h.suffix h') hm))

/-- Both parts at once, for a reader that is taken apart by hand. -/
theorem of_each (h : ∀ ahead x left, read ahead = some (x, left) → left <:+ ahead ∧
    ((left ≠ [] ∨ Closing more) → ∀ ahead', Followed more ahead ahead' →
      ∃ left', read' ahead' = some (x, left') ∧ Followed more left left')) :
    Carries more read read' :=
  ⟨@fun ahead x left hread => (h ahead x left hread).1,
    @fun ahead ahead' x left hread hm hf => (h ahead x left hread).2 hm ahead' hf⟩

/-- A reader that needs a character. -/
theorem head (hs : Skips more skip)
    {next next' : Char → List Char → Option (α × List Char)}
    (hnil : ∀ ahead, skip ahead = [] → read ahead = Option.none)
    (hcons : ∀ ahead c rest, skip ahead = c :: rest → read ahead = next c rest)
    (hcons' : ∀ ahead c rest, skip ahead = c :: rest → read' ahead = next' c rest)
    (hnext : ∀ c, Carries more (next c) (next' c)) : Carries more read read' := by
  refine ⟨@fun ahead _ _ h => ?_, @fun ahead ahead' _ left h hm hf => ?_⟩
  · match hskip : skip ahead with
    | [] => cases (hnil ahead hskip).symm.trans h
    | c :: rest =>
        rw [hcons ahead c rest hskip] at h
        have hrest := ((hnext c).suffix h).trans (List.suffix_cons c rest)
        exact (hskip ▸ hrest).trans (hs.suffix ahead)
  · match hskip : skip ahead with
    | [] => cases (hnil ahead hskip).symm.trans h
    | c :: rest =>
        rw [hcons ahead c rest hskip] at h
        obtain ⟨left', hread, hleft⟩ := (hnext c).carries h hm (followed_append more rest)
        exact ⟨left', (hcons' ahead' c _ (hs.cons hskip hf)).trans hread, hleft⟩

/-- A reader that goes one way behind a certain character, and another way if that is not ahead or
nothing is. -/
theorem either {c : Char} (hc : c ≠ ')') (h : Carries more read read')
    (h' : Carries more other other') :
    Carries more (fun ahead => if ahead.head? = some c then read ahead.tail else other ahead)
      fun ahead => if ahead.head? = some c then read' ahead.tail else other' ahead := by
  refine .of_each fun ahead x left hread => ?_
  by_cases hhead : ahead.head? = some c
  · obtain ⟨rest, rfl⟩ := List.head?_eq_some_iff.1 hhead
    rw [if_pos hhead] at hread
    refine ⟨(h.suffix hread).trans (List.suffix_cons c rest), fun hm ahead' hf => ?_⟩
    obtain ⟨left', hread', hleft⟩ := h.carries hread hm (followed_append more rest)
    exact ⟨left', by rw [hf.cons, if_pos (List.head?_cons ..), List.tail_cons, hread'], hleft⟩
  · rw [if_neg hhead] at hread
    refine ⟨h'.suffix hread, fun hm ahead' hf => ?_⟩
    rw [if_neg (hf.head?_ne hc hhead (clear_of_suffix (h'.suffix hread) hm))]
    exact h'.carries hread hm hf

/-- A reader that goes one way if it sees a certain character, and another way if not. -/
theorem peek {c : Char} (hc : c ≠ ')') (h : Carries more read read')
    (h' : Carries more other other') :
    Carries more (fun ahead => if ahead.head? = some c then read ahead else other ahead)
      fun ahead => if ahead.head? = some c then read' ahead else other' ahead := by
  refine .of_each fun ahead x left hread => ?_
  by_cases hhead : ahead.head? = some c
  · rw [if_pos hhead] at hread
    refine ⟨h.suffix hread, fun hm ahead' hf => ?_⟩
    obtain ⟨rest, rfl⟩ := List.head?_eq_some_iff.1 hhead
    rw [if_pos (by rw [hf.cons]; rfl)]
    exact h.carries hread hm hf
  · rw [if_neg hhead] at hread
    refine ⟨h'.suffix hread, fun hm ahead' hf => ?_⟩
    rw [if_neg (hf.head?_ne hc hhead (clear_of_suffix (h'.suffix hread) hm))]
    exact h'.carries hread hm hf

/-- A reader that needs a certain character. -/
theorem need (c : Char) (h : Carries more read read') :
    Carries more (fun ahead => if ahead.head? = some c then read ahead.tail else Option.none)
      fun ahead => if ahead.head? = some c then read' ahead.tail else Option.none := by
  refine .head (skips_nothing more) ?_ ?_ ?_ fun d =>
    .when (d = c) h
  · rintro _ rfl
    rfl
  · rintro _ d rest rfl
    simp only [List.head?_cons, Option.some.injEq, List.tail_cons]
  · rintro _ d rest rfl
    simp only [List.head?_cons, Option.some.injEq, List.tail_cons]

/-- A reader with fuel in proportion to what is ahead. -/
theorem fueled {read : Nat → List Char → Option (α × List Char)} (k : Nat)
    (h : ∀ fuel fuel', fuel ≤ fuel' → Carries more (read fuel) (read fuel')) :
    Carries more (fun ahead => read (ahead.length + k) ahead)
      fun ahead => read (ahead.length + k) ahead := by
  refine ⟨@fun ahead _ _ hread => (h _ _ (Nat.le_refl _)).suffix hread,
    @fun ahead ahead' _ _ hread hm hf => ?_⟩
  exact (h _ _ (Nat.add_le_add_right hf.length_le k)).carries hread hm hf

end Carries

-- ================================================================== runs

/-- Characters of a kind, with what is skipped between them, up to the first other one. -/
def run (flags : Flags) (p : Char → Bool) : Nat → List Char → List Char × List Char
  | 0, ahead => ([], ahead)
  | _ + 1, [] => ([], [])
  | fuel + 1, c :: rest =>
    if p c then
      (c :: (run flags p fuel (skipSpace flags rest)).1,
        (run flags p fuel (skipSpace flags rest)).2)
    else ([], c :: rest)

section

variable {p : Char → Bool} {fuel fuel' : Nat}

theorem run_suffix : (run flags p fuel ahead).2 <:+ ahead := by
  induction fuel generalizing ahead with
  | zero => exact List.suffix_rfl
  | succ fuel ih =>
      cases ahead with
      | nil => exact List.suffix_rfl
      | cons c rest =>
          unfold run
          split
          · exact (ih.trans (skipSpace_suffix flags rest)).trans (List.suffix_cons c rest)
          · exact List.suffix_rfl

theorem run_nil (flags : Flags) (p : Char → Bool) (fuel : Nat) :
    run flags p fuel [] = ([], []) := by
  cases fuel with
  | zero => rfl
  | succ fuel => rfl

theorem run_of_not {c : Char} (hc : p c = false) (fuel : Nat) :
    run flags p fuel (c :: rest) = ([], c :: rest) := by
  cases fuel with
  | zero => rfl
  | succ fuel =>
      unfold run
      rw [hc]
      rfl

/-- With nothing ahead a run ends, and what closes does not make it longer. -/
theorem run_followed_nil (hp : p ')' = false) (hclosing : Closing more)
    (h : Followed more [] ahead') :
    (run flags p fuel' ahead').1 = [] ∧ Followed more [] (run flags p fuel' ahead').2 := by
  rcases h with rfl | ⟨-, rfl⟩
  · obtain ⟨rest, rfl⟩ := hclosing.exists_cons
    have hrun : run flags p fuel' (')' :: rest) = ([], ')' :: rest) := run_of_not hp fuel'
    show (run flags p fuel' (')' :: rest)).1 = [] ∧ _
    rw [hrun]
    exact ⟨rfl, .inl rfl⟩
  · rw [run_nil]
    exact ⟨rfl, .inr ⟨rfl, rfl⟩⟩

theorem run_followed (hp : p ')' = false) (enough : ahead.length ≤ fuel)
    (enough' : ahead'.length ≤ fuel') (h : Followed more ahead ahead')
    (hm : (run flags p fuel ahead).2 ≠ [] ∨ Closing more) :
    (run flags p fuel' ahead').1 = (run flags p fuel ahead).1 ∧
      Followed more (run flags p fuel ahead).2 (run flags p fuel' ahead').2 := by
  induction fuel generalizing ahead ahead' fuel' with
  | zero =>
      obtain rfl := List.eq_nil_of_length_eq_zero (Nat.le_zero.1 enough)
      exact run_followed_nil hp (hm.resolve_left fun h => h rfl) h
  | succ fuel ih =>
      cases ahead with
      | nil => exact run_followed_nil hp (hm.resolve_left fun h => h rfl) h
      | cons c rest =>
          obtain rfl := h.cons
          rw [List.length_cons] at enough enough'
          obtain ⟨fuel', rfl⟩ := Nat.exists_eq_add_of_le' (show 1 ≤ fuel' by omega)
          unfold run at hm ⊢
          split
          · rename_i hc
            rw [if_pos hc] at hm
            have hskip := (skips_space more flags).followed (followed_append more rest)
              (clear_of_suffix run_suffix hm)
            have hle := (skipSpace_suffix flags rest).length_le
            have hle' := (skipSpace_suffix flags (rest ++ more)).length_le
            obtain ⟨hrun, hleft⟩ := ih (by omega)
              (show (skipSpace flags (rest ++ more)).length ≤ fuel' by omega) hskip hm
            exact ⟨congrArg (c :: ·) hrun, hleft⟩
          · exact ⟨rfl, followed_append more (c :: rest)⟩

theorem carries_run (more : List Char) (flags : Flags) (hp : p ')' = false) (k : Nat) :
    Carries more (fun ahead => some (run flags p (ahead.length + k) ahead))
      fun ahead => some (run flags p (ahead.length + k) ahead) := by
  refine ⟨@fun ahead x left h => ?_, @fun ahead ahead' x left h hm hf => ?_⟩
  · exact (Option.some.inj h ▸ run_suffix : (x, left).2 <:+ ahead)
  · have hrun := Option.some.inj h
    have hm' : (run flags p (ahead.length + k) ahead).2 ≠ [] ∨ Closing more := hrun ▸ hm
    obtain ⟨hsame, hleft⟩ := run_followed hp (Nat.le_add_right _ k)
      (Nat.le_add_right ahead'.length k) hf hm'
    rw [hrun] at hsame hleft
    refine ⟨(run flags p (ahead'.length + k) ahead').2, ?_, hleft⟩
    exact congrArg some (Prod.ext_iff.2 ⟨hsame, rfl⟩)

end

end TreeQuery.Regex
