/-
Searching a text: from left to right, and no match is passed over.

The search tries one place after the other, and at each it finds a match if there is one
(`exists_matchAt?`). So the first match found starts no later than any other
(`exists_find?`). The next is looked for from the end of the last, so of two matches found
in one text the earlier ends before the later starts (`pairwise_findAll`), and as none is empty
where the last one ended it also starts before it (`ascending_findAll`). If a pattern never
matches the empty text, each of them takes the search on, and a match at any place starts within
one that is found (`exists_mem_findAll`): nothing is left before the first, between two, or after
the last.
-/
import TreeQuery.Proofs.Regex.Matching
import TreeQuery.Regex.Search

namespace TreeQuery.Regex

variable {text : Array Char} {regex : Regex} {place : Nat} {m : Match}

-- ========================================================= at one place

theorem matches_of_matchAt? (h : matchAt? regex text place = some m) :
    m.start = place ∧ Matches text regex m.start m.stop m.captures := by
  obtain ⟨e, he, rfl⟩ := Option.map_eq_some_iff.1 h
  exact ⟨rfl, matches_of_mem_ends text regex place e (List.mem_of_head? he)⟩

theorem exists_matchAt? {stop : Nat} {captures : Captures}
    (h : Matches text regex place stop captures) : ∃ m, matchAt? regex text place = some m := by
  obtain ⟨e, he, -⟩ := exists_mem_ends text regex place stop captures h
  unfold matchAt?
  cases hends : ends text regex place with
  | nil =>
      rw [hends] at he
      cases he
  | cons first rest => exact ⟨_, rfl⟩

-- =========================================================== searching

theorem matches_of_findAmong? {n : Nat} (h : findAmong? regex text n place = some m) :
    place ≤ m.start ∧ Matches text regex m.start m.stop m.captures := by
  induction n generalizing place with
  | zero => cases h
  | succ n ih =>
      rcases Option.or_eq_some_iff.1 h with h | ⟨-, h⟩
      · obtain ⟨hstart, hmatches⟩ := matches_of_matchAt? h
        exact ⟨Nat.le_of_eq hstart.symm, hmatches⟩
      · obtain ⟨hstart, hmatches⟩ := ih h
        exact ⟨Nat.le_of_succ_le hstart, hmatches⟩

theorem lt_of_findAmong? {n : Nat} (h : findAmong? regex text n place = some m) :
    m.start < place + n := by
  induction n generalizing place with
  | zero => cases h
  | succ n ih =>
      rcases Option.or_eq_some_iff.1 h with h | ⟨-, h⟩
      · obtain ⟨hstart, -⟩ := matches_of_matchAt? h
        omega
      · have := ih h
        omega

/-- What is found is the preferred match from where it starts. -/
theorem matchAt?_of_findAmong? {n : Nat} (h : findAmong? regex text n place = some m) :
    matchAt? regex text m.start = some m := by
  induction n generalizing place with
  | zero => cases h
  | succ n ih =>
      rcases Option.or_eq_some_iff.1 h with hm | ⟨-, h⟩
      · obtain ⟨e, he, rfl⟩ := Option.map_eq_some_iff.1 hm
        exact hm
      · exact ih h

theorem exists_findAmong? {n p stop : Nat} {captures : Captures} (hle : place ≤ p)
    (hlt : p < place + n) (h : Matches text regex p stop captures) :
    ∃ m, findAmong? regex text n place = some m ∧ m.start ≤ p := by
  induction n generalizing place with
  | zero => omega
  | succ n ih =>
      unfold findAmong?
      cases hat : matchAt? regex text place with
      | some m =>
          obtain ⟨hstart, -⟩ := matches_of_matchAt? hat
          exact ⟨m, rfl, hstart ▸ hle⟩
      | none =>
          by_cases hp : p = place
          · obtain ⟨m, hm⟩ := exists_matchAt? (hp ▸ h)
            rw [hat] at hm
            cases hm
          · obtain ⟨m, hm, hstart⟩ := @ih (place + 1) (by omega) (by omega)
            exact ⟨m, hm, hstart⟩

/-- A match is found if there is one, and it starts no later than any other. -/
theorem exists_find? {p stop : Nat} {captures : Captures} (hle : place ≤ p) (hp : p ≤ text.size)
    (h : Matches text regex p stop captures) :
    ∃ m, find? regex text place = some m ∧ m.start ≤ p :=
  exists_findAmong? hle (by omega) h

/-- The next match starts at the place or after it. -/
theorem matches_of_findNext? {last : Option Nat}
    (h : findNext? regex text place last = some m) :
    place ≤ m.start ∧ Matches text regex m.start m.stop m.captures := by
  unfold findNext? at h
  split at h
  · rename_i found hfound
    split at h
    · obtain ⟨hstart, hmatches⟩ := matches_of_findAmong? h
      exact ⟨Nat.le_of_succ_le hstart, hmatches⟩
    · obtain rfl := Option.some.inj h
      exact matches_of_findAmong? hfound
  · cases h

theorem matches_of_mem_findAllFrom {fuel : Nat} {last : Option Nat}
    (h : m ∈ findAllFrom regex text fuel place last) :
    place ≤ m.start ∧ Matches text regex m.start m.stop m.captures := by
  induction fuel generalizing place last with
  | zero => cases h
  | succ fuel ih =>
      unfold findAllFrom at h
      split at h
      · rename_i found hfound
        obtain ⟨hstart, hmatches⟩ := matches_of_findNext? hfound
        rcases List.mem_cons.1 h with rfl | h
        · exact ⟨hstart, hmatches⟩
        · obtain ⟨hnext, hmatches'⟩ := ih h
          have := hmatches.bounds
          exact ⟨by omega, hmatches'⟩
      · cases h

theorem pairwise_findAllFrom {fuel : Nat} {last : Option Nat} :
    (findAllFrom regex text fuel place last).Pairwise fun m n => m.stop ≤ n.start := by
  induction fuel generalizing place last with
  | zero => exact .nil
  | succ fuel ih =>
      unfold findAllFrom
      split
      · refine List.pairwise_cons.2 ⟨fun n hn => ?_, ih⟩
        exact (matches_of_mem_findAllFrom hn).1
      · exact .nil

/-- What is found in a text is a match. -/
theorem matches_of_mem_findAll (h : m ∈ findAll regex text) :
    Matches text regex m.start m.stop m.captures := (matches_of_mem_findAllFrom h).2

theorem exists_find?_of_findNext? {last : Option Nat}
    (h : findNext? regex text place last = some m) : ∃ p, find? regex text p = some m := by
  unfold findNext? at h
  split at h
  · rename_i found hfound
    split at h
    · exact ⟨place + 1, h⟩
    · exact ⟨place, h ▸ hfound⟩
  · cases h

theorem exists_find?_of_mem_findAllFrom {fuel : Nat} {last : Option Nat}
    (h : m ∈ findAllFrom regex text fuel place last) : ∃ p, find? regex text p = some m := by
  induction fuel generalizing place last with
  | zero => cases h
  | succ fuel ih =>
      unfold findAllFrom at h
      split at h
      · rename_i found hfound
        rcases List.mem_cons.1 h with rfl | h
        · exact exists_find?_of_findNext? hfound
        · exact ih h
      · cases h

/-- After a match that ended at a place, the next one found there is not empty. -/
theorem lt_stop_of_findNext? (h : findNext? regex text place (some place) = some m)
    (hstart : m.start = place) : place < m.stop := by
  obtain ⟨-, hmatches⟩ := matches_of_findNext? h
  refine Nat.lt_of_le_of_ne (hstart ▸ hmatches.bounds.1) fun hstop => ?_
  unfold findNext? at h
  split at h
  · rename_i found hfound
    split at h
    · have hle := (matches_of_findAmong? h).1
      omega
    · rename_i hother
      obtain rfl := Option.some.inj h
      exact hother ⟨hstart.trans hstop, congrArg some hstop⟩
  · cases h

/-- Nor is any of those found after that. -/
theorem lt_stop_of_mem_findAllFrom {fuel : Nat}
    (h : m ∈ findAllFrom regex text fuel place (some place)) (hstart : m.start = place) :
    place < m.stop := by
  cases fuel with
  | zero => cases h
  | succ fuel =>
      unfold findAllFrom at h
      split at h
      · rename_i found hfound
        rcases List.mem_cons.1 h with rfl | h
        · exact lt_stop_of_findNext? hfound hstart
        · -- one that starts at the place comes after an empty one there, which there is not
          obtain ⟨hle, hmatches⟩ := matches_of_findNext? hfound
          have hbounds := hmatches.bounds.1
          have hnext := (matches_of_mem_findAllFrom h).1
          have hempty : found.stop = place := by omega
          exact absurd (lt_stop_of_findNext? hfound (by omega)) (by omega)
      · cases h

/-- From one place there is one preferred match, so each match starts after the one before. -/
theorem ascending_findAllFrom {fuel : Nat} {last : Option Nat} :
    (findAllFrom regex text fuel place last).Pairwise fun m n => m.start < n.start := by
  induction fuel generalizing place last with
  | zero => exact .nil
  | succ fuel ih =>
      unfold findAllFrom
      split
      · rename_i found hfound
        refine List.pairwise_cons.2 ⟨fun n hn => ?_, ih⟩
        obtain ⟨p, hp⟩ := exists_find?_of_findNext? hfound
        obtain ⟨q, hq⟩ := exists_find?_of_mem_findAllFrom hn
        have hbounds := (matches_of_findNext? hfound).2.bounds.1
        have hnext := (matches_of_mem_findAllFrom hn).1
        refine Nat.lt_of_le_of_ne (Nat.le_trans hbounds hnext) fun he => ?_
        have hsame : some found = some n := by
          rw [← matchAt?_of_findAmong? hp, ← matchAt?_of_findAmong? hq, he]
        obtain rfl := Option.some.inj hsame
        have := lt_stop_of_mem_findAllFrom hn (by omega)
        omega
      · exact .nil

/-- Each match is the preferred one from where it starts. -/
theorem matchAt?_of_mem_findAll (h : m ∈ findAll regex text) :
    matchAt? regex text m.start = some m := by
  obtain ⟨p, hp⟩ := exists_find?_of_mem_findAllFrom h
  exact matchAt?_of_findAmong? hp

/-- No match goes beyond the text. -/
theorem stop_le_of_mem_findAll (h : m ∈ findAll regex text) : m.stop ≤ text.size := by
  obtain ⟨p, hp⟩ := exists_find?_of_mem_findAllFrom h
  obtain ⟨hplace, hmatches⟩ := matches_of_findAmong? hp
  have hlt := lt_of_findAmong? hp
  have hbounds := hmatches.bounds
  omega

/-- No match ends before it starts. -/
theorem le_of_mem_findAll (h : m ∈ findAll regex text) : m.start ≤ m.stop :=
  (matches_of_mem_findAll h).bounds.1

/-- Each match ends before the next starts. -/
theorem pairwise_findAll (regex : Regex) (text : Array Char) :
    (findAll regex text).Pairwise fun m n => m.stop ≤ n.start := pairwise_findAllFrom

/-- And starts before it. -/
theorem ascending_findAll (regex : Regex) (text : Array Char) :
    (findAll regex text).Pairwise fun m n => m.start < n.start := ascending_findAllFrom

section NonEmpty

-- No match of the pattern is empty.
variable (nonempty : ∀ start stop captures, Matches text regex start stop captures → start < stop)

include nonempty

theorem exists_findNext? (last : Option Nat) {p stop : Nat} {captures : Captures}
    (hle : place ≤ p) (hp : p ≤ text.size) (h : Matches text regex p stop captures) :
    ∃ m, findNext? regex text place last = some m ∧ m.start ≤ p := by
  obtain ⟨m, hm, hstart⟩ := exists_find? hle hp h
  have hlt := nonempty _ _ _ (matches_of_findAmong? hm).2
  refine ⟨m, ?_, hstart⟩
  unfold findNext?
  rw [hm]
  dsimp only
  rw [if_neg fun he => Nat.ne_of_lt hlt he.1]

theorem exists_mem_findAllFrom {fuel : Nat} {last : Option Nat} {p stop : Nat}
    {captures : Captures} (enough : text.size < fuel + place) (hle : place ≤ p)
    (hp : p ≤ text.size) (h : Matches text regex p stop captures) :
    ∃ m ∈ findAllFrom regex text fuel place last, m.start ≤ p ∧ p < m.stop := by
  induction fuel generalizing place last with
  | zero => omega
  | succ fuel ih =>
      obtain ⟨m, hm, hstart⟩ := exists_findNext? nonempty last hle hp h
      obtain ⟨hplace, hmatches⟩ := matches_of_findNext? hm
      have hlt := nonempty _ _ _ hmatches
      unfold findAllFrom
      rw [hm]
      dsimp only
      by_cases hstop : p < m.stop
      · exact ⟨m, List.mem_cons_self, hstart, hstop⟩
      · obtain ⟨n, hn, hcovers⟩ := @ih m.stop (some m.stop) (by omega) (by omega)
        exact ⟨n, List.mem_cons_of_mem _ hn, hcovers⟩

/-- Wherever there is a match, it starts within one that is found. -/
theorem exists_mem_findAll {p stop : Nat} {captures : Captures} (hp : p ≤ text.size)
    (h : Matches text regex p stop captures) :
    ∃ m ∈ findAll regex text, m.start ≤ p ∧ p < m.stop :=
  exists_mem_findAllFrom nonempty (by omega) (Nat.zero_le _) hp h

end NonEmpty

end TreeQuery.Regex
