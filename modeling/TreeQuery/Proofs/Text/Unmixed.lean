/-
Texts that can be taken apart again.

A text written as one part after the other says where a part ends only by the characters after
it: a run of one class of characters ends where the next is of another. `Ends` is what has to
follow a run, in terms of the first character ahead. `Unmixed` says of any way of writing that
parts so followed can be told apart and cut off in one way only. It holds of runs
(`run_unmixed`), and of any number of parts if it holds of each and what comes after the last
cannot be taken for another (`Unmixed.flatMap`).
-/
namespace TreeQuery.Text

-- ================================================= what ends a part

/-- The text ahead, if there is any, starts with no character of the class. -/
def Ends (p : Char → Bool) (ahead : List Char) : Prop := ∀ c ∈ ahead.head?, p c = false

variable {p q : Char → Bool} {ahead rest rest' : List Char}

theorem ends_nil : Ends p [] := by
  intro c hc
  cases hc

theorem ends_cons {c : Char} (h : p c = false) : Ends p (c :: ahead) := by
  intro d hd
  obtain rfl := Option.some.inj hd
  exact h

theorem Ends.of_cons {c : Char} (h : Ends p (c :: ahead)) : p c = false := h c rfl

/-- No run has ended where it starts. -/
theorem not_ends_run {run : List Char} (nonempty : run ≠ []) (hrun : ∀ c ∈ run, p c = true) :
    ¬Ends p (run ++ rest) := by
  intro h
  obtain ⟨c, run, rfl⟩ := List.exists_cons_of_ne_nil nonempty
  have hc := hrun c List.mem_cons_self
  rw [Ends.of_cons h] at hc
  cases hc

/-- A run ends where one of other characters starts. -/
theorem ends_run {run : List Char} (nonempty : run ≠ []) (hrun : ∀ c ∈ run, p c = false) :
    Ends p (run ++ rest) := by
  obtain ⟨c, run, rfl⟩ := List.exists_cons_of_ne_nil nonempty
  exact ends_cons (hrun c List.mem_cons_self)

theorem Ends.mono (h : Ends q ahead) (sub : ∀ c, p c = true → q c = true) : Ends p ahead := by
  intro c hc
  cases hp : p c with
  | false => rfl
  | true =>
      have hq := sub c hp
      rw [h c hc] at hq
      cases hq

/-- A run that has ended is as long as it can be. -/
theorem takeWhile_run {run : List Char} (hrun : ∀ c ∈ run, p c = true) (h : Ends p rest) :
    (run ++ rest).takeWhile p = run := by
  rw [List.takeWhile_append_of_pos hrun]
  cases rest with
  | nil => simp
  | cons c rest => simp [h.of_cons]

theorem dropWhile_run {run : List Char} (hrun : ∀ c ∈ run, p c = true) (h : Ends p rest) :
    (run ++ rest).dropWhile p = rest := by
  rw [List.dropWhile_append_of_pos hrun]
  cases rest with
  | nil => simp
  | cons c rest => simp [h.of_cons]

theorem ends_dropWhile (p : Char → Bool) (ahead : List Char) : Ends p (ahead.dropWhile p) := by
  intro c hc
  have h := List.head?_dropWhile_not p ahead
  rw [Option.mem_def.1 hc] at h
  exact h

/-- Two runs that have ended are the same if what they start is. -/
theorem run_unmixed {run run' : List Char} (hrun : ∀ c ∈ run, p c = true)
    (hrun' : ∀ c ∈ run', p c = true) (h : Ends p rest) (h' : Ends p rest')
    (he : run ++ rest = run' ++ rest') : run = run' ∧ rest = rest' := by
  constructor
  · rw [← takeWhile_run hrun h, he, takeWhile_run hrun' h']
  · rw [← dropWhile_run hrun h, he, dropWhile_run hrun' h']

-- ============================================================ unmixed

variable {α : Type} {write : α → List Char} {follow stop : List Char → Prop}

/-- Parts with what has to follow them are the same, and so is what follows them, if the texts
they start are the same. -/
def Unmixed (write : α → List Char) (follow : List Char → Prop) : Prop :=
  ∀ x y rest rest', follow rest → follow rest' → write x ++ rest = write y ++ rest' →
    x = y ∧ rest = rest'

/-- Parts go on until something comes that no part starts with. -/
theorem Unmixed.flatMap (h : Unmixed write follow)
    (next : ∀ x ahead, ¬ stop (write x ++ ahead))
    (goes : ∀ (xs : List α) ahead, stop ahead → follow (xs.flatMap write ++ ahead)) :
    Unmixed (List.flatMap write) stop := by
  intro xs
  induction xs with
  | nil =>
      rintro (_ | ⟨y, ys⟩) rest rest' hs - he
      · exact ⟨rfl, he⟩
      · obtain rfl : rest = _ := he
        rw [List.flatMap_cons, List.append_assoc] at hs
        exact absurd hs (next y _)
  | cons x xs ih =>
      rintro (_ | ⟨y, ys⟩) rest rest' hs hs' he
      · obtain rfl : _ = rest' := he
        rw [List.flatMap_cons, List.append_assoc] at hs'
        exact absurd hs' (next x _)
      · simp only [List.flatMap_cons, List.append_assoc] at he
        obtain ⟨rfl, hmore⟩ := h x y _ _ (goes xs rest hs) (goes ys rest' hs') he
        obtain ⟨rfl, hafter⟩ := ih ys rest rest' hs hs' hmore
        exact ⟨rfl, hafter⟩

/-- Up to the end of the text there is nothing else to tell apart. -/
theorem Unmixed.injective (h : Unmixed write follow) (hf : follow []) {x y : α}
    (he : write x = write y) : x = y :=
  (h x y [] [] hf hf (by rw [he])).1

end TreeQuery.Text
