/-
Association lists: pairs of keys and values, read by key. The first entry for a key is the one
that counts.

A list with each key once is read without regard to its order (`lookup_eq_some_of_mem`), and an
ascending one is determined by what it answers (`eq_of_lookup`).
-/

namespace TreeQuery

variable {κ ν : Type}

-- ============================================================== answers

section

variable [BEq κ] [LawfulBEq κ] {entries : List (κ × ν)} {key : κ} {value : ν}

/-- What a list answers is one of its entries. -/
theorem mem_of_lookup_eq_some (h : entries.lookup key = some value) : (key, value) ∈ entries := by
  induction entries with
  | nil => simp at h
  | cons entry rest ih =>
      obtain ⟨k, v⟩ := entry
      by_cases hk : key == k
      · simp only [List.lookup_cons, hk] at h
        simp_all
      · simp only [List.lookup_cons, hk] at h
        exact List.mem_cons_of_mem _ (ih h)

/-- In a list with each key once, an entry is the answer for its key. -/
theorem lookup_eq_some_of_mem (hn : (entries.map (·.1)).Nodup) (hm : (key, value) ∈ entries) :
    entries.lookup key = some value := by
  induction entries with
  | nil => cases hm
  | cons entry rest ih =>
      obtain ⟨k, v⟩ := entry
      rw [List.map_cons, List.nodup_cons] at hn
      rw [List.lookup_cons]
      rcases List.mem_cons.1 hm with he | hm
      · obtain ⟨rfl, rfl⟩ := Prod.mk.inj he
        rw [beq_self_eq_true]
      · have hne : key ≠ k := fun he => hn.1 (List.mem_map.2 ⟨(key, value), hm, he⟩)
        rw [beq_eq_false_iff_ne.2 hne]
        exact ih hn.2 hm

/-- What a list with a new first entry for a key answers. -/
theorem lookup_cons_filter [DecidableEq κ] (entries : List (κ × ν)) (key other : κ)
    (value : ν) :
    ((key, value) :: entries.filter (·.1 != key)).lookup other =
      if other = key then some value else entries.lookup other := by
  by_cases h : other = key
  · subst h
    rw [if_pos rfl, List.lookup_cons, beq_self_eq_true]
  · rw [if_neg h, List.lookup_cons, beq_eq_false_iff_ne.2 h]
    show (entries.filter (·.1 != key)).lookup other = _
    induction entries with
    | nil => rfl
    | cons entry rest ih =>
        obtain ⟨k, v⟩ := entry
        rw [List.filter_cons]
        by_cases hk : k = key
        · subst hk
          rw [List.lookup_cons, beq_eq_false_iff_ne.2 h]
          simpa using ih
        · have hk' : (k != key) = true := by simpa using hk
          simp only [hk', if_true, List.lookup_cons]
          rw [ih]

/-- What a list with another value for a key answers. -/
theorem lookup_map_replace [DecidableEq κ] (entries : List (κ × ν)) (key other : κ)
    (value : ν) :
    (entries.map fun entry => if entry.1 = key then (key, value) else entry).lookup other =
      if other = key then (entries.lookup key).map fun _ => value else entries.lookup other := by
  induction entries with
  | nil => simp
  | cons entry rest ih =>
      obtain ⟨k, v⟩ := entry
      rw [List.map_cons, List.lookup_cons, List.lookup_cons]
      by_cases hk : k = key
      · subst hk
        rw [if_pos rfl, List.lookup_cons, ih, beq_self_eq_true]
        by_cases ho : other = k
        · rw [if_pos ho, if_pos ho, beq_iff_eq.2 ho]
          rfl
        · rw [if_neg ho, if_neg ho, beq_eq_false_iff_ne.2 ho]
      · rw [if_neg hk, List.lookup_cons, ih, beq_eq_false_iff_ne.2 (Ne.symm hk)]
        by_cases ho : other = key
        · rw [if_pos ho, if_pos ho, ho, beq_eq_false_iff_ne.2 (Ne.symm hk)]
        · rw [if_neg ho, if_neg ho]

end

-- ============================================================= ascending

section

variable [LT κ] [Std.Asymm (α := κ) (· < ·)] {xs ys : List (κ × ν)}

/-- An ascending list has each key once. -/
theorem nodup_keys_of_ascending (h : (xs.map (·.1)).Pairwise (· < ·)) :
    (xs.map (·.1)).Nodup := by
  refine List.Pairwise.imp (fun {a b} hlt he => ?_) h
  subst he
  exact Std.Asymm.asymm _ _ hlt hlt

/-- Ascending lists with the same entries are the same. -/
theorem eq_of_ascending (hx : (xs.map (·.1)).Pairwise (· < ·))
    (hy : (ys.map (·.1)).Pairwise (· < ·)) (same : ∀ entry, entry ∈ xs ↔ entry ∈ ys) :
    xs = ys := by
  have nodup : ∀ {zs : List (κ × ν)}, (zs.map (·.1)).Pairwise (· < ·) → zs.Nodup := by
    intro zs hz
    exact (List.pairwise_map.1 (nodup_keys_of_ascending hz)).imp fun hne he =>
      hne (congrArg Prod.fst he)
  refine List.Perm.eq_of_pairwise (fun a b _ _ hab hba => ?_) (List.pairwise_map.1 hx)
    (List.pairwise_map.1 hy) ((List.perm_ext_iff_of_nodup (nodup hx) (nodup hy)).2 same)
  exact absurd hba (Std.Asymm.asymm _ _ hab)

/-- Ascending lists that give the same answers are the same. -/
theorem eq_of_lookup [BEq κ] [LawfulBEq κ] (hx : (xs.map (·.1)).Pairwise (· < ·))
    (hy : (ys.map (·.1)).Pairwise (· < ·)) (same : ∀ key, xs.lookup key = ys.lookup key) :
    xs = ys := by
  refine eq_of_ascending hx hy fun entry => ?_
  constructor
  · intro hm
    have hl := lookup_eq_some_of_mem (nodup_keys_of_ascending hx)
      (show (entry.1, entry.2) ∈ xs from hm)
    exact mem_of_lookup_eq_some ((same entry.1).symm.trans hl)
  · intro hm
    have hl := lookup_eq_some_of_mem (nodup_keys_of_ascending hy)
      (show (entry.1, entry.2) ∈ ys from hm)
    exact mem_of_lookup_eq_some ((same entry.1).trans hl)

end

end TreeQuery
