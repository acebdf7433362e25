/-
Bounded caches of things worked out from inputs. What was worked out for an input is held
under the input's key and given out again for any input of that key; as long as no two
inputs share a key, a cache gives exactly what working out anew would give (`fetch_fst`).

A cache that is full is emptied before it takes in anything more, so it never holds more
than its capacity; an input that cannot be worked out is not taken in, though the room for
it has been made by then.
-/
import TreeQuery.Association

namespace TreeQuery

/-- How many entries a cache has room for. -/
def cacheCapacity : Nat := 256

/-- What has been worked out so far. -/
structure Cache {ι κ ν ε : Type} (key : ι → κ) (build : ι → Except ε ν) where
  entries : List (κ × ν)
  sound : ∀ entry ∈ entries, ∃ input, key input = entry.1 ∧ build input = .ok entry.2
  bounded : entries.length ≤ cacheCapacity

namespace Cache

variable {ι κ ν ε : Type} {key : ι → κ} {build : ι → Except ε ν}

/-- A cache that holds nothing. -/
def empty : Cache key build := ⟨[], by simp, by simp⟩

/-- How many entries the cache holds. -/
def size (cache : Cache key build) : Nat := cache.entries.length

/-- The cache with room for one more entry. -/
def makeRoom (cache : Cache key build) : Cache key build :=
  if cache.size < cacheCapacity then cache else empty

theorem size_makeRoom_lt (cache : Cache key build) : cache.makeRoom.size < cacheCapacity := by
  unfold makeRoom
  split
  · assumption
  · simp [size, empty, cacheCapacity]

/-- Takes in what was worked out for an input. -/
def hold (cache : Cache key build) (input : ι) (value : ν) (h : build input = .ok value)
    (room : cache.size < cacheCapacity) : Cache key build where
  entries := (key input, value) :: cache.entries
  sound := by
    intro entry he
    rcases List.mem_cons.1 he with rfl | he
    · exact ⟨input, rfl, h⟩
    · exact cache.sound entry he
  bounded := room

variable [BEq κ]

/-- What is held under a key. -/
def get? (cache : Cache key build) (k : κ) : Option ν := cache.entries.lookup k

/-- What belongs to an input: held already, or worked out and then held. -/
def fetch (cache : Cache key build) (input : ι) : Except ε ν × Cache key build :=
  match cache.get? (key input) with
  | some value => (.ok value, cache)
  | none =>
    match h : build input with
    | .ok value => (.ok value, cache.makeRoom.hold input value h cache.size_makeRoom_lt)
    | .error e => (.error e, cache.makeRoom)

/-- A cache gives what working out anew would give. -/
theorem fetch_fst [LawfulBEq κ] (injective : ∀ a b, key a = key b → a = b)
    (cache : Cache key build) (input : ι) : (cache.fetch input).1 = build input := by
  unfold fetch
  split
  · rename_i value h
    obtain ⟨other, hk, hb⟩ := cache.sound _ (mem_of_lookup_eq_some h)
    rw [injective _ _ hk] at hb
    exact hb.symm
  · split <;> simp_all

end Cache

end TreeQuery
