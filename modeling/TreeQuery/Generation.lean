/-
Generations: the stamps by which derived values are known to be out of date. A text has a
generation that each change moves on; a value worked out from the text is kept in a slot
under the generation it was worked out at and is given out again for that generation only.

Generations are 64-bit counters, so two points of a history with fewer than 2^64 changes
have the same stamp only if nothing changed in between.
-/

namespace TreeQuery

/-- A stamp of a text's state. -/
abbrev Generation := UInt64

/-- The generation after one more change. -/
def Generation.next (generation : Generation) : Generation := generation + 1

/-- The next generation is one more, short of the last. -/
theorem Generation.toNat_next {generation : Generation}
    (h : generation.toNat + 1 < UInt64.size) : generation.next.toNat = generation.toNat + 1 := by
  show (generation + 1).toNat = _
  rw [UInt64.toNat_add]
  exact Nat.mod_eq_of_lt h

/-- A change never leaves the generation as it was. -/
theorem Generation.next_ne (generation : Generation) : generation.next ≠ generation := by
  intro h
  have h : generation + 1 = generation := h
  simp at h

/-- Room for one value worked out at one generation. -/
structure Slot (α : Type) where
  held : Option (Generation × α) := none
deriving DecidableEq, Repr

namespace Slot

variable {α ε : Type}

/-- The value held, if it was worked out at `generation`. -/
def get? (slot : Slot α) (generation : Generation) : Option α :=
  match slot.held with
  | some (stamp, value) => if stamp = generation then some value else none
  | none => none

/-- Whether a value worked out at `generation` is held. -/
def isFresh (slot : Slot α) (generation : Generation) : Bool := (slot.get? generation).isSome

/-- Holds a value worked out at `generation`. -/
def put (generation : Generation) (value : α) : Slot α := ⟨some (generation, value)⟩

/-- The value for `generation`: the one held if it is fresh, else one worked out anew, which
is then held in its place. A failure is not held. -/
def fetch (slot : Slot α) (generation : Generation) (build : Unit → Except ε α) :
    Except ε α × Slot α :=
  match slot.get? generation with
  | some value => (.ok value, slot)
  | none =>
    match build () with
    | .ok value => (.ok value, put generation value)
    | .error e => (.error e, slot)

/-- Drops what is held. -/
def clear : Slot α := {}

end Slot

end TreeQuery
