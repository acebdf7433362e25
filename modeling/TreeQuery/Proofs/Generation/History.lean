/-
Histories of a slot: which build a value comes from that is given out.

# Watched builds

`Slot.fetch` is told what a build gives, so that nobody sees whether the build runs. `Slot.fetchM`
takes a build that does something as well, and is the same otherwise (`fetchM_pure`). Here a build
leaves a note when it runs. A `Trace` is a generation and a slot with all such notes, those of
changes and of what has been dropped among them, the latest first.

# One call

What decides whether something is held, and what, is the latest of the builds that have succeeded
and the times that the slot has been cleared (`latest?`). A call adds at most one note, and keeps
the slot in step with that one (`InStep.step`): a request that is served from the slot adds none,
and a build that fails adds one that decides nothing.

# The run

So after any run a slot is fresh for the generation that the latest build was for, and gives out
what that build has given (`served_of_calls`). The generation counts the changes, as long as there
are fewer of them than generations; so a value built for the generation of its time is not given
out for the generation of a later one.
-/
import Mathlib.Data.List.Induction
import TreeQuery.Generation

namespace TreeQuery.Slot

variable {α ε : Type} {m : Type → Type}

-- ====================================================== watched builds

/-- The value for `generation`, where working it out may do something else as well. -/
def fetchM [Monad m] (slot : Slot α) (generation : Generation) (build : m (Except ε α)) :
    m (Except ε α × Slot α) :=
  match slot.get? generation with
  | some value => pure (.ok value, slot)
  | none => do
    match ← build with
    | .ok value => return (.ok value, put generation value)
    | .error e => return (.error e, slot)

/-- A build that does nothing else is one that `fetch` takes. -/
theorem fetchM_pure [Monad m] [LawfulMonad m] (slot : Slot α) (generation : Generation)
    (build : Unit → Except ε α) :
    (slot.fetchM generation (pure (build ())) : m (Except ε α × Slot α)) =
      pure (slot.fetch generation build) := by
  unfold fetchM fetch
  cases slot.get? generation with
  | some value => rfl
  | none =>
      simp only [pure_bind]
      cases build () with
      | ok value => rfl
      | error e => rfl

theorem isFresh_iff {slot : Slot α} {generation : Generation} :
    slot.isFresh generation = true ↔ ∃ value, slot.held = some (generation, value) := by
  unfold isFresh get?
  cases slot.held with
  | none => simp
  | some entry =>
      obtain ⟨stamp, value⟩ := entry
      simp only [Option.some.injEq, Prod.mk.injEq, exists_and_left, exists_eq', and_true]
      by_cases hs : stamp = generation
      · rw [if_pos hs]
        exact iff_of_true rfl hs
      · rw [if_neg hs]
        exact iff_of_false Bool.false_ne_true hs

-- ============================================================ histories

/-- Something that has happened. -/
inductive Event (ε α : Type) where
  /-- The generation has moved on. -/
  | bumped
  /-- The slot has been cleared. -/
  | dropped
  /-- A build has run for a generation. -/
  | built (generation : Generation) (result : Except ε α)

namespace Event

/-- Whether it is a change of the generation. -/
def isBump : Event ε α → Bool
  | .bumped => true
  | _ => false

/-- Whether it decides what the slot holds from then on. -/
def settles : Event ε α → Bool
  | .bumped => false
  | .dropped => true
  | .built _ (.ok _) => true
  | .built _ (.error _) => false

end Event

/-- The latest of the builds that have succeeded and the times that the slot has been cleared. -/
def latest? (history : List (Event ε α)) : Option (Event ε α) := history.find? Event.settles

/-- A generation and a slot, with what has happened to them, the latest first. -/
structure Trace (ε α : Type) where
  generation : Generation := 0
  slot : Slot α := {}
  history : List (Event ε α) := []

/-- Something that is done with a generation and a slot. A request is for the present generation if
it names no other, and says what the build gives if it runs. -/
inductive Call (ε α : Type) where
  | bump
  | invalidate
  /-- Asks for a value that can be worked out in any case. -/
  | get (generation : Option Generation) (value : α)
  | tryGet (generation : Option Generation) (result : Except ε α)

/-- Whether it is a change of the generation. -/
def Call.isBump : Call ε α → Bool
  | .bump => true
  | _ => false

namespace Trace

/-- A build that leaves a note when it runs. -/
def watched (generation : Generation) (result : Except ε α) :
    StateM (List (Event ε α)) (Except ε α) := do
  modify (.built generation result :: ·)
  return result

/-- Asks for the value for a generation, with a build that gives `result` if it runs. -/
def request (trace : Trace ε α) (generation : Generation) (result : Except ε α) :
    Except ε α × Trace ε α :=
  let ((answer, slot), history) :=
    (trace.slot.fetchM generation (watched generation result)).run trace.history
  (answer, { trace with slot, history })

/-- What a call leaves behind. -/
def step (trace : Trace ε α) : Call ε α → Trace ε α
  | .bump =>
    { trace with generation := trace.generation.next, history := .bumped :: trace.history }
  | .invalidate => { trace with slot := .clear, history := .dropped :: trace.history }
  | .get generation value =>
    (trace.request (generation.getD trace.generation) (.ok value)).2
  | .tryGet generation result =>
    (trace.request (generation.getD trace.generation) result).2

/-- What a run of calls leaves behind, on a new generation and an empty slot. -/
def after (calls : List (Call ε α)) : Trace ε α := calls.foldl step {}

theorem after_concat (calls : List (Call ε α)) (call : Call ε α) :
    after (calls ++ [call]) = (after calls).step call := List.foldl_append

-- ============================================================= requests

variable {trace : Trace ε α} {generation : Generation} {result : Except ε α}

/-- A request that the slot is fresh for is served from it, and no build runs. -/
theorem request_of_held {value : α} (h : trace.slot.held = some (generation, value)) :
    trace.request generation result = (.ok value, trace) := by
  have hget : trace.slot.get? generation = some value := by
    unfold get?
    rw [h]
    exact if_pos rfl
  unfold request fetchM
  rw [hget]
  rfl

/-- Any other is answered by the build, and the slot holds what that gives unless it fails. -/
theorem request_of_not_fresh (h : trace.slot.isFresh generation = false) :
    trace.request generation result = (result, { trace with
      slot := match result with
        | .ok value => .put generation value
        | .error _ => trace.slot
      history := .built generation result :: trace.history }) := by
  have hget : trace.slot.get? generation = none :=
    Option.isNone_iff_eq_none.1 (Option.isSome_eq_false_iff.1 h)
  unfold request fetchM
  rw [hget]
  cases result with
  | ok value => rfl
  | error e => rfl

/-- Watching a build changes neither the answer nor the slot. -/
theorem request_eq_fetch (trace : Trace ε α) (generation : Generation) (result : Except ε α) :
    ((trace.request generation result).1, (trace.request generation result).2.slot) =
      trace.slot.fetch generation fun _ => result := by
  unfold request fetchM fetch
  cases trace.slot.get? generation with
  | some value => rfl
  | none =>
      cases result with
      | ok value => rfl
      | error e => rfl

/-- A build runs if and only if the slot is not fresh for the generation asked for. -/
theorem history_request (trace : Trace ε α) (generation : Generation) (result : Except ε α) :
    (trace.request generation result).2.history =
      if trace.slot.isFresh generation then trace.history
      else .built generation result :: trace.history := by
  cases hf : trace.slot.isFresh generation with
  | true =>
      obtain ⟨value, hheld⟩ := isFresh_iff.1 hf
      rw [request_of_held hheld]
      rfl
  | false =>
      rw [request_of_not_fresh hf]
      rfl

/-- A request that fails is one whose build does, and leaves the slot as it was. -/
theorem request_of_error {e : ε} (h : (trace.request generation result).1 = .error e) :
    result = .error e ∧ (trace.request generation result).2.slot = trace.slot := by
  cases hf : trace.slot.isFresh generation with
  | true =>
      obtain ⟨value, hheld⟩ := isFresh_iff.1 hf
      rw [request_of_held hheld] at h
      cases h
  | false =>
      rw [request_of_not_fresh hf] at h ⊢
      obtain rfl : result = .error e := h
      exact ⟨rfl, rfl⟩

-- ============================================================ invariant

/-- The slot holds what the latest build has given, if it has not been cleared since. -/
def InStep (trace : Trace ε α) : Prop :=
  ∀ generation value, trace.slot.held = some (generation, value) ↔
    latest? trace.history = some (.built generation (.ok value))

theorem InStep.request (h : trace.InStep) (generation : Generation) (result : Except ε α) :
    (trace.request generation result).2.InStep := by
  cases hf : trace.slot.isFresh generation with
  | true =>
      obtain ⟨value, hheld⟩ := isFresh_iff.1 hf
      rw [request_of_held hheld]
      exact h
  | false =>
      rw [request_of_not_fresh hf]
      cases result with
      | ok value =>
          intro stamp other
          show some (generation, value) = some (stamp, other) ↔
            some (Event.built generation (.ok value)) = some (.built stamp (.ok other))
          simp
      | error e => exact h

/-- Every call keeps the slot in step. -/
theorem InStep.step (h : trace.InStep) (call : Call ε α) : (trace.step call).InStep := by
  cases call with
  | bump => exact h
  | invalidate =>
      intro stamp value
      show none = some (stamp, value) ↔ some Event.dropped = some (.built stamp (.ok value))
      simp
  | get generation value => exact h.request _ _
  | tryGet generation result => exact h.request _ _

theorem inStep_after (calls : List (Call ε α)) : (after calls).InStep := by
  induction calls using List.reverseRecOn with
  | nil =>
      intro stamp value
      show none = some (stamp, value) ↔ none = some (Event.built stamp (.ok value))
      simp
  | append_singleton calls call ih =>
      rw [after_concat]
      exact ih.step call

/-- What is answered is what the latest build has given, and that was one for the generation asked
for. -/
theorem InStep.latest?_of_ok (h : trace.InStep) {value : α}
    (hok : (trace.request generation result).1 = .ok value) :
    latest? (trace.request generation result).2.history =
      some (.built generation (.ok value)) := by
  refine (h.request generation result generation value).1 ?_
  cases hf : trace.slot.isFresh generation with
  | true =>
      obtain ⟨other, hheld⟩ := isFresh_iff.1 hf
      rw [request_of_held hheld] at hok ⊢
      rw [hheld, Except.ok.inj hok]
  | false =>
      rw [request_of_not_fresh hf] at hok ⊢
      obtain rfl : result = .ok value := hok
      rfl

-- =============================================================== counts

theorem countP_request (trace : Trace ε α) (generation : Generation) (result : Except ε α) :
    (trace.request generation result).2.history.countP Event.isBump =
      trace.history.countP Event.isBump := by
  rw [history_request]
  split
  · rfl
  · exact List.countP_cons_of_neg Bool.false_ne_true

/-- A call counts once in the history if it changes the generation, and else not at all. -/
theorem countP_step (trace : Trace ε α) (call : Call ε α) :
    (trace.step call).history.countP Event.isBump =
      trace.history.countP Event.isBump + if call.isBump then 1 else 0 := by
  cases call with
  | bump => exact List.countP_cons_of_pos rfl
  | invalidate => exact List.countP_cons_of_neg Bool.false_ne_true
  | get generation value => exact countP_request _ _ _
  | tryGet generation result => exact countP_request _ _ _

/-- The generation counts the changes. -/
theorem toNat_generation_after (calls : List (Call ε α))
    (few : calls.countP Call.isBump < UInt64.size) :
    (after calls).generation.toNat = calls.countP Call.isBump ∧
      (after calls).history.countP Event.isBump = calls.countP Call.isBump := by
  induction calls using List.reverseRecOn with
  | nil => exact ⟨rfl, rfl⟩
  | append_singleton calls call ih =>
      rw [List.countP_append, List.countP_singleton] at few ⊢
      obtain ⟨hgeneration, hhistory⟩ := ih (by omega)
      rw [after_concat, countP_step, hhistory]
      refine ⟨?_, rfl⟩
      cases call with
      | bump =>
          show (after calls).generation.next.toNat = calls.countP Call.isBump + 1
          have few : calls.countP Call.isBump + 1 < UInt64.size := few
          rw [Generation.toNat_next (by rw [hgeneration]; exact few), hgeneration]
      | invalidate => exact hgeneration
      | get generation value => exact hgeneration
      | tryGet generation result => exact hgeneration

/-- After any run of calls the slot is fresh for a generation exactly if the latest of the builds
that have succeeded and the times that it has been cleared is a build for that generation. A request
runs its build if and only if the slot is not fresh for what it asks for. If it succeeds, the answer
is what the latest build has given, for the generation asked for; if it fails, so did its build, and
the slot is as it was. And the generation counts the changes, so there has been none since a build
for the present generation, if that was the present one when it ran. -/
theorem served_of_calls (calls : List (Call ε α))
    (few : calls.countP Call.isBump < UInt64.size) :
    let trace := after calls
    trace.generation.toNat = calls.countP Call.isBump ∧
    (∀ generation, trace.slot.isFresh generation = true ↔
      ∃ value, latest? trace.history = some (.built generation (.ok value))) ∧
    (∀ generation result,
      let (answer, later) := trace.request generation result
      (answer, later.slot) = (trace.slot.fetch generation fun _ => result) ∧
      later.generation = trace.generation ∧
      (later.history = if trace.slot.isFresh generation then trace.history
        else .built generation result :: trace.history) ∧
      (∀ value, answer = .ok value →
        latest? later.history = some (.built generation (.ok value))) ∧
      ∀ e, answer = .error e → result = .error e ∧ later.slot = trace.slot) ∧
    ∀ since before result, trace.history = since ++ .built trace.generation result :: before →
      before.countP Event.isBump = trace.generation.toNat →
      ∀ event ∈ since, event.isBump = false := by
  intro trace
  have hstep : trace.InStep := inStep_after calls
  obtain ⟨hgeneration, hhistory⟩ := toNat_generation_after calls few
  refine ⟨hgeneration, fun generation => ?_, fun generation result => ?_, ?_⟩
  · rw [isFresh_iff]
    exact exists_congr fun value => hstep generation value
  · exact ⟨request_eq_fetch trace generation result, rfl, history_request trace generation result,
      fun value hok => hstep.latest?_of_ok hok, fun e he => request_of_error he⟩
  · intro since before result hsplit hthen event hevent
    -- all changes up to now are those before the build
    have hall : trace.history.countP Event.isBump = trace.generation.toNat :=
      hhistory.trans hgeneration.symm
    rw [hsplit, List.countP_append, List.countP_cons_of_neg Bool.false_ne_true, hthen] at hall
    have hnone : since.countP Event.isBump = 0 := by omega
    exact Bool.eq_false_iff.2 (List.countP_eq_zero.1 hnone event hevent)

/-- The case of a value built, a change and a build that fails: for the generation it was built for,
the value is given out still. -/
theorem served_of_calls_failed :
    let calls : List (Call String String) :=
      [.get none "a", .bump, .tryGet none (.error "gone")]
    calls.countP Call.isBump < UInt64.size ∧
      (after calls).slot.isFresh 0 = true ∧ (after calls).slot.isFresh 1 = false ∧
      ((after calls).request 0 (.ok "b")).1 = .ok "a" ∧
      latest? ((after calls).request 0 (.ok "b")).2.history = some (.built 0 (.ok "a")) := by
  intro calls
  have few : calls.countP Call.isBump < UInt64.size := by decide
  obtain ⟨-, hfresh, hserved, -⟩ := served_of_calls calls few
  obtain ⟨-, -, -, hlatest, -⟩ := hserved 0 (.ok "b")
  exact ⟨few, (hfresh 0).2 ⟨"a", rfl⟩, rfl, rfl, hlatest "a" rfl⟩

end Trace

end TreeQuery.Slot
