/-
What bindings capture can be cut out of an occurrence.

A group is recorded when its body has matched, from where it began to where it ended. So whatever
a match has recorded lies within the match, the start no later than the stop
(`Regex.Matches.within`), by recursion on the pattern. Places lie between characters, and the bytes
up to a place are those of whole characters; hence the spans of the captures, counted from the
start of the match or from that of the text, are ranges of what the match or the text holds, and
cut no character. `Occurrence.Sliceable` says so of one occurrence. It holds of all that a scan
finds (`sliceable_of_mem_scan`) and of what an update leaves in place of an occurrence
(`sliceable_written`).
-/
import TreeQuery.Cache
import TreeQuery.Proofs.Microgrammar.Locate

namespace TreeQuery

open Text (Span)

namespace Regex

variable {text : Array Char} {regex : Regex} {start middle stop : Nat} {captures more : Captures}

-- ================================================================ groups

/-- What is recorded lies between two places, and no group stops before it starts. -/
def Captures.Within (captures : Captures) (start stop : Nat) : Prop :=
  ∀ capture ∈ captures, start ≤ capture.2.1 ∧ capture.2.1 ≤ capture.2.2 ∧ capture.2.2 ≤ stop

theorem Captures.within_nil : Captures.Within [] start stop := by
  intro capture hc
  cases hc

/-- One stretch after the other. -/
theorem Captures.Within.append (h : captures.Within start middle) (h' : more.Within middle stop)
    (hle : start ≤ middle) (hle' : middle ≤ stop) :
    Captures.Within (more ++ captures) start stop := by
  intro capture hc
  rcases List.mem_append.1 hc with hc | hc
  · have := h' capture hc
    omega
  · have := h capture hc
    omega

theorem Rounds.within {round : Nat → Nat → Captures → Prop} {size n : Nat}
    (hbounds : ∀ start stop captures, round start stop captures →
      start ≤ stop ∧ stop ≤ max start size)
    (hround : ∀ start stop captures, round start stop captures → captures.Within start stop)
    (h : Rounds round start n stop captures) : captures.Within start stop := by
  induction h with
  | zero => exact Captures.within_nil
  | succ hrest hone ih =>
      exact ih.append (hround _ _ _ hone) (hrest.bounds hbounds).1 (hbounds _ _ _ hone).1

/-- A match records nothing outside itself. -/
theorem Matches.within (h : Matches text regex start stop captures) :
    captures.Within start stop := by
  induction regex generalizing start stop captures with
  | empty =>
      obtain ⟨-, rfl⟩ := h
      exact Captures.within_nil
  | one set =>
      obtain ⟨-, -, rfl⟩ := h
      exact Captures.within_nil
  | assertion kind =>
      obtain ⟨-, -, rfl⟩ := h
      exact Captures.within_nil
  | seq first second ih ih' =>
      obtain ⟨middle, _, _, hfirst, hsecond, rfl⟩ := h
      exact (ih hfirst).append (ih' hsecond) hfirst.bounds.1 hsecond.bounds.1
  | alt first second ih ih' => exact h.elim ih ih'
  | many body least most greedy ih =>
      obtain ⟨n, -, -, hrounds⟩ := h
      exact hrounds.within (fun _ _ _ => Matches.bounds) fun _ _ _ => ih
  | capture name body ih =>
      obtain ⟨inner, hbody, rfl⟩ := h
      intro capture hc
      rcases List.mem_cons.1 hc with rfl | hc
      · exact ⟨Nat.le_refl _, hbody.bounds.1, Nat.le_refl _⟩
      · exact ih hbody capture hc

/-- A group lies in its match. -/
theorem Match.group?_within {m : Match} {name : String} {place place' : Nat}
    (h : Matches text regex m.start m.stop m.captures)
    (hgroup : m.group? name = some (place, place')) :
    m.start ≤ place ∧ place ≤ place' ∧ place' ≤ m.stop :=
  h.within _ (mem_of_lookup_eq_some hgroup)

end Regex

-- ========================================================== occurrences

/-- What the occurrence captures are ranges of its text that cut no character. -/
def Occurrence.Sliceable (occurrence : Occurrence) : Prop :=
  ∀ capture ∈ occurrence.captures, (Text.slice? occurrence.text capture.2).isSome = true

namespace Microgrammar

variable {grammar : Microgrammar} {text : Array Char} {base place place' stop : Nat}

theorem drop_eq_append (xs : List Char) (h : place ≤ place') :
    xs.drop place = (xs.take place').drop place ++ xs.drop place' := by
  have hrest : xs.drop place' = (xs.drop place).drop (place' - place) := by
    rw [List.drop_drop, Nat.add_sub_cancel' h]
  rw [List.drop_take, hrest, List.take_append_drop]

theorem drop_take_eq_append (xs : List Char) (h : place ≤ place') (hle : place' ≤ stop) :
    (xs.take stop).drop place = (xs.take place').drop place ++ (xs.take stop).drop place' := by
  have h := drop_eq_append (xs.take stop) h
  rwa [List.take_take, Nat.min_eq_left hle] at h

/-- Between two places of a text, counted in bytes from an earlier one, stand whole characters. -/
theorem slice?_bytesBetween (h : base ≤ place) (hle : place ≤ place') (hstop : place' ≤ stop) :
    (Text.slice? (String.ofList ((text.toList.take stop).drop base))
      ⟨bytesBetween text base place, bytesBetween text base place'⟩).isSome = true := by
  have hbefore := drop_take_eq_append text.toList h (Nat.le_trans hle hstop)
  have hmiddle := drop_take_eq_append text.toList hle hstop
  have hcut : Text.cut? (String.ofList ((text.toList.take stop).drop base)).toList
      ⟨bytesBetween text base place, bytesBetween text base place'⟩ =
        some ((text.toList.take place).drop base, (text.toList.take place').drop place,
          (text.toList.take stop).drop place') := by
    refine Text.cut?_eq_some_iff.2 ⟨?_, rfl, ?_⟩
    · rw [String.toList_ofList, hbefore, hmiddle, List.append_assoc]
    · rw [← Text.byteLength_append, ← drop_take_eq_append text.toList h hle]
      rfl
  unfold Text.slice?
  rw [hcut]
  rfl

/-- The spans of what a match captures are ranges of the text from a place before it to one
behind it. -/
theorem slice?_of_mem_capturesOf {regex : Regex} {m : Regex.Match}
    (h : Regex.Matches text regex m.start m.stop m.captures) (hbase : base ≤ m.start)
    (hstop : m.stop ≤ stop) :
    ∀ capture ∈ capturesOf grammar text base m,
      (Text.slice? (String.ofList ((text.toList.take stop).drop base)) capture.2).isSome =
        true := by
  intro capture hc
  obtain ⟨binding, -, hgroup⟩ := List.mem_filterMap.1 hc
  obtain ⟨⟨place, place'⟩, hplaces, rfl⟩ := Option.map_eq_some_iff.1 hgroup
  obtain ⟨hstart, hle, hend⟩ := Regex.Match.group?_within h hplaces
  exact slice?_bytesBetween (Nat.le_trans hbase hstart) hle (Nat.le_trans hend hstop)

/-- What a scan finds captures ranges of its text. -/
theorem sliceable_of_mem_scan {source : String} {found : Occurrence}
    (h : found ∈ grammar.scan source) : found.Sliceable := by
  obtain ⟨m, hm, rfl⟩ := List.mem_map.1 h
  exact slice?_of_mem_capturesOf (Regex.matches_of_mem_findAll hm) (Nat.le_refl _)
    (Nat.le_refl _)

/-- So does what is written in place of an occurrence. -/
theorem sliceable_written (grammar : Microgrammar) (start : Nat) (source : String) :
    (grammar.written start source).Sliceable := by
  intro capture hc
  have hc : capture ∈ (grammar.parseExact source).getD [] := hc
  cases hexact : grammar.parseExact source with
  | none =>
      rw [hexact] at hc
      cases hc
  | some captures =>
      rw [hexact] at hc
      obtain ⟨m, hm, rfl⟩ := Option.map_eq_some_iff.1 hexact
      obtain ⟨-, hmatches⟩ := Regex.matches_of_findAmong? hm
      -- the whole text is what stands before a place behind the match and behind its end
      have hwhole : source.toList.toArray.toList.take (max m.stop source.toList.length) =
          source.toList := by
        rw [List.toList_toArray]
        exact List.take_of_length_le (Nat.le_max_right _ _)
      have hslice := slice?_of_mem_capturesOf hmatches (Nat.zero_le _)
        (Nat.le_max_left m.stop source.toList.length) capture hc
      rw [hwhole, List.drop_zero, String.ofList_toList] at hslice
      exact hslice

end Microgrammar

end TreeQuery
