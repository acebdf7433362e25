/-
Histories of caches: how a run of requests is answered, and what it leaves held.

# One request

A request is served from what is held under its key, and then nothing changes; otherwise its input
is worked out in a cache that has been emptied if it was full, and held if it could be worked out
(`fetch_of_held`, `fetch_of_ok`, `fetch_of_error`). That what is held is right and not too much is
part of a cache. That no key is held twice is not: a request adds a key only where it is missing
(`nodup_keys_fetch`), so the size of a cache counts its keys.

# The run

A thread has two caches, one for programs and one for patterns, which all engines of the thread
use (`Caches`). A run of requests and clearings is answered as if there were no caches at all
(`run_fst`), by induction over the run with the caches general. What it leaves behind is told by
the last request alone, so the rest of `transparent_of_calls` is about the caches at its end.

An expression that is refused is never held. It finds a cache with room as it leaves it, but a full
one has been emptied by then (`refused_of_calls`).
-/
import Mathlib.Data.List.Induction
import Mathlib.Data.List.Nodup
import TreeQuery.Expression.Parser
import TreeQuery.Proofs.Expression.Naming
import TreeQuery.Tree.Pattern

namespace TreeQuery

namespace Cache

variable {ι κ ν ε : Type} {key : ι → κ} {build : ι → Except ε ν}
variable {cache : Cache key build} {input : ι} {value : ν}

/-- The keys under which something is held. -/
def keys (cache : Cache key build) : List κ := cache.entries.map Prod.fst

-- ========================================================== one request

/-- A cache with room is left as it is, a full one is emptied. -/
theorem entries_makeRoom (cache : Cache key build) :
    cache.makeRoom.entries = if cache.size < cacheCapacity then cache.entries else [] := by
  unfold makeRoom
  split <;> rfl

theorem keys_makeRoom_sublist (cache : Cache key build) :
    cache.makeRoom.keys.Sublist cache.keys := by
  unfold keys
  rw [entries_makeRoom]
  split
  · exact .refl _
  · exact List.nil_sublist _

variable [BEq κ]

/-- What is held is given out, and nothing changes. -/
theorem fetch_of_held (h : cache.get? (key input) = some value) :
    cache.fetch input = (.ok value, cache) := by
  unfold fetch
  rw [h]

theorem fetch_of_ok (missing : cache.get? (key input) = none) (h : build input = .ok value) :
    cache.fetch input =
      (.ok value, cache.makeRoom.hold input value h cache.size_makeRoom_lt) := by
  unfold fetch
  rw [missing]
  dsimp only
  split
  · rename_i other hother
    obtain rfl := Except.ok.inj (h.symm.trans hother)
    rfl
  · rename_i hother
    cases h.symm.trans hother

theorem fetch_of_error {e : ε} (missing : cache.get? (key input) = none)
    (h : build input = .error e) : cache.fetch input = (.error e, cache.makeRoom) := by
  unfold fetch
  rw [missing]
  dsimp only
  split
  · rename_i hother
    cases h.symm.trans hother
  · rename_i other hother
    obtain rfl := Except.error.inj (h.symm.trans hother)
    rfl

variable [LawfulBEq κ]

theorem get?_eq_none_iff {k : κ} : cache.get? k = none ↔ k ∉ cache.keys := by
  unfold get? keys
  rw [List.lookup_eq_none_iff, List.mem_map]
  constructor
  · rintro h ⟨entry, he, rfl⟩
    simpa using h entry he
  · intro h entry he
    exact bne_iff_ne.2 fun hk => h ⟨entry, he, hk.symm⟩

/-- Nothing is held for an input that cannot be worked out, as long as keys tell inputs apart. -/
theorem get?_of_error {e : ε} (injective : ∀ a b, key a = key b → a = b)
    (cache : Cache key build) (h : build input = .error e) : cache.get? (key input) = none := by
  cases hget : cache.get? (key input) with
  | none => rfl
  | some value =>
      have hfst := cache.fetch_fst injective input
      rw [fetch_of_held hget, h] at hfst
      cases hfst

/-- What could be worked out is held from then on. -/
theorem get?_fetch (injective : ∀ a b, key a = key b → a = b) (cache : Cache key build)
    (h : build input = .ok value) : (cache.fetch input).2.get? (key input) = some value := by
  cases hget : cache.get? (key input) with
  | none =>
      rw [fetch_of_ok hget h]
      exact List.lookup_cons_self
  | some other =>
      have hfst := cache.fetch_fst injective input
      rw [fetch_of_held hget] at hfst ⊢
      rw [h] at hfst
      exact hget.trans (congrArg some (Except.ok.inj hfst))

/-- No key is held twice. -/
theorem nodup_keys_fetch (distinct : cache.keys.Nodup) (input : ι) :
    (cache.fetch input).2.keys.Nodup := by
  cases hget : cache.get? (key input) with
  | some value =>
      rw [fetch_of_held hget]
      exact distinct
  | none =>
      have hroom := cache.keys_makeRoom_sublist
      cases h : build input with
      | ok value =>
          rw [fetch_of_ok hget h]
          exact List.nodup_cons.2
            ⟨fun hmem => get?_eq_none_iff.1 hget (hroom.subset hmem), distinct.sublist hroom⟩
      | error e =>
          rw [fetch_of_error hget h]
          exact distinct.sublist hroom

-- ======================================================= many requests

/-- What different inputs leave held, as long as there is room for all of them. -/
theorem keys_foldl_fetch {inputs : List ι} (distinct : (inputs.map key).Nodup)
    (built : ∀ input ∈ inputs, ∃ value, build input = .ok value)
    (room : inputs.length ≤ cacheCapacity) :
    (inputs.foldl (fun cache input => (cache.fetch input).2) (empty : Cache key build)).keys =
      (inputs.map key).reverse := by
  induction inputs using List.reverseRecOn with
  | nil => rfl
  | append_singleton inputs input ih =>
      rw [List.map_append, List.map_singleton, List.nodup_append] at distinct
      obtain ⟨before, -, apart⟩ := distinct
      rw [List.length_append, List.length_singleton] at room
      have hkeys := ih before (fun other ho => built other (List.mem_append_left _ ho)) (by omega)
      obtain ⟨value, hvalue⟩ := built input (List.mem_append_right _ (List.mem_singleton.2 rfl))
      rw [List.foldl_append, List.foldl_cons, List.foldl_nil, List.map_append, List.reverse_append]
      generalize inputs.foldl (fun cache input => (cache.fetch input).2) (empty : Cache key build) =
        cache at hkeys ⊢
      have missing : cache.get? (key input) = none := by
        rw [get?_eq_none_iff, hkeys, List.mem_reverse]
        exact fun hmem => apart _ hmem _ (List.mem_singleton.2 rfl) rfl
      have hsize : cache.size < cacheCapacity := by
        have hlength := congrArg List.length hkeys
        simp only [keys, List.length_map, List.length_reverse] at hlength
        unfold size
        omega
      rw [fetch_of_ok missing hvalue, ← hkeys]
      show key input :: cache.makeRoom.keys = key input :: cache.keys
      unfold keys
      rw [entries_makeRoom, if_pos hsize]

end Cache

-- =================================================== caches of a thread

open Expression (compile Program SyntaxError)

variable {Λ ρ : Type} {word : Λ → String} {reader : Λ → String → ρ}

/-- The caches of a thread. Patterns are in any languages that have words; `reader` is what a
parser outside the library makes of them. -/
structure Caches (word : Λ → String) (reader : Λ → String → ρ) where
  programs : Expression.ProgramCache := .empty
  patterns : Cache (fun pattern : Λ × String => StructuralPattern.keyOf (word pattern.1) pattern.2)
    (fun pattern => (.ok (reader pattern.1 pattern.2) : Except Empty ρ)) := .empty

namespace Caches

/-- Something that is done with the caches. -/
inductive Call (Λ : Type) where
  | clear
  | program (expression : String)
  | pattern (language : Λ) (text : String)

/-- What is given back. -/
inductive Answer (ρ : Type) where
  | cleared
  | program (result : Except SyntaxError Program)
  | pattern (result : Except Empty ρ)

/-- What would be given back without any caches. -/
def Call.uncached (reader : Λ → String → ρ) : Call Λ → Answer ρ
  | .clear => .cleared
  | .program expression => .program (compile expression)
  | .pattern language text => .pattern (.ok (reader language text))

/-- One call: what it gives back and leaves behind. -/
def step (caches : Caches word reader) : Call Λ → Answer ρ × Caches word reader
  | .clear => (.cleared, {})
  | .program expression =>
    let (result, programs) := caches.programs.fetch expression
    (.program result, { caches with programs })
  | .pattern language text =>
    let (result, patterns) := caches.patterns.fetch (language, text)
    (.pattern result, { caches with patterns })

/-- A run of calls: what each gives back, and what the last one leaves behind. -/
def run (caches : Caches word reader) : List (Call Λ) → List (Answer ρ) × Caches word reader
  | [] => ([], caches)
  | call :: calls =>
    let (answer, next) := caches.step call
    let (answers, last) := next.run calls
    (answer :: answers, last)

/-- Neither cache holds a key twice. -/
structure Distinct (caches : Caches word reader) : Prop where
  programs : caches.programs.keys.Nodup
  patterns : caches.patterns.keys.Nodup

variable {caches : Caches word reader}

theorem distinct_new : ({} : Caches word reader).Distinct := ⟨.nil, .nil⟩

theorem Distinct.step (h : caches.Distinct) (call : Call Λ) : (caches.step call).2.Distinct := by
  cases call with
  | clear => exact distinct_new
  | program expression => exact ⟨Cache.nodup_keys_fetch h.programs expression, h.patterns⟩
  | pattern language text => exact ⟨h.programs, Cache.nodup_keys_fetch h.patterns (language, text)⟩

theorem Distinct.run (h : caches.Distinct) (calls : List (Call Λ)) :
    (caches.run calls).2.Distinct := by
  induction calls generalizing caches with
  | nil => exact h
  | cons call calls ih => exact ih (h.step call)

/-- Keys of patterns tell them apart if the words of the languages do. -/
theorem patternKey_injective (plain : ∀ language, ':' ∉ (word language).toList)
    (apart : ∀ language other, word language = word other → language = other)
    (pattern other : Λ × String)
    (h : StructuralPattern.keyOf (word pattern.1) pattern.2 =
      StructuralPattern.keyOf (word other.1) other.2) : pattern = other := by
  obtain ⟨hword, htext⟩ := StructuralPattern.keyOf_injective (plain _) (plain _) h
  exact Prod.ext (apart _ _ hword) htext

theorem step_fst (plain : ∀ language, ':' ∉ (word language).toList)
    (apart : ∀ language other, word language = word other → language = other)
    (caches : Caches word reader) (call : Call Λ) :
    (caches.step call).1 = call.uncached reader := by
  cases call with
  | clear => rfl
  | program expression =>
      exact congrArg Answer.program (caches.programs.fetch_fst (fun _ _ h => h) expression)
  | pattern language text =>
      exact congrArg Answer.pattern
        (caches.patterns.fetch_fst (patternKey_injective plain apart) (language, text))

theorem run_fst (plain : ∀ language, ':' ∉ (word language).toList)
    (apart : ∀ language other, word language = word other → language = other)
    (caches : Caches word reader) (calls : List (Call Λ)) :
    (caches.run calls).1 = calls.map (Call.uncached reader) := by
  induction calls generalizing caches with
  | nil => rfl
  | cons call calls ih =>
      rw [List.map_cons, ← step_fst plain apart caches call, ← ih (caches.step call).2]
      rfl

/-- A run of calls is answered as if there were no caches, and leaves caches that hold at most
one thing under a key, each the right one, what was asked for last among them. No two patterns
have one key, the cache of programs keeps within its capacity, and nothing that is refused is in
it. -/
theorem transparent_of_calls (plain : ∀ language, ':' ∉ (word language).toList)
    (apart : ∀ language other, word language = word other → language = other)
    (calls : List (Call Λ)) :
    let answers := (({} : Caches word reader).run calls).1
    let caches := (({} : Caches word reader).run calls).2
    answers = calls.map (Call.uncached reader) ∧
      caches.Distinct ∧
      (∀ entry ∈ caches.programs.entries, compile entry.1 = .ok entry.2) ∧
      (∀ entry ∈ caches.patterns.entries, ∃ language text,
        entry = (StructuralPattern.keyOf (word language) text, reader language text)) ∧
      (∀ language language' text text', StructuralPattern.keyOf (word language) text =
        StructuralPattern.keyOf (word language') text' → language = language' ∧ text = text') ∧
      caches.programs.size ≤ 256 ∧
      (∀ expression e, compile expression = .error e → expression ∉ caches.programs.keys) ∧
      ∀ expression program, compile expression = .ok program →
        (caches.step (.program expression)).2.programs.get? expression = some program := by
  intro answers caches
  have sound : ∀ entry ∈ caches.programs.entries, compile entry.1 = .ok entry.2 := by
    intro entry he
    obtain ⟨expression, hkey, hbuilt⟩ := caches.programs.sound entry he
    exact hkey ▸ hbuilt
  refine ⟨run_fst plain apart {} calls, distinct_new.run calls, sound, ?_, ?_,
    caches.programs.bounded, ?_, fun expression program h =>
      Cache.get?_fetch (fun _ _ h => h) caches.programs h⟩
  · intro entry he
    obtain ⟨⟨language, text⟩, hkey, hbuilt⟩ := caches.patterns.sound entry he
    exact ⟨language, text, Prod.ext hkey.symm (Except.ok.inj hbuilt).symm⟩
  · intro language language' text text' h
    exact Prod.mk.inj (patternKey_injective plain apart (language, text) (language', text') h)
  · intro expression e h hmem
    obtain ⟨entry, he, rfl⟩ := List.mem_map.1 hmem
    cases h.symm.trans (sound entry he)

/-- What a parser makes of a pattern that is one word, an identifier. -/
def oneWord (language : Language) (text : String) : Language × String × String :=
  (language, "identifier", text)

/-- The case of a word in two languages, and of an expression that is asked for again after it has
been refused. -/
theorem transparent_of_calls_words :
    (∀ language : Language, ':' ∉ language.stem.toList) ∧
      (∀ language other : Language, language.stem = other.stem → language = other) ∧
      (({} : Caches Language.stem oneWord).run [.program "/a[", .pattern .rust "x",
          .pattern .python "x", .program "/a[", .clear, .pattern .rust "x"]).1 =
        [.program (.error ⟨"/a[", 3, .unclosedBracket⟩), .pattern (.ok (.rust, "identifier", "x")),
          .pattern (.ok (.python, "identifier", "x")),
          .program (.error ⟨"/a[", 3, .unclosedBracket⟩), .cleared,
          .pattern (.ok (.rust, "identifier", "x"))] := by
  have refused : compile "/a[" = .error ⟨"/a[", 3, .unclosedBracket⟩ := by decide +kernel
  have plain := StructuralPattern.colon_notMem_stem
  have apart : ∀ language other : Language, language.stem = other.stem → language = other :=
    fun _ _ => StructuralPattern.stem_injective
  refine ⟨plain, apart, ?_⟩
  rw [(@transparent_of_calls Language _ Language.stem oneWord plain apart _).1]
  simp only [List.map_cons, List.map_nil, Call.uncached, refused, oneWord]

-- ================================================== refused expressions

/-- An expression that is refused makes room in the cache of programs, and changes nothing else. -/
theorem step_of_error {expression : String} {e : SyntaxError} (h : compile expression = .error e)
    (caches : Caches word reader) :
    caches.step (.program expression) =
      (.program (.error e), { caches with programs := caches.programs.makeRoom }) := by
  have missing : caches.programs.get? expression = none :=
    Cache.get?_of_error (fun _ _ h => h) caches.programs h
  have hfetch : caches.programs.fetch expression = (.error e, caches.programs.makeRoom) :=
    Cache.fetch_of_error missing h
  unfold step
  dsimp only
  rw [hfetch]

/-- Programs that are asked for go through the cache of programs one after the other. -/
theorem programs_run (caches : Caches word reader) (expressions : List String) :
    (caches.run (expressions.map .program)).2.programs =
      expressions.foldl (fun programs expression => (programs.fetch expression).2)
        caches.programs := by
  induction expressions generalizing caches with
  | nil => rfl
  | cons expression expressions ih => exact ih (caches.step (.program expression)).2

/-- After any run, an expression that is refused leaves the caches as they were, unless the cache
of programs is full: then that one is empty. -/
theorem refused_of_calls (calls : List (Call Λ)) {expression : String} {e : SyntaxError}
    (h : compile expression = .error e) :
    let caches := (({} : Caches word reader).run calls).2
    caches.step (.program expression) = (.program (.error e),
      if caches.programs.size < 256 then caches else { caches with programs := .empty }) := by
  intro caches
  rw [step_of_error h, Cache.makeRoom]
  by_cases room : caches.programs.size < cacheCapacity
  · rw [if_pos room]
    exact congrArg (Prod.mk _) (if_pos room).symm
  · rw [if_neg room]
    exact congrArg (Prod.mk _) (if_neg room).symm

/-- The case of a cache that holds two programs. -/
theorem refused_of_calls_two :
    compile "/a[" = .error ⟨"/a[", 3, .unclosedBracket⟩ ∧
      let caches := (({} : Caches Language.stem oneWord).run [.program "/a", .program "/b"]).2
      caches.programs.keys = ["/b", "/a"] ∧
        caches.step (.program "/a[") =
          (.program (.error ⟨"/a[", 3, .unclosedBracket⟩), caches) := by
  have refused : compile "/a[" = .error ⟨"/a[", 3, .unclosedBracket⟩ := by decide +kernel
  have hstep := @refused_of_calls Language _ Language.stem oneWord
    [.program "/a", .program "/b"] _ _ refused
  have hkeys : (({} : Caches Language.stem oneWord).run
      [.program "/a", .program "/b"]).2.programs.keys = ["/b", "/a"] := by decide +kernel
  generalize (({} : Caches Language.stem oneWord).run [.program "/a", .program "/b"]).2 =
    caches at hstep hkeys
  have room : caches.programs.size < 256 := by
    have hlength := congrArg List.length hkeys
    rw [Cache.keys, List.length_map] at hlength
    exact lt_of_eq_of_lt hlength (by decide)
  refine ⟨refused, hkeys, ?_⟩
  rw [hstep]
  exact congrArg (Prod.mk _) (if_pos room)

/-- Expressions that fill the cache of programs. -/
def filling : List String := (List.range 256).map fun n => "/n" ++ toString n

theorem toList_numbered (lead : String) (n : Nat) :
    (lead ++ toString n).toList = lead.toList ++ Nat.toDigits 10 n := by
  simp only [Nat.toString_eq_ofList_toDigits, String.toList_append, String.toList_ofList]

theorem compile_numbered (n : Nat) : ∃ program, compile ("/n" ++ toString n) = .ok program := by
  have hname : Expression.IsName ("n" ++ toString n) := by
    refine Expression.isName_iff.2 ⟨'n', Nat.toDigits 10 n, toList_numbered "n" n, by decide, ?_⟩
    intro c hc
    have hdigit : Expression.isDigit c = true := by
      simpa [Char.isDigit, Char.le_def, Expression.isDigit] using
        Nat.isDigit_of_mem_toDigits (by decide) (by decide) hc
    exact Expression.isNamePart_of_isDigit hdigit
  refine ⟨_, Expression.compile_test (.name ("n" ++ toString n)) hname ?_⟩
  rw [Expression.NodeTest.print, toList_numbered, toList_numbered]
  rfl

theorem nodup_filling : filling.Nodup := by
  refine List.Nodup.map (fun a b h => ?_) List.nodup_range
  have htext : ("/n" ++ toString a).toList = ("/n" ++ toString b).toList := congrArg _ h
  rw [toList_numbered, toList_numbered] at htext
  rw [← @Nat.ofDigitChars_ten_toDigits a, ← @Nat.ofDigitChars_ten_toDigits b,
    List.append_cancel_left htext]

/-- What fills the cache of programs is held all at once. -/
theorem size_filled : (({} : Caches Language.stem oneWord).run
    (filling.map .program)).2.programs.size = 256 := by
  have hlength : filling.length = 256 := by rw [filling, List.length_map, List.length_range]
  have apart : (filling.map id).Nodup := (List.map_id filling).symm ▸ nodup_filling
  have built : ∀ expression ∈ filling, ∃ program, compile expression = .ok program := by
    intro expression he
    obtain ⟨n, -, rfl⟩ := List.mem_map.1 he
    exact compile_numbered n
  have hkeys := Cache.keys_foldl_fetch apart built (Nat.le_of_eq hlength)
  have hsize := congrArg List.length hkeys
  rw [Cache.keys, List.length_map, List.length_reverse, List.length_map, hlength] at hsize
  rw [programs_run]
  exact hsize

/-- In a full cache, an expression that is refused does not leave what was held. -/
theorem emptied_by_refused :
    compile "/a[" = .error ⟨"/a[", 3, .unclosedBracket⟩ ∧
      let caches := (({} : Caches Language.stem oneWord).run (filling.map .program)).2
      caches.programs.size = 256 ∧ (caches.step (.program "/a[")).2.programs.size = 0 := by
  have refused : compile "/a[" = .error ⟨"/a[", 3, .unclosedBracket⟩ := by decide +kernel
  have full := size_filled
  generalize (({} : Caches Language.stem oneWord).run (filling.map .program)).2 = caches at full ⊢
  refine ⟨refused, full, ?_⟩
  rw [step_of_error refused]
  show caches.programs.makeRoom.size = 0
  have hroom : ¬ caches.programs.size < cacheCapacity := by
    rw [full]
    decide
  rw [Cache.makeRoom, if_neg hroom]
  rfl

end Caches

end TreeQuery
