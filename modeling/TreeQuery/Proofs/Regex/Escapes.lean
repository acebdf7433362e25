/-
Escapes are read the same whatever follows.

One lemma for each reader of what stands behind a backslash, in the order of the definitions. The
word boundary is the only escape that looks at more than it takes: the brace behind it may belong
to it or may not.
-/
import TreeQuery.Proofs.Regex.Carrying

namespace TreeQuery.Regex

variable {flags : Flags} {more ahead ahead' left rest : List Char}

-- ================================================================ escapes

theorem carries_readHexDigits (more : List Char) (flags : Flags) (n value : Nat) :
    Carries more (readHexDigits flags n value) (readHexDigits flags n value) := by
  induction n generalizing value with
  | zero => exact .pure value
  | succ n ih =>
      refine .head (skips_nothing more) ?_ ?_ ?_ fun c => .given (hexValue? c) fun digit =>
        (ih (16 * value + digit)).skipping (skips_space more flags)
      · rintro _ rfl
        rfl
      · rintro _ c rest rfl
        rfl
      · rintro _ c rest rfl
        rfl

theorem readHexBraced_of_cons {fuel : Nat} {some? : Bool} {value : Nat} {c : Char}
    (h : skipSpace flags ahead = c :: rest) :
    readHexBraced flags (fuel + 1) some? value ahead =
      if c = '\x7d' then if some? then some (value, rest) else none
      else (hexValue? c).bind fun digit =>
        readHexBraced flags fuel true (16 * value + digit) rest := by
  rw [readHexBraced, h]
  split
  · rename_i heq
    cases heq
  · rename_i heq
    obtain ⟨rfl, rfl⟩ := List.cons.inj heq
    rfl
  · rename_i hne heq
    obtain ⟨rfl, rfl⟩ := List.cons.inj heq
    rw [if_neg hne]
    rfl

theorem carries_readHexBraced (more : List Char) (flags : Flags) {fuel fuel' : Nat}
    (h : fuel ≤ fuel') (some? : Bool) (value : Nat) :
    Carries more (readHexBraced flags fuel some? value)
      (readHexBraced flags fuel' some? value) := by
  induction fuel generalizing fuel' some? value with
  | zero => exact .none
  | succ fuel ih =>
      obtain ⟨fuel', rfl⟩ := Nat.exists_eq_add_of_le' (show 1 ≤ fuel' by omega)
      refine .head (skips_space more flags) (fun ahead hnil => ?_)
        (fun _ _ _ => readHexBraced_of_cons) (fun _ _ _ => readHexBraced_of_cons) fun c =>
          .ite (fun _ => .when (some? = true) (.pure value)) fun _ =>
            .given (hexValue? c) fun digit => ih (by omega) true (16 * value + digit)
      rw [readHexBraced, hnil]

theorem readHex_eq (flags : Flags) (kind : Char) (ahead : List Char) :
    readHex flags kind ahead =
      if (skipSpace flags ahead).head? = some '\x7b' then
        (readHexBraced flags ((skipSpace flags ahead).tail.length + 1) false 0
          (skipSpace flags ahead).tail).bind fun r =>
          (charOf? r.1).bind fun c => some (.literal c, r.2)
      else
        (readHexDigits flags (if kind = 'x' then 2 else if kind = 'u' then 4 else 8) 0
          (skipSpace flags ahead)).bind fun r =>
          if kind = 'x' ∧ flags.unicode = false ∧ 0x80 ≤ r.1 then some (.byte, r.2)
          else (charOf? r.1).bind fun c => some (.literal c, r.2) := by
  rw [readHex]
  split
  · rename_i heq
    rw [heq]
    rfl
  · rename_i hne
    rw [if_neg (c := (skipSpace flags ahead).head? = _) (head?_ne_some hne)]
    rfl

theorem carries_readHex (more : List Char) (flags : Flags) (kind : Char) :
    Carries more (readHex flags kind) (readHex flags kind) := by
  have hcharacter (code : Nat) : Carries more
      (fun ahead => (charOf? code).bind fun c => some (Escape.literal c, ahead))
      fun ahead => (charOf? code).bind fun c => some (Escape.literal c, ahead) :=
    .given (charOf? code) fun c => .pure (Escape.literal c)
  rw [funext (readHex_eq flags kind)]
  exact .skipping (skips_space more flags) (.either (by decide)
    (.bind (.fueled 1 fun _ _ h => carries_readHexBraced more flags h false 0) hcharacter)
    (.bind (carries_readHexDigits more flags _ 0) fun code =>
      .ite (p := kind = 'x' ∧ flags.unicode = false ∧ 0x80 ≤ code) (fun _ => .pure Escape.byte)
        fun _ => hcharacter code))

theorem readPropertyName_of_cons {fuel : Nat} {c : Char}
    (h : skipSpace flags ahead = c :: rest) :
    readPropertyName flags (fuel + 1) ahead =
      if c = '\x7d' then some ([], rest)
      else (readPropertyName flags fuel rest).bind fun r => some (c :: r.1, r.2) := by
  rw [readPropertyName, h]
  split
  · rename_i heq
    cases heq
  · rename_i heq
    obtain ⟨rfl, rfl⟩ := List.cons.inj heq
    rfl
  · rename_i hne heq
    obtain ⟨rfl, rfl⟩ := List.cons.inj heq
    rw [if_neg hne, Option.map_eq_bind]
    rfl

theorem carries_readPropertyName (more : List Char) (flags : Flags) {fuel fuel' : Nat}
    (h : fuel ≤ fuel') :
    Carries more (readPropertyName flags fuel) (readPropertyName flags fuel') := by
  induction fuel generalizing fuel' with
  | zero => exact .none
  | succ fuel ih =>
      obtain ⟨fuel', rfl⟩ := Nat.exists_eq_add_of_le' (show 1 ≤ fuel' by omega)
      refine .head (skips_space more flags) (fun ahead hnil => ?_)
        (fun _ _ _ => readPropertyName_of_cons) (fun _ _ _ => readPropertyName_of_cons) fun c =>
          .ite (fun _ => .pure []) fun _ => .bind (ih (by omega)) fun cs => .pure (c :: cs)
      rw [readPropertyName, hnil]

theorem readProperty_of_cons {negated : Bool} {c : Char}
    (h : skipSpace flags ahead = c :: rest) :
    readProperty flags negated ahead =
      if flags.unicode = false then none
      else if c = '\x7b' then
        (readPropertyName flags (rest.length + 1) rest).bind fun r =>
          (bracedProperty? r.1).bind fun property =>
            some (.set (foldAndNegate flags (negated != property.2) property.1), r.2)
      else if c = '\\' then none
      else (property? [c]).bind fun set =>
        some (.set (foldAndNegate flags negated set), skipSpace flags rest) := by
  rw [readProperty, h]
  split
  · rfl
  · split
    · rename_i heq
      cases heq
    · rename_i heq
      obtain ⟨rfl, rfl⟩ := List.cons.inj heq
      rfl
    · rename_i hne heq
      obtain ⟨rfl, rfl⟩ := List.cons.inj heq
      rw [if_neg hne]
      rfl

theorem carries_readProperty (more : List Char) (flags : Flags) (negated : Bool) :
    Carries more (readProperty flags negated) (readProperty flags negated) := by
  refine .head (skips_space more flags) (fun ahead hnil => ?_) (fun _ _ _ => readProperty_of_cons)
    (fun _ _ _ => readProperty_of_cons) fun c => .ite (fun _ => .none) fun _ => .ite
      (fun _ => .bind (.fueled 1 fun _ _ h => carries_readPropertyName more flags h) fun name =>
        .given (bracedProperty? name) fun property =>
          .pure (Escape.set (foldAndNegate flags (negated != property.2) property.1)))
      fun _ => .ite (fun _ => .none) fun _ => .given (property? [c]) fun set =>
        .skipping (skips_space more flags) (.pure (Escape.set (foldAndNegate flags negated set)))
  rw [readProperty, hnil]
  split <;> rfl

-- The word boundary is the one escape that looks ahead without taking what it sees.

theorem readWords_eq (flags : Flags) (fuel : Nat) (ahead : List Char) :
    readWords flags fuel ahead = run flags (fun c => c.isAlpha || c == '-') fuel ahead := by
  induction fuel generalizing ahead with
  | zero => rfl
  | succ fuel ih =>
      cases ahead with
      | nil => rfl
      | cons c rest =>
          unfold run
          rw [← ih]
          rfl

/-- The word boundary with a name, if there is one. -/
def boundary? (words : CharSet) (name : List Char) : Option Escape :=
  match String.ofList name with
  | "start" => some (.place (.wordStart words))
  | "end" => some (.place (.wordEnd words))
  | "start-half" => some (.place (.wordStartHalf words))
  | "end-half" => some (.place (.wordEndHalf words))
  | _ => none

theorem boundary?_of_ne {words : CharSet} {name : List Char} (hstart : String.ofList name ≠ "start")
    (hend : String.ofList name ≠ "end") (hstartHalf : String.ofList name ≠ "start-half")
    (hendHalf : String.ofList name ≠ "end-half") : boundary? words name = none := by
  unfold boundary?
  split
  · exact absurd ‹_› hstart
  · exact absurd ‹_› hend
  · exact absurd ‹_› hstartHalf
  · exact absurd ‹_› hendHalf
  · rfl

/-- A word boundary whose name is ahead. -/
def readNamedBoundary (flags : Flags) (ahead : List Char) : Option (Escape × List Char) :=
  (some (run flags (fun c => c.isAlpha || c == '-') (ahead.length + 1) ahead)).bind fun r =>
    if r.2.head? = some '\x7d' then
      (boundary? (wordSet flags) r.1).bind fun escape => some (escape, r.2.tail)
    else none

theorem carries_readNamedBoundary (more : List Char) (flags : Flags) :
    Carries more (readNamedBoundary flags) (readNamedBoundary flags) :=
  .bind (carries_run more flags (by decide) 1) fun name =>
    .need '\x7d' (.given (boundary? (wordSet flags) name) fun escape => .pure escape)

theorem readBoundary_of_not_brace (h : ahead.head? ≠ some '\x7b') :
    readBoundary flags ahead = some (.place (.boundary (wordSet flags)), ahead) := by
  unfold readBoundary
  dsimp only
  split
  · exact absurd rfl h
  · rfl

theorem readBoundary_of_word {c : Char} (h : skipSpace flags ahead = c :: rest)
    (hc : (c.isAlpha || c == '-') = true) :
    readBoundary flags ('\x7b' :: ahead) = readNamedBoundary flags (c :: rest) := by
  simp only [readBoundary, h]
  rw [if_pos hc, readWords_eq]
  unfold readNamedBoundary
  rw [Option.bind_some, List.length_cons]
  split
  · rename_i name left heq
    rw [heq, List.head?_cons, if_pos rfl]
    dsimp only
    split
    case h_5 hstart hend hstartHalf hendHalf =>
      rw [boundary?_of_ne hstart hend hstartHalf hendHalf]
      rfl
    all_goals
      rename_i hname
      unfold boundary?
      rw [hname]
      rfl
  · rename_i hne
    rw [if_neg]
    intro hhead
    obtain ⟨left, hleft⟩ := List.head?_eq_some_iff.1 hhead
    exact hne _ left (Prod.ext_iff.2 ⟨rfl, hleft⟩)

theorem readBoundary_of_not_word {c : Char} (h : skipSpace flags ahead = c :: rest)
    (hc : (c.isAlpha || c == '-') = false) :
    readBoundary flags ('\x7b' :: ahead) =
      some (.place (.boundary (wordSet flags)), '\x7b' :: ahead) := by
  simp only [readBoundary, h]
  rw [hc]
  rfl

theorem readBoundary_of_nil (h : skipSpace flags ahead = []) :
    readBoundary flags ('\x7b' :: ahead) = none := by
  simp only [readBoundary, h]

theorem carries_readBoundary (more : List Char) (flags : Flags) :
    Carries more (readBoundary flags) (readBoundary flags) := by
  have hplain : Carries more
      (fun ahead => some (Escape.place (.boundary (wordSet flags)), ahead))
      fun ahead => some (Escape.place (.boundary (wordSet flags)), ahead) := .pure _
  have hnamed := carries_readNamedBoundary more flags
  have hspace := skips_space more flags
  refine ⟨@fun ahead x left h => ?_, @fun ahead ahead' x left h hm hf => ?_⟩
  all_goals
    by_cases hhead : ahead.head? = some '\x7b'
  · obtain ⟨rest, rfl⟩ := List.head?_eq_some_iff.1 hhead
    cases hskip : skipSpace flags rest with
    | nil => cases (readBoundary_of_nil hskip).symm.trans h
    | cons c past =>
        cases hc : c.isAlpha || c == '-' with
        | false =>
            rw [readBoundary_of_not_word hskip hc] at h
            exact hplain.suffix h
        | true =>
            rw [readBoundary_of_word hskip hc, ← hskip] at h
            exact ((hnamed.skipping hspace).suffix h).trans (List.suffix_cons _ rest)
  · rw [readBoundary_of_not_brace hhead] at h
    exact hplain.suffix h
  · obtain ⟨rest, rfl⟩ := List.head?_eq_some_iff.1 hhead
    cases hskip : skipSpace flags rest with
    | nil => cases (readBoundary_of_nil hskip).symm.trans h
    | cons c past =>
        obtain rfl := hf.cons
        have hskip' := hspace.cons hskip (followed_append more rest)
        cases hc : c.isAlpha || c == '-' with
        | false =>
            rw [readBoundary_of_not_word hskip hc] at h
            rw [readBoundary_of_not_word hskip' hc]
            exact hplain.carries h hm hf
        | true =>
            rw [readBoundary_of_word hskip hc] at h
            rw [readBoundary_of_word hskip' hc]
            exact hnamed.carries h hm (followed_append more (c :: past))
  · rw [readBoundary_of_not_brace hhead] at h
    have hclear := clear_of_suffix (hplain.suffix h) hm
    rw [readBoundary_of_not_brace (hf.head?_ne (by decide) hhead hclear)]
    exact hplain.carries h hm hf

/-- What a backslash and one more character stand for. -/
def simpleEscape? (flags : Flags) (c : Char) : Option Escape := (readEscape flags [c]).map (·.1)

theorem readEscape_cons (flags : Flags) (c : Char) (rest : List Char) :
    readEscape flags (c :: rest) =
      if c = 'x' ∨ c = 'u' ∨ c = 'U' then readHex flags c rest
      else if c = 'p' ∨ c = 'P' then readProperty flags (c == 'P') rest
      else if c = 'b' then readBoundary flags rest
      else (simpleEscape? flags c).bind fun escape => some (escape, rest) := by
  unfold simpleEscape? readEscape
  dsimp only
  split
  -- Each character with a meaning of its own, and then the others.
  case h_24 hx hu hU hp hP _ _ _ _ _ _ _ _ _ _ _ _ _ _ hb _ _ _ =>
    have hhex : ¬(c = 'x' ∨ c = 'u' ∨ c = 'U') := fun h => h.elim hx fun h => h.elim hu hU
    have hproperty : ¬(c = 'p' ∨ c = 'P') := fun h => h.elim hp hP
    rw [if_neg hhex, if_neg hproperty, if_neg hb]
    split
    · rfl
    · rfl
  all_goals rfl

theorem carries_readEscape (more : List Char) (flags : Flags) :
    Carries more (readEscape flags) (readEscape flags) := by
  refine .head (skips_nothing more) ?_ ?_ ?_ fun c =>
    .ite (p := c = 'x' ∨ c = 'u' ∨ c = 'U') (fun _ => carries_readHex more flags c) fun _ =>
      .ite (p := c = 'p' ∨ c = 'P') (fun _ => carries_readProperty more flags (c == 'P')) fun _ =>
        .ite (p := c = 'b') (fun _ => carries_readBoundary more flags) fun _ =>
          .given (simpleEscape? flags c) fun escape => .pure escape
  · rintro _ rfl
    rfl
  · rintro _ c rest rfl
    exact readEscape_cons flags c rest
  · rintro _ c rest rfl
    exact readEscape_cons flags c rest

end TreeQuery.Regex
