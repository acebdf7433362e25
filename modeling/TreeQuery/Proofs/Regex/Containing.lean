/-
Patterns that stay in the group they are put in.

A pattern that is written between parentheses need not be what the group holds: it may close the
group itself and open another, or end in a comment that takes in the closing parenthesis. It is
`Contained` if it is a pattern by itself and one with parentheses around it. Then it is read in a
group as it is read by itself, wherever the group stands (`Contained.reads`), for what is read by
itself depends neither on what follows nor on the names that are known.

A name is used for one group only, so each name of a pattern that has been read stands for one
group in it (`named_le_one`).
-/
import Mathlib.Algebra.GroupWithZero.Nat
import TreeQuery.Proofs.Regex.Chain
import TreeQuery.Proofs.Regex.Patterns
import TreeQuery.Proofs.Regex.Reading

namespace TreeQuery.Regex

variable {draft : Draft} {ahead left more : List Char} {fuel : Nat} {known : List String}
  {r : Regex × List String × List Char} {regex : Regex}

-- ================================================================ groups

/-- What has been read of a group, and behind it. -/
theorem group_of_readPattern
    (h : readPattern fuel {} draft ('(' :: '?' :: ':' :: ahead) = some r) :
    ∃ fuel' body names left, fuel = fuel' + 1 ∧ ')' :: left <:+ ahead ∧
      readPattern fuel' {} { names := draft.names } ahead = some (body, names, ')' :: left) ∧
      readPattern fuel' {} { draft.push (some body) with names := names } left = some r := by
  cases fuel with
  | zero =>
      rw [readPattern] at h
      cases h
  | succ fuel =>
      have hskip : skipSpace {} ('(' :: '?' :: ':' :: ahead) = '(' :: '?' :: ':' :: ahead := rfl
      have hopening : readOpening {} ('?' :: ':' :: ahead) = some (.group {}, ahead) := rfl
      rw [readPattern_of_cons hskip, if_neg (by decide), if_pos rfl, hopening,
        Option.bind_some] at h
      obtain ⟨⟨body, names, left⟩, hclosed, h⟩ := Option.bind_eq_some_iff.1 h
      have hbody := readPattern_of_readClosed hclosed
      exact ⟨fuel, body, names, left, rfl, shortening fuel hbody, hbody, h⟩

theorem named_of_readPattern {c : Char} {n : List Char}
    (hc : c = '_' ∨ Unicode.isAlphabetic c = true) (hn : ∀ c ∈ n, isGroupNamePart c = true)
    (h : readPattern fuel {} draft ('(' :: '?' :: 'P' :: '<' :: c :: (n ++ '>' :: ahead)) =
      some r) :
    ∃ fuel' body names left, fuel = fuel' + 1 ∧ ')' :: left <:+ ahead ∧
      readPattern fuel' {} { names := String.ofList (c :: n) :: draft.names } ahead =
        some (body, names, ')' :: left) ∧
      readPattern fuel' {}
        { draft.push (some (.capture (String.ofList (c :: n)) body)) with names := names } left =
        some r := by
  cases fuel with
  | zero =>
      rw [readPattern] at h
      cases h
  | succ fuel =>
      have hskip : skipSpace {} ('(' :: '?' :: 'P' :: '<' :: c :: (n ++ '>' :: ahead)) =
        '(' :: '?' :: 'P' :: '<' :: c :: (n ++ '>' :: ahead) := rfl
      rw [readPattern_of_cons hskip, if_neg (by decide), if_pos rfl, readOpening_named hc hn,
        Option.bind_some] at h
      unfold readOpened at h
      dsimp only at h
      split at h
      · cases h
      · obtain ⟨⟨body, names, left⟩, hclosed, h⟩ := Option.bind_eq_some_iff.1 h
        have hbody := readPattern_of_readClosed hclosed
        exact ⟨fuel, body, names, left, rfl, shortening fuel hbody, hbody, h⟩

/-- A parenthesis that nothing has opened ends a pattern. -/
theorem close_of_readPattern (h : readPattern fuel {} draft (')' :: left) = some r) :
    r = (draft.finish, draft.names, ')' :: left) := by
  cases fuel with
  | zero =>
      rw [readPattern] at h
      cases h
  | succ fuel =>
      have hskip : skipSpace {} (')' :: left) = ')' :: left := rfl
      rw [readPattern_of_cons hskip, if_pos rfl] at h
      exact (Option.some.inj h).symm

theorem end_of_readPattern (h : readPattern fuel {} draft [] = some r) :
    r = (draft.finish, draft.names, []) := by
  cases fuel with
  | zero =>
      rw [readPattern] at h
      cases h
  | succ fuel =>
      rw [readPattern_of_nil rfl] at h
      exact (Option.some.inj h).symm

-- ============================================================ contained

theorem readPattern_of_parse? {pattern : String} (h : parse? pattern = some regex) :
    ∃ names, readPattern (pattern.toList.length + 1) {} { names := [] } pattern.toList =
      some (regex, names, []) := by
  unfold parse? at h
  dsimp only at h
  split at h
  · rename_i body names hread
    obtain ⟨-, hbody⟩ := Option.ite_none_right_eq_some.1 h
    obtain rfl := Option.some.inj hbody
    exact ⟨names, hread⟩
  · cases h

/-- A pattern by itself that is one with parentheses around it, too. -/
structure Contained (pattern : String) (regex : Regex) : Prop where
  alone : parse? pattern = some regex
  grouped : (parse? ("(?:" ++ pattern ++ ")")).isSome = true

/-- In a group it is read as by itself, up to the parenthesis that closes the group. -/
theorem Contained.reads {pattern : String} (h : Contained pattern regex)
    (hr : readPattern fuel {} { names := known } (pattern.toList ++ ')' :: more) = some r) :
    r.1 = regex ∧ (∃ new, r.2.1 = new ++ known) ∧ r.2.2 = ')' :: more := by
  obtain ⟨names₁, halone⟩ := readPattern_of_parse? h.alone
  obtain ⟨whole, hwhole⟩ := Option.isSome_iff_exists.1 h.grouped
  obtain ⟨names₂, hwhole⟩ := readPattern_of_parse? hwhole
  have hlist : ("(?:" ++ pattern ++ ")").toList =
      '(' :: '?' :: ':' :: (pattern.toList ++ [')']) := by
    rw [String.toList_append, String.toList_append]
    rfl
  rw [hlist] at hwhole
  obtain ⟨fuel₃, body, names₃, left, -, -, hbody, -⟩ := group_of_readPattern hwhole
  have hclosing : Closing [')'] := ⟨rfl, by decide⟩
  -- With one parenthesis behind it the pattern is the same, and that parenthesis is left.
  have hagree := Agreeing.start (agreeing [')'] _) halone hbody (.inr hclosing)
    (followed_append _ _)
  obtain rfl : body = regex := hagree.regex
  obtain rfl : left = [] := by
    rcases hagree.left with hleft | ⟨-, hleft⟩
    · exact (List.cons.inj hleft).2
    · cases hleft
  -- Something is left then, and so nothing that follows makes a difference.
  have hahead : pattern.toList ++ ')' :: more = (pattern.toList ++ [')']) ++ more := by
    rw [List.append_assoc]
    rfl
  rw [hahead] at hr
  have hagree' := Agreeing.start (agreeing more fuel₃) hbody hr (.inl (List.cons_ne_nil _ _))
    (followed_append _ _)
  obtain ⟨new, -, hnew⟩ := hagree'.names
  exact ⟨hagree'.regex, ⟨new, hnew⟩, hagree'.left.cons⟩

/-- A pattern in a group with the start of the text before it and its end behind it is what it is
by itself, from the start to the end. -/
theorem whole_of_parse? {p : List Char} {whole : Regex}
    (halone : parse? (String.ofList p) = some regex)
    (hwhole : parse? (String.ofList ("^(?:".toList ++ p ++ ")$".toList)) = some whole) :
    whole = .seq (.seq (.assertion .textStart) regex) (.assertion .textEnd) := by
  obtain ⟨names, halone⟩ := readPattern_of_parse? halone
  obtain ⟨names', hwhole⟩ := readPattern_of_parse? hwhole
  rw [String.toList_ofList] at halone hwhole
  have hlist : "^(?:".toList ++ p ++ ")$".toList = '^' :: '(' :: '?' :: ':' :: (p ++ [')', '$']) :=
    List.append_assoc _ _ _
  rw [hlist] at hwhole
  have hfirst : Reads { names := [] } ('^' :: '(' :: '?' :: ':' :: (p ++ [')', '$'])) _ _ :=
    reads_assertion _ _ (c := '^') List.mem_cons_self
  obtain ⟨fuel', enough, hstart⟩ := hfirst.reads _ (Nat.lt_succ_self _)
  rw [hstart] at hwhole
  obtain ⟨fuel, body, known, left, rfl, -, hbody, hrest⟩ := group_of_readPattern hwhole
  have hclosing : Closing [')', '$'] := ⟨rfl, by decide⟩
  have hagree := Agreeing.start (agreeing [')', '$'] _) halone hbody (.inr hclosing)
    (followed_append _ _)
  obtain rfl : body = regex := hagree.regex
  obtain rfl : left = ['$'] := by
    rcases hagree.left with hleft | ⟨-, hleft⟩
    · exact (List.cons.inj hleft).2
    · cases hleft
  have hlast : ∀ draft, Reads draft ['$'] (draft.push (some (.assertion .textEnd))) [] :=
    fun draft => reads_assertion draft [] (List.mem_cons_of_mem _ List.mem_cons_self)
  simp only [List.length_cons, List.length_append, List.length_nil] at enough
  rw [(hlast _).finish (show ['$'].length < fuel by rw [List.length_singleton]; omega)] at hrest
  exact (congrArg Prod.fst (Option.some.inj hrest)).symm

-- ======================================================== names of groups

/-- How many groups of a pattern have the name. -/
def named (name : String) : Regex → Nat
  | .empty => 0
  | .one _ => 0
  | .assertion _ => 0
  | .seq first second => named name first + named name second
  | .alt first second => named name first + named name second
  | .many body _ _ _ => named name body
  | .capture n body => (if n = name then 1 else 0) + named name body

/-- How many groups of what has been read have the name. -/
def Draft.named (name : String) (draft : Draft) : Nat :=
  (draft.branches.map (Regex.named name)).sum +
    ((draft.items.filterMap id).map (Regex.named name)).sum

theorem named_foldl_seq (name : String) (first : Regex) (rest : List Regex) :
    named name (rest.foldl .seq first) = named name first + (rest.map (named name)).sum := by
  induction rest generalizing first with
  | nil => rfl
  | cons second rest ih =>
      rw [List.foldl_cons, ih, List.map_cons, List.sum_cons, ← Nat.add_assoc]
      rfl

/-- Patterns in a row have the groups of each. -/
theorem named_chain (name : String) (regexes : List Regex) :
    named name (chain regexes) = (regexes.map (named name)).sum := by
  cases regexes with
  | nil => rfl
  | cons first rest => exact named_foldl_seq name first rest

theorem named_sequence (name : String) (items : Items) :
    named name (sequence items) = ((items.filterMap id).map (named name)).sum := by
  unfold sequence
  rw [← List.sum_reverse, ← List.map_reverse, ← List.filterMap_reverse]
  exact named_chain name (items.reverse.filterMap id)

theorem named_alternatives (name : String) (last : Regex) (before : List Regex) :
    named name (alternatives last before) = (before.map (named name)).sum + named name last := by
  unfold alternatives
  induction before generalizing last with
  | nil => exact (Nat.zero_add _).symm
  | cons branch before ih =>
      rw [List.foldl_cons, ih, List.map_cons, List.sum_cons]
      show _ + (named name branch + named name last) = _
      omega

theorem named_finish (name : String) (draft : Draft) :
    named name draft.finish = draft.named name := by
  unfold Draft.finish
  rw [named_alternatives, named_sequence]
  rfl

theorem named_start (name : String) (names : List String) :
    ({ names := names } : Draft).named name = 0 := rfl

theorem named_push (name : String) (draft : Draft) (regex : Regex) (names : List String) :
    ({ draft.push (some regex) with names := names } : Draft).named name =
      draft.named name + named name regex := by
  show (draft.branches.map _).sum + (named name regex + ((draft.items.filterMap id).map _).sum) = _
  unfold Draft.named
  omega

theorem named_escapeItem {flags : Flags} {escape : Escape} (name : String)
    (h : escapeItem flags escape = some regex) : named name regex = 0 := by
  cases escape with
  | literal c =>
      obtain rfl := Option.some.inj h
      rfl
  | byte => cases h
  | set members =>
      obtain ⟨-, h⟩ := Option.ite_none_right_eq_some.1 h
      obtain rfl := Option.some.inj h
      rfl
  | place kind =>
      obtain rfl := Option.some.inj h
      rfl

/-- A single item is no group. -/
theorem named_of_readItem {flags : Flags} {c : Char} {rest : List Char} (name : String)
    (h : readItem flags c rest = some (.single regex, left)) : named name regex = 0 := by
  unfold readItem at h
  split at h
  · cases h
  · split at h
    · obtain ⟨⟨set, past⟩, -, h⟩ := Option.bind_eq_some_iff.1 h
      split at h
      · cases h
        rfl
      · cases h
    · split at h
      · cases h
      · split at h
        · obtain ⟨⟨bounds, past⟩, -, h⟩ := Option.bind_eq_some_iff.1 h
          cases h
        · split at h
          · obtain ⟨⟨escape, past⟩, -, h⟩ := Option.bind_eq_some_iff.1 h
            obtain ⟨item, hitem, h⟩ := Option.bind_eq_some_iff.1 h
            cases h
            exact named_escapeItem name hitem
          · split at h
            · split at h
              · cases h
                rfl
              · cases h
            · split at h
              · cases h
                rfl
              · split at h
                · cases h
                  rfl
                · cases h
                  rfl

theorem named_add? {name : String} {item : Item} {later : Draft}
    (hitem : ∀ regex, item = .single regex → named name regex = 0)
    (h : draft.add? item = some later) : later.named name = draft.named name := by
  cases item with
  | branch =>
      obtain rfl := Option.some.inj h
      show (named name (sequence draft.items) + (draft.branches.map _).sum) + 0 = _
      rw [named_sequence]
      unfold Draft.named
      omega
  | single regex =>
      obtain rfl := Option.some.inj h
      rw [show draft.push (some regex) = { draft.push (some regex) with names := draft.names } from
        rfl, named_push, hitem regex rfl, Nat.add_zero]
  | repeated least most greedy =>
      obtain ⟨items, hitems, rfl⟩ := Option.map_eq_some_iff.1 h
      unfold repeatLast at hitems
      split at hitems
      · rename_i body rest heq
        obtain rfl := Option.some.inj hitems
        unfold Draft.named
        rw [heq]
        rfl
      · cases hitems

/-- With that much fuel, each name that is new belongs to one group that is. -/
def Naming (name : String) (fuel : Nat) : Prop :=
  ∀ {flags draft ahead r}, readPattern fuel flags draft ahead = some r →
    r.2.1.count name + draft.named name = draft.names.count name + named name r.1 ∧
    (draft.names.count name ≤ 1 → r.2.1.count name ≤ 1)

theorem Naming.readClosed {name : String} (h : Naming name fuel) {flags : Flags}
    (hr : readClosed fuel flags known ahead = some r) :
    r.2.1.count name = known.count name + named name r.1 ∧
      (known.count name ≤ 1 → r.2.1.count name ≤ 1) := by
  obtain ⟨hcount, hone⟩ := h (readPattern_of_readClosed hr)
  rw [named_start] at hcount
  exact ⟨hcount, hone⟩

theorem Naming.readOpened {name : String} (h : Naming name fuel) {flags : Flags}
    {opening : Opening} (hr : readOpened fuel flags draft opening ahead = some r) :
    r.2.1.count name + draft.named name = draft.names.count name + named name r.1 ∧
      (draft.names.count name ≤ 1 → r.2.1.count name ≤ 1) := by
  unfold Regex.readOpened at hr
  cases opening with
  | flags inner =>
      have hrest := h hr
      exact hrest
  | group inner =>
      obtain ⟨s, hs, hr⟩ := Option.bind_eq_some_iff.1 hr
      obtain ⟨hcount, hone⟩ := h.readClosed hs
      obtain ⟨hcount', hone'⟩ := h hr
      rw [named_push] at hcount'
      dsimp only at hcount' hone'
      exact ⟨by omega, hone' ∘ hone⟩
  | named opened =>
      dsimp only at hr
      split at hr
      · cases hr
      · rename_i hnew
        obtain ⟨s, hs, hr⟩ := Option.bind_eq_some_iff.1 hr
        obtain ⟨hcount, hone⟩ := h.readClosed hs
        obtain ⟨hcount', hone'⟩ := h hr
        rw [named_push] at hcount'
        dsimp only [named] at hcount' hone'
        by_cases heq : opened = name
        · subst heq
          have hnone : draft.names.count opened = 0 :=
            List.count_eq_zero.2 (mt List.contains_iff_mem.2 hnew)
          rw [List.count_cons_self] at hcount hone
          rw [if_pos rfl] at hcount'
          exact ⟨by omega, fun _ => hone' (hone (by omega))⟩
        · rw [List.count_cons_of_ne heq] at hcount hone
          rw [if_neg heq] at hcount'
          exact ⟨by omega, hone' ∘ hone⟩

theorem naming (name : String) (fuel : Nat) : Naming name fuel := by
  induction fuel with
  | zero =>
      intro flags draft ahead r h
      rw [readPattern] at h
      cases h
  | succ fuel ih =>
      intro flags draft ahead r h
      cases hskip : skipSpace flags ahead with
      | nil =>
          rw [readPattern_of_nil hskip] at h
          obtain rfl := Option.some.inj h
          exact ⟨by rw [named_finish], id⟩
      | cons c rest =>
          rw [readPattern_of_cons hskip] at h
          split at h
          · obtain rfl := Option.some.inj h
            exact ⟨by rw [named_finish], id⟩
          · split at h
            · obtain ⟨⟨opening, past⟩, -, h⟩ := Option.bind_eq_some_iff.1 h
              exact ih.readOpened h
            · obtain ⟨⟨item, past⟩, hitem, h⟩ := Option.bind_eq_some_iff.1 h
              obtain ⟨later, hlater, h⟩ := Option.bind_eq_some_iff.1 h
              have hnamed := named_add? (fun regex heq => by
                subst heq
                exact named_of_readItem name hitem) hlater
              obtain ⟨hnames, -⟩ := Draft.add?_names hlater []
              have hrest := ih h
              rw [hnamed, hnames] at hrest
              exact hrest

/-- A name stands for one group of a pattern at most. -/
theorem named_le_one {pattern : String} (h : parse? pattern = some regex) (name : String) :
    named name regex ≤ 1 := by
  obtain ⟨names, hread⟩ := readPattern_of_parse? h
  obtain ⟨hcount, hone⟩ := naming name _ hread
  rw [named_start] at hcount
  dsimp only [List.count_nil] at hcount hone
  have := hone (Nat.zero_le _)
  omega

section Matches

variable {text : Array Char} {start stop n : Nat} {captures : Captures} {name : String}

theorem Rounds.not_mem {round : Nat → Nat → Captures → Prop}
    (hround : ∀ start stop captures, round start stop captures → name ∉ captures.map (·.1))
    (h : Rounds round start n stop captures) : name ∉ captures.map (·.1) := by
  induction h with
  | zero => exact List.not_mem_nil
  | succ _ hone ih =>
      rw [List.map_append, List.mem_append, not_or]
      exact ⟨hround _ _ _ hone, ih⟩

/-- Only groups record. -/
theorem Matches.not_mem_of_named (hname : named name regex = 0)
    (h : Matches text regex start stop captures) : name ∉ captures.map (·.1) := by
  induction regex generalizing start stop captures with
  | empty =>
      obtain ⟨-, rfl⟩ := h
      exact List.not_mem_nil
  | one set =>
      obtain ⟨-, -, rfl⟩ := h
      exact List.not_mem_nil
  | assertion kind =>
      obtain ⟨-, -, rfl⟩ := h
      exact List.not_mem_nil
  | seq first second ih ih' =>
      obtain ⟨hfirst, hsecond⟩ := Nat.add_eq_zero_iff.1 hname
      obtain ⟨middle, before, after, hbefore, hafter, rfl⟩ := h
      rw [List.map_append, List.mem_append, not_or]
      exact ⟨ih' hsecond hafter, ih hfirst hbefore⟩
  | alt first second ih ih' =>
      obtain ⟨hfirst, hsecond⟩ := Nat.add_eq_zero_iff.1 hname
      exact h.elim (ih hfirst) (ih' hsecond)
  | many body least most greedy ih =>
      obtain ⟨n, -, -, hrounds⟩ := h
      exact hrounds.not_mem fun _ _ _ => ih hname
  | capture group body ih =>
      obtain ⟨hgroup, hbody⟩ := Nat.add_eq_zero_iff.1 hname
      obtain ⟨inner, hinner, rfl⟩ := h
      rw [List.map_cons, List.mem_cons, not_or]
      refine ⟨?_, ih hbody hinner⟩
      rintro rfl
      rw [if_pos rfl] at hgroup
      cases hgroup

end Matches

end TreeQuery.Regex
