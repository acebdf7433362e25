/-
Places are told apart by their addresses.

# Shapes

Not all places are: what a grammar finds in a file could have the address of a member of a view
of the file, or of another file, for the names of grammars are not escaped. But one expression
does not find both. It goes from directories and files to the views of one language or to the
occurrences of one grammar, from those to the occurrences of another grammar in them, and so on,
and the same way from all places at once. So the places of a result have one shape (`Shape`,
`kinds`): the directories and files, the views of one language, or what one grammar finds in
places of one shape.

# Addresses

Places of one shape with the same address are the same (`Has.eq_of_address`), by induction on the
shape. The names in the path of a file have no slashes, so a path can be read off an address, and
since no file lies below another, also off an address that goes on. Under the same file the
locations are told apart. An occurrence is told from a binding, and its number read, from the
right: an occurrence ends in a bracket, a binding in a word, and what is left of the number, the
name of the grammar and the word is the address of what they were found in.
-/
import TreeQuery.Proofs.Microgrammar.Names
import TreeQuery.Proofs.Project.Files
import TreeQuery.Proofs.Query.Repeated
import TreeQuery.Proofs.Snapshot.Tree
import TreeQuery.Proofs.View.Addresses

namespace TreeQuery

open Text (Ends ends_cons run_unmixed)

-- =============================================================== paths

/-- No part of a list that is split has a separator. -/
theorem not_mem_of_mem_splitOn {α : Type} [BEq α] [LawfulBEq α] {separator : α}
    {xs part : List α} (h : part ∈ xs.splitOn separator) : separator ∉ part := by
  induction xs generalizing part with
  | nil =>
      obtain rfl := List.mem_singleton.1 h
      exact List.not_mem_nil
  | cons x xs ih =>
      rw [List.splitOn_cons_eq_if_modifyHead] at h
      split at h
      · rcases List.mem_cons.1 h with rfl | h
        · exact List.not_mem_nil
        · exact ih h
      · rename_i hx
        cases hparts : xs.splitOn separator with
        | nil => exact absurd hparts (List.splitOn_ne_nil _ _)
        | cons first rest =>
            rw [hparts] at h ih
            rcases List.mem_cons.1 h with rfl | h
            · intro hm
              rcases List.mem_cons.1 hm with he | hm
              · exact hx (beq_iff_eq.2 he.symm)
              · exact ih List.mem_cons_self hm
            · exact ih (List.mem_cons_of_mem _ h)

namespace ProjectPath

/-- The names of the path can be read back from where it stands. -/
def Legible (path : ProjectPath) : Prop := ∀ name ∈ path, name ≠ "" ∧ '/' ∉ name.toList

theorem legible_of_parse? {text : String} {path : ProjectPath} (h : parse? text = some path) :
    path.Legible := by
  unfold parse? at h
  dsimp only at h
  split at h
  · rename_i hnames
    obtain rfl := Option.some.inj h
    intro name hn
    have hname : isName name = true := List.all_eq_true.1 hnames name hn
    obtain ⟨part, hpart, rfl⟩ := List.mem_map.1 hn
    refine ⟨?_, ?_⟩
    · rintro he
      rw [he] at hname
      exact absurd hname (by decide)
    · rw [String.toList_ofList]
      exact not_mem_of_mem_splitOn hpart
  · cases h

variable {p q : ProjectPath}

theorem Legible.above (h : q.Legible) (hp : p <+: q) : p.Legible :=
  fun name hn => h name (hp.subset hn)

theorem toList_address (path : ProjectPath) :
    (address path).toList = '/' :: ['/'].intercalate (path.map String.toList) := by
  unfold address write
  rw [String.toList_append, String.toList_intercalate]
  rfl

/-- Split at the slashes, an address is the names after an empty part. -/
theorem splitOn_address (h : p.Legible) (nonempty : p ≠ []) :
    (address p).toList.splitOn '/' = [] :: p.map String.toList := by
  have hnames : ∀ part ∈ p.map String.toList, '/' ∉ part := by
    intro part hpart
    obtain ⟨name, hn, rfl⟩ := List.mem_map.1 hpart
    exact (h name hn).2
  rw [toList_address, List.splitOn_cons_eq_if_modifyHead, if_pos (beq_iff_eq.2 rfl),
    List.splitOn_intercalate '/' hnames fun he => nonempty (List.map_eq_nil_iff.1 he)]

theorem map_toList_inj : p.map String.toList = q.map String.toList ↔ p = q :=
  (List.map_injective_iff.2 fun _ _ h => String.toList_injective h).eq_iff

/-- Only the root stands at a slash. -/
theorem address_root_ne (h : p.Legible) (nonempty : p ≠ []) : address p ≠ address [] := by
  intro he
  have hsplit := splitOn_address h nonempty
  rw [he] at hsplit
  obtain ⟨name, rest, rfl⟩ := List.exists_cons_of_ne_nil nonempty
  have hempty : name.toList = [] := (List.cons.inj (List.cons.inj hsplit).2).1.symm
  exact (h name List.mem_cons_self).1 (String.toList_injective hempty)

theorem address_inj (hp : p.Legible) (hq : q.Legible) (h : address p = address q) : p = q := by
  by_cases hpe : p = []
  · by_cases hqe : q = []
    · rw [hpe, hqe]
    · exact absurd (by rw [← h, hpe]) (address_root_ne hq hqe)
  · by_cases hqe : q = []
    · exact absurd (by rw [h, hqe]) (address_root_ne hp hpe)
    · have hnames : ([] : List Char) :: p.map String.toList = [] :: q.map String.toList := by
        rw [← splitOn_address hp hpe, h, splitOn_address hq hqe]
      exact map_toList_inj.1 (List.cons.inj hnames).2

/-- Addresses that go on after a slash say which of two paths lies above the other. -/
theorem prefix_or_prefix_of_address (hp : p.Legible) (hq : q.Legible) (hpe : p ≠ []) (hqe : q ≠ [])
    {rest rest' : List Char}
    (h : (address p).toList ++ '/' :: rest = (address q).toList ++ '/' :: rest') :
    p <+: q ∨ q <+: p := by
  have hsplit := congrArg (List.splitOn '/') h
  rw [List.splitOn_append_cons_self, List.splitOn_append_cons_self, splitOn_address hp hpe,
    splitOn_address hq hqe] at hsplit
  have hnames := (List.cons.inj hsplit).2
  have hinjective : Function.Injective String.toList := fun _ _ => String.toList_injective
  rw [← List.prefix_map_iff_of_injective hinjective, ← List.prefix_map_iff_of_injective hinjective]
  exact List.prefix_or_prefix_of_prefix ⟨_, hnames⟩ ⟨_, rfl⟩

end ProjectPath

-- ========================================================= occurrences

namespace TextNode

open Microgrammar (IsWord isBindingPart)

variable {grammar : Microgrammar} {context context' : String} {index index' : Nat}

theorem toList_occurrenceAddress (context : String) (grammar : Microgrammar) (index : Nat) :
    (occurrenceAddress context grammar index).toList =
      context.toList ++ ('/' :: grammar.name.toList) ++ ['('] ++ [')'] ++
        Segment.number index := by
  have hnumber : (if index = 0 then "" else "[" ++ toString index ++ "]").toList =
      Segment.number index := by
    unfold Segment.number
    split
    · rfl
    · simp only [Nat.toString_eq_ofList_toDigits, String.toList_append, String.toList_ofList]
      rfl
  unfold occurrenceAddress
  simp only [String.toList_append, hnumber, List.append_assoc]
  rfl

theorem reverse_number {index : Nat} (h : index ≠ 0) :
    (Segment.number index).reverse = ']' :: ((Nat.toDigits 10 index).reverse ++ ['[']) := by
  unfold Segment.number
  rw [if_neg h, List.reverse_append, ← List.reverse_cons]
  exact List.singleton_append

/-- A number at the end, after a bracket, can be read from the right. -/
theorem number_inj {xs ys : List Char} {i j : Nat}
    (h : xs ++ [')'] ++ Segment.number i = ys ++ [')'] ++ Segment.number j) : xs = ys ∧ i = j := by
  have hzero : Segment.number 0 = [] := rfl
  have hreverse := congrArg List.reverse h
  simp only [List.reverse_append, List.reverse_singleton] at hreverse
  have digits : ∀ n, ∀ c ∈ (Nat.toDigits 10 n).reverse, c.isDigit = true := fun n c hc =>
    Segment.isDigit_of_mem_digits (List.mem_reverse.1 hc)
  by_cases hi : i = 0
  · by_cases hj : j = 0
    · subst hi hj
      rw [hzero, List.append_nil, List.append_nil] at h
      exact ⟨List.append_cancel_right h, rfl⟩
    · rw [hi, hzero, reverse_number hj] at hreverse
      exact absurd (List.cons.inj hreverse).1 (by decide)
  · by_cases hj : j = 0
    · rw [hj, hzero, reverse_number hi] at hreverse
      exact absurd (List.cons.inj hreverse).1 (by decide)
    · simp only [reverse_number hi, reverse_number hj, List.cons_append, List.append_assoc,
        List.nil_append] at hreverse
      obtain ⟨hdigits, hrest⟩ := run_unmixed (digits i) (digits j) (ends_cons (by decide))
        (ends_cons (by decide)) (List.cons.inj hreverse).2
      exact ⟨List.reverse_inj.1 (List.cons.inj (List.cons.inj hrest).2).2,
        Segment.digits_inj (List.reverse_inj.1 hdigits)⟩

/-- The address of an occurrence says where it was found and its number. -/
theorem occurrenceAddress_inj
    (h : occurrenceAddress context grammar index = occurrenceAddress context' grammar index') :
    context = context' ∧ index = index' := by
  have hlist := congrArg String.toList h
  rw [toList_occurrenceAddress, toList_occurrenceAddress] at hlist
  obtain ⟨hbefore, hindex⟩ := number_inj hlist
  exact ⟨String.toList_injective (List.append_cancel_right (List.append_cancel_right hbefore)),
    hindex⟩

/-- What comes before a word, from the right. -/
theorem reverse_word (address word : String) : (address ++ "/" ++ word).toList.reverse =
    word.toList.reverse ++ '/' :: address.toList.reverse := by
  rw [String.toList_append, String.toList_append, List.reverse_append, List.reverse_append]
  rfl

theorem IsWord.reverse {word : List Char} (h : IsWord word) :
    ∀ c ∈ word.reverse, isBindingPart c = true := fun c hc => h.2 c (List.mem_reverse.1 hc)

/-- A word after a slash can be read from the right. -/
theorem word_inj {address address' word word' : String} (hw : IsWord word.toList)
    (hw' : IsWord word'.toList) (h : address ++ "/" ++ word = address' ++ "/" ++ word') :
    address = address' ∧ word = word' := by
  have hreverse := congrArg (fun text => text.toList.reverse) h
  simp only [reverse_word] at hreverse
  obtain ⟨hwords, hrest⟩ := run_unmixed (IsWord.reverse hw) (IsWord.reverse hw')
    (ends_cons (by decide)) (ends_cons (by decide)) hreverse
  exact ⟨String.toList_injective (List.reverse_inj.1 (List.cons.inj hrest).2),
    String.toList_injective (List.reverse_inj.1 hwords)⟩

/-- An occurrence does not end in a word. -/
theorem occurrenceAddress_ne {address word : String} (hw : IsWord word.toList) :
    occurrenceAddress context grammar index ≠ address ++ "/" ++ word := by
  intro h
  have hreverse := congrArg (fun text => text.toList.reverse) h
  simp only [reverse_word, toList_occurrenceAddress, List.reverse_append,
    List.reverse_singleton] at hreverse
  obtain ⟨last, before, hlast⟩ := List.exists_cons_of_ne_nil
    (fun he => hw.1 (List.reverse_eq_nil_iff.1 he) : word.toList.reverse ≠ [])
  have hpart : isBindingPart last = true :=
    IsWord.reverse hw last (hlast ▸ List.mem_cons_self)
  rw [hlast] at hreverse
  by_cases hindex : index = 0
  · rw [hindex] at hreverse
    obtain rfl : ')' = last := (List.cons.inj hreverse).1
    exact absurd hpart (by decide)
  · rw [reverse_number hindex] at hreverse
    obtain rfl : ']' = last := (List.cons.inj hreverse).1
    exact absurd hpart (by decide)

end TextNode

-- ============================================================== shapes

/-- A type that is a microgrammar has been compiled. -/
def BuiltIn.Compiled : BuiltIn → Prop
  | .microgrammar grammar => ∃ text submatchers,
      Microgrammar.compile grammar.name text submatchers = .ok grammar
  | _ => True

namespace Snapshot

/-- What the places of a result have in common. -/
inductive Shape where
  /-- Directories and files. -/
  | tree
  /-- Members of the views of a language. -/
  | view (language : Language)
  /-- Occurrences of a grammar, and their bindings, in the texts of places of a shape. -/
  | within (grammar : Microgrammar) (context : Shape)

variable {grammars : Grammars} (S : Snapshot grammars)

/-- There is a place of a shape. -/
inductive Has : Shape → Place → Prop
  | directory {path : ProjectPath} : path ∉ S.texts.map (·.1) → path.Legible →
      Has .tree (.directory path)
  | file {path : ProjectPath} : path ∈ S.texts.map (·.1) → Has .tree (.text (.file path))
  | member {file : ProjectPath} {language : Language} (location : Location) :
      file ∈ S.texts.map (·.1) → Has (.view language) (.text (.member file language location))
  | occurrence {grammar : Microgrammar} {shape : Shape} {context : TextPlace} {index : Nat}
      {seen : Occurrence} : Has shape (.text context) →
      (grammar.scan (S.value context))[index]? = some seen →
      (∀ capture ∈ seen.captures, Microgrammar.IsWord capture.1.toList) →
      Has (.within grammar shape) (.text (.occurrence grammar context index seen))
  | binding {grammar : Microgrammar} {shape : Shape} {context : TextPlace} {index : Nat}
      {seen : Occurrence} {name : String} : Has shape (.text context) →
      (grammar.scan (S.value context))[index]? = some seen →
      Microgrammar.IsWord name.toList →
      Has (.within grammar shape) (.text (.binding grammar context index seen name))

/-- The paths of the files can be told apart, and their names read back. -/
structure Legible (S : Snapshot grammars) : Prop where
  arranged : ProjectPath.Arranged (S.texts.map (·.1))
  legible : ∀ path ∈ S.texts.map (·.1), path.Legible

variable {S}

theorem Legible.has_root (h : S.Legible) : S.Has .tree (.directory []) :=
  .directory (fun hm => (h.arranged.named [] hm).1 rfl) fun _ hn => by cases hn

/-- What is below a place has its shape. -/
theorem Legible.has_children (h : S.Legible) {shape : Shape} {place : Place}
    (hp : S.Has shape place) : ∀ child ∈ S.children place, S.Has shape child := by
  intro child hc
  cases hp with
  | @directory path absent legible =>
      obtain ⟨name, hname, rfl⟩ := List.mem_map.1 hc
      obtain ⟨file, hfile, hbelow⟩ := S.mem_namesBelow.1 hname
      unfold entry
      dsimp only
      split
      · rename_i hsome
        obtain ⟨found, hfound, he⟩ := List.lookup_isSome_iff.1 hsome
        exact .file (List.mem_map.2 ⟨found, hfound, (beq_iff_eq.1 he).symm⟩)
      · rename_i hnone
        refine .directory (fun hm => hnone ?_) ((h.legible file hfile).above hbelow)
        obtain ⟨found, hfound, he⟩ := List.mem_map.1 hm
        exact List.lookup_isSome_iff.2 ⟨found, hfound, beq_iff_eq.2 he.symm⟩
  | file => cases hc
  | @member file language location hm =>
      unfold children at hc
      dsimp only at hc
      split at hc
      · cases hc
      · obtain ⟨below, -, rfl⟩ := List.mem_map.1 hc
        exact .member _ hm
  | occurrence hcontext hseen hwords =>
      obtain ⟨capture, hcapture, rfl⟩ := List.mem_map.1 hc
      exact .binding hcontext hseen (hwords capture hcapture)
  | binding => cases hc

-- =========================================================== addresses

theorem toList_address_member (file : ProjectPath) (language : Language) (location : Location) :
    (Location.address (viewAddress file language) location).toList =
      (ProjectPath.address file).toList ++
        '/' :: (language.viewType.toList ++ ['(', ')'] ++ location.flatMap Segment.write) := by
  unfold Location.address viewAddress
  simp only [String.toList_ofList, String.toList_append, List.append_assoc]
  rfl

/-- Members of views of one language stand apart, also if the views are of different files. -/
theorem Legible.eq_of_member_address (h : S.Legible) {file file' : ProjectPath}
    {language : Language} {location location' : Location} (hm : file ∈ S.texts.map (·.1))
    (hm' : file' ∈ S.texts.map (·.1))
    (he : Location.address (viewAddress file language) location =
      Location.address (viewAddress file' language) location') :
    file = file' ∧ location = location' := by
  have hlist := congrArg String.toList he
  rw [toList_address_member, toList_address_member] at hlist
  have hfiles := ProjectPath.prefix_or_prefix_of_address (h.legible file hm) (h.legible file' hm')
    (h.arranged.named file hm).1 (h.arranged.named file' hm').1 hlist
  obtain rfl : file = file' := by
    by_contra hne
    exact hfiles.elim (h.arranged.not_prefix hm hm' hne)
      (h.arranged.not_prefix hm' hm (Ne.symm hne))
  exact ⟨rfl, Location.address_inj.1 he⟩

theorem Legible.eq_of_tree_address (h : S.Legible) {x y : Place} (hx : S.Has .tree x)
    (hy : S.Has .tree y) (he : x.address = y.address) : x = y := by
  cases hx with
  | directory absent legible =>
      cases hy with
      | directory _ legible' =>
          rw [ProjectPath.address_inj legible legible' he]
      | file hm =>
          obtain rfl := ProjectPath.address_inj legible (h.legible _ hm) he
          exact absurd hm absent
  | file hm =>
      cases hy with
      | directory absent legible =>
          obtain rfl := ProjectPath.address_inj (h.legible _ hm) legible he
          exact absurd hm absent
      | file hm' =>
          rw [ProjectPath.address_inj (h.legible _ hm) (h.legible _ hm') he]

/-- An occurrence is found in its context by its number. -/
theorem eq_of_occurrenceAddress {grammar : Microgrammar} {context context' : TextPlace}
    {index index' : Nat} {seen seen' : Occurrence}
    (apart : context.address = context'.address → Place.text context = .text context')
    (hs : (grammar.scan (S.value context))[index]? = some seen)
    (hs' : (grammar.scan (S.value context'))[index']? = some seen')
    (he : TextNode.occurrenceAddress context.address grammar index =
      TextNode.occurrenceAddress context'.address grammar index') :
    context = context' ∧ index = index' ∧ seen = seen' := by
  obtain ⟨haddress, rfl⟩ := TextNode.occurrenceAddress_inj he
  obtain rfl := Place.text.inj (apart haddress)
  exact ⟨rfl, rfl, Option.some.inj (hs.symm.trans hs')⟩

/-- Places of one shape with the same address are the same. -/
theorem Legible.eq_of_address (h : S.Legible) {shape : Shape} {x y : Place} (hx : S.Has shape x)
    (hy : S.Has shape y) (he : x.address = y.address) : x = y := by
  induction shape generalizing x y with
  | tree => exact h.eq_of_tree_address hx hy he
  | view language =>
      cases hx with
      | member location hm =>
          cases hy with
          | member location' hm' =>
              obtain ⟨rfl, rfl⟩ := h.eq_of_member_address hm hm' he
              rfl
  | within grammar shape ih =>
      -- the last character of an address tells occurrences from bindings
      cases hx with
      | occurrence hc hs hw =>
          cases hy with
          | occurrence hc' hs' hw' =>
              obtain ⟨rfl, rfl, rfl⟩ := eq_of_occurrenceAddress (ih hc hc') hs hs' he
              rfl
          | binding hc' hs' hw' => exact absurd he (TextNode.occurrenceAddress_ne hw')
      | binding hc hs hw =>
          cases hy with
          | occurrence hc' hs' hw' => exact absurd he.symm (TextNode.occurrenceAddress_ne hw)
          | binding hc' hs' hw' =>
              obtain ⟨haddress, rfl⟩ := TextNode.word_inj hw hw' he
              obtain ⟨rfl, rfl, rfl⟩ := eq_of_occurrenceAddress (ih hc hc') hs hs' haddress
              rfl

-- ============================================================== types

/-- A pattern looks into the view of a file of the project. -/
theorem Has.patternScope {shape : Shape} {place : Place} (hp : S.Has shape place)
    {language other : Language} {file : ProjectPath} {location : Location}
    (h : patternScope language place = some (file, other, location)) :
    file ∈ S.texts.map (·.1) ∧ other = language := by
  cases hp with
  | file hm =>
      simp only [Snapshot.patternScope, Option.ite_none_right_eq_some, Option.some.injEq,
        Prod.mk.injEq] at h
      obtain ⟨-, rfl, rfl, -⟩ := h
      exact ⟨hm, rfl⟩
  | member _ hm =>
      simp only [Snapshot.patternScope, Option.ite_none_right_eq_some, Option.some.injEq,
        Prod.mk.injEq] at h
      obtain ⟨rfl, rfl, rfl, -⟩ := h
      exact ⟨hm, rfl⟩
  | directory => cases h
  | occurrence => cases h
  | binding => cases h

/-- What a pattern finds in a view are members of the view. -/
theorem eq_member_of_findPattern {pattern : StructuralPattern} {file : ProjectPath}
    {language : Language} {location : Location} {found : List Place}
    (h : S.findPattern pattern file language location = .ok found) :
    ∀ n ∈ found, ∃ other, n = .text (.member file language other) := by
  unfold findPattern at h
  split at h
  · obtain rfl := Except.ok.inj h
    exact fun n hn => by cases hn
  · split at h
    · cases h
    · obtain rfl := Except.ok.inj h
      intro n hn
      obtain ⟨entry, -, rfl⟩ := List.mem_map.1 hn
      exact ⟨entry.location, rfl⟩

/-- From places of one shape a type finds places of one shape. -/
theorem exists_shape_of_find {type : BuiltIn} (compiled : type.Compiled) (shape : Shape) :
    ∃ other, ∀ place, S.Has shape place → ∀ found, S.find type place = .ok found →
      ∀ n ∈ found, S.Has other n := by
  cases type with
  | language language =>
      refine ⟨.view language, fun place hp found hfound => ?_⟩
      cases hp with
      | file hm =>
          unfold find at hfound
          dsimp only at hfound
          split at hfound
          · obtain rfl := Except.ok.inj hfound
            exact List.forall_mem_singleton.2 (.member [] hm)
          · obtain rfl := Except.ok.inj hfound
            exact fun n hn => by cases hn
      | _ =>
          obtain rfl := Except.ok.inj hfound
          exact fun n hn => by cases hn
  | pattern name pattern =>
      refine ⟨.view pattern.language, fun place hp found hfound => ?_⟩
      unfold find at hfound
      dsimp only at hfound
      split at hfound
      · obtain rfl := Except.ok.inj hfound
        exact fun n hn => by cases hn
      · rename_i hscope
        obtain ⟨hm, rfl⟩ := hp.patternScope hscope
        intro n hn
        obtain ⟨location, rfl⟩ := eq_member_of_findPattern hfound n hn
        exact .member location hm
  | microgrammar grammar =>
      refine ⟨.within grammar shape, fun place hp found hfound => ?_⟩
      obtain ⟨text, submatchers, hcompile⟩ := compiled
      match place, hp with
      | .directory _, _ =>
          obtain rfl := Except.ok.inj hfound
          exact fun n hn => by cases hn
      | .text context, hp =>
          obtain rfl := Except.ok.inj hfound
          intro n hn
          obtain ⟨⟨seen, index⟩, hseen, rfl⟩ := List.mem_map.1 hn
          have hscan := List.mem_zipIdx_iff_getElem?.1 hseen
          exact .occurrence hp hscan fun capture hc =>
            Microgrammar.isWord_of_mem_captures hcompile (List.mem_of_getElem? hscan) hc

/-- All places that an expression finds from the root of a project have one shape. -/
theorem Legible.kinds (h : S.Legible) {types : Query.Registry BuiltIn}
    (compiled : ∀ entry ∈ types.types, entry.2.Compiled) :
    Query.Kinds S.forest (types.map S.provider) S.Has where
  below := fun hp => h.has_children hp
  finds := by
    intro entry he shape
    obtain ⟨known, hknown, rfl⟩ := List.mem_map.1 he
    exact exists_shape_of_find (compiled known hknown) shape

/-- Places that an expression finds from the root are the same if they have the same address. -/
theorem Legible.eq_of_evaluate (h : S.Legible) {types : Query.Registry BuiltIn}
    (compiled : ∀ entry ∈ types.types, entry.2.Compiled) {dedupe : Bool} {expression : String}
    {found : List Place} (hfound : S.evaluate types dedupe expression (.directory []) = .ok found) :
    ∀ x ∈ found, ∀ y ∈ found, x.address = y.address → x = y := by
  unfold evaluate at hfound
  split at hfound
  · cases hfound
  · split at hfound
    · cases hfound
    · rename_i program _ _ _ hrun
      obtain rfl := Except.ok.inj hfound
      obtain ⟨shape, hshape⟩ := (h.kinds compiled).exists_kind_of_evaluate h.has_root hrun
      exact fun x hx y hy => h.eq_of_address (hshape x hx) (hshape y hy)

end Snapshot

end TreeQuery
