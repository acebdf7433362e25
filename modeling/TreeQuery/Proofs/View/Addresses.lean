/-
Addresses: the entries of a view are told apart by them, and found by them.

# What an address writes

An address is the address of the view's root and, for each segment of a location, a slash, the
name and, unless the entry is the first of its name, its number in brackets. Slashes, brackets
and percent signs of the name are escaped, so the next slash in an address starts the next
segment and the first bracket of a segment its number, whatever the names are. Hence a written
location can be taken apart again (`unmixed_segments`), and the same address under the same root
is the same location.

# What a location says

Locations are made while the table of a view is listed. `Way` reads them off the finished table
instead: from an entry along the links to its parents, with the name of each entry and the number
of siblings of that name listed before it. Every entry has one such way, and it is its location
(`way_iff`). One induction over the tree shows it (`way_of_mem_entriesFrom`), whose invariant is
about siblings: the names the listing has met so far are counted as often as the entries listed
so far have them.
-/
import Mathlib.Data.List.Nodup
import TreeQuery.Proofs.Text.Unmixed
import TreeQuery.Proofs.View.Locations
import TreeQuery.View.Projection

namespace TreeQuery

open Text

-- ============================================================ writing

namespace Segment

/-- The characters that do not stand for themselves. -/
def escaped : List Char := ['%', '/', '[', ']']

theorem escape_of_not_mem {c : Char} (h : c ∉ escaped) : escape c = [c] := by
  simp only [escaped, List.mem_cons, List.not_mem_nil, or_false, not_or] at h
  simp only [escape, h, if_false]

/-- A percent sign and a code of two characters stand for each of them. -/
theorem escape_of_mem {c : Char} (h : c ∈ escaped) :
    ∃ code, escape c = '%' :: code ∧ code.length = 2 := by
  have hcode : ∀ c ∈ escaped, escape c = '%' :: (escape c).tail ∧ (escape c).tail.length = 2 := by
    simp [escaped, escape]
  exact ⟨_, hcode c h⟩

theorem escape_injOn : ∀ c ∈ escaped, ∀ d ∈ escaped, escape c = escape d → c = d := by
  simp [escaped, escape]

theorem unmixed_escape : Unmixed escape fun _ => True := by
  have apart : ∀ {c d : Char} {rest rest' : List Char}, c ∈ escaped → d ∉ escaped →
      escape c ++ rest ≠ escape d ++ rest' := by
    intro c d rest rest' hc hd he
    obtain ⟨code, hcode, -⟩ := escape_of_mem hc
    rw [hcode, escape_of_not_mem hd] at he
    exact hd ((List.cons.inj he).1 ▸ List.mem_cons_self)
  rintro c d rest rest' - - he
  by_cases hc : c ∈ escaped
  · by_cases hd : d ∈ escaped
    · obtain ⟨code, hcode, hlength⟩ := escape_of_mem hc
      obtain ⟨code', hcode', hlength'⟩ := escape_of_mem hd
      have hsame : (escape c).length = (escape d).length := by
        rw [hcode, hcode', List.length_cons, List.length_cons, hlength, hlength']
      obtain ⟨hcodes, hafter⟩ := List.append_inj he hsame
      exact ⟨escape_injOn c hc d hd hcodes, hafter⟩
    · exact absurd he (apart hc hd)
  · by_cases hd : d ∈ escaped
    · exact absurd he.symm (apart hd hc)
    · rw [escape_of_not_mem hc, escape_of_not_mem hd] at he
      exact List.cons.inj he

/-- What is no separator. -/
def isInner (c : Char) : Bool := c != '/' && c != '['

/-- A name goes on up to a separator. -/
theorem unmixed_name : Unmixed (List.flatMap escape) (Ends isInner) := by
  refine unmixed_escape.flatMap (fun c ahead h => ?_) fun _ _ _ => trivial
  by_cases hc : c ∈ escaped
  · obtain ⟨code, hcode, -⟩ := escape_of_mem hc
    rw [hcode] at h
    exact absurd h.of_cons (by decide)
  · rw [escape_of_not_mem hc] at h
    simp only [escaped, List.mem_cons, not_or] at hc
    simpa [isInner, hc] using h.of_cons

/-- The number of a segment as it is written. -/
def number (ordinal : Nat) : List Char :=
  if ordinal = 0 then [] else '[' :: Nat.toDigits 10 ordinal ++ [']']

theorem write_eq (segment : Segment) :
    segment.write = '/' :: (segment.name.toList.flatMap escape ++ number segment.ordinal) := rfl

theorem isDigit_of_mem_digits {n : Nat} {c : Char} (h : c ∈ Nat.toDigits 10 n) :
    c.isDigit = true :=
  Nat.isDigit_of_mem_toDigits (by decide) (by decide) h

theorem digits_inj {m n : Nat} (h : Nat.toDigits 10 m = Nat.toDigits 10 n) : m = n := by
  have hvalue := congrArg (Nat.ofDigitChars 10 · 0) h
  simpa only [Nat.ofDigitChars_ten_toDigits] using hvalue

theorem unmixed_number : Unmixed number (Ends (· != '/')) := by
  have bracket : ∀ {ahead}, ¬ Ends (· != '/') ('[' :: ahead) :=
    fun h => absurd h.of_cons (by decide)
  intro m n rest rest' h h' he
  unfold number at he
  split at he
  · rename_i hm
    split at he
    · rename_i hn
      exact ⟨hm.trans hn.symm, he⟩
    · obtain rfl : rest = _ := he
      exact absurd h bracket
  · split at he
    · obtain rfl : _ = rest' := he
      exact absurd h' bracket
    · simp only [List.cons_append, List.append_assoc, List.nil_append] at he
      obtain ⟨hdigits, hafter⟩ := run_unmixed (fun c => isDigit_of_mem_digits)
        (fun c => isDigit_of_mem_digits) (ends_cons (by decide)) (ends_cons (by decide))
        (List.cons.inj he).2
      exact ⟨digits_inj hdigits, (List.cons.inj hafter).2⟩

theorem ends_number (ordinal : Nat) {ahead : List Char} (h : Ends (· != '/') ahead) :
    Ends isInner (number ordinal ++ ahead) := by
  unfold number
  split
  · exact h.mono fun c hc => (Bool.and_eq_true_iff.1 hc).1
  · exact ends_cons (by decide)

theorem unmixed_segment : Unmixed write (Ends (· != '/')) := by
  rintro ⟨name, ordinal⟩ ⟨name', ordinal'⟩ rest rest' h h' he
  simp only [write_eq, List.cons_append, List.append_assoc] at he
  obtain ⟨hname, hnumber⟩ := unmixed_name _ _ _ _ (ends_number ordinal h) (ends_number ordinal' h')
    (List.cons.inj he).2
  obtain ⟨rfl, hafter⟩ := unmixed_number _ _ _ _ h h' hnumber
  obtain rfl := String.toList_injective hname
  exact ⟨rfl, hafter⟩

/-- Segments go on up to the end of the address. -/
theorem unmixed_segments : Unmixed (List.flatMap write) (· = []) := by
  refine unmixed_segment.flatMap (fun segment ahead h => by cases h) fun segments ahead h => ?_
  rw [h, List.append_nil]
  cases segments with
  | nil => exact ends_nil
  | cons segment segments => exact ends_cons (by decide)

end Segment

theorem Location.address_inj {root : String} {location location' : Location} :
    location.address root = location'.address root ↔ location = location' := by
  constructor
  · intro h
    have hwritten := List.append_cancel_left (String.ofList_injective h)
    exact Segment.unmixed_segments.injective rfl hwritten
  · exact congrArg (Location.address root)

/-- The second `a` is not taken for a first `a[1]`. -/
example : Location.address "/d" [⟨"a", 1⟩] = "/d/a[1]" ∧
    Location.address "/d" [⟨"a[1]", 0⟩] = "/d/a%5B1%5D" := by
  decide +kernel

namespace View

-- =============================================================== ways

/-- How many of the entries at some indices have a name. -/
def namesakes (table : List Entry) (name : String) (indices : List Nat) : Nat :=
  indices.countP fun index => table[index]?.any (·.member.name == name)

/-- The way from the root of a table to an entry, read off the links between the entries: each
step is the name of an entry and how many of its parent's children before it have it too. -/
inductive Way (table : List Entry) : Nat → Location → Prop
  | root {index : Nat} {entry : Entry} :
      table[index]? = some entry → entry.parent = none → Way table index []
  | child {index parent : Nat} {entry above : Entry} {way : Location} :
      table[index]? = some entry → entry.parent = some parent →
      table[parent]? = some above → index ∈ above.children → Way table parent way →
      Way table index (way ++ [⟨entry.member.name,
        namesakes table entry.member.name (above.children.takeWhile (· != index))⟩])

/-- The links lead one way only. -/
theorem Way.unique {table : List Entry} {index : Nat} {way way' : Location}
    (h : Way table index way) (h' : Way table index way') : way = way' := by
  induction h generalizing way' with
  | root he hp =>
      cases h' with
      | root => rfl
      | child he' hp' =>
          obtain rfl := Option.some.inj (he.symm.trans he')
          cases hp.symm.trans hp'
  | child he hp ha _ _ ih =>
      cases h' with
      | root he' hp' =>
          obtain rfl := Option.some.inj (he.symm.trans he')
          cases hp.symm.trans hp'
      | child he' hp' ha' _ hw' =>
          obtain rfl := Option.some.inj (he.symm.trans he')
          obtain rfl := Option.some.inj (hp.symm.trans hp')
          obtain rfl := Option.some.inj (ha.symm.trans ha')
          rw [ih hw']

theorem namesakes_concat {table : List Entry} {index : Nat} {entry : Entry}
    (he : table[index]? = some entry) (name : String) (before : List Nat) :
    namesakes table name (before ++ [index]) =
      namesakes table name before + if entry.member.name == name then 1 else 0 := by
  unfold namesakes
  rw [List.countP_append, List.countP_singleton, he, Option.any_some]

/-- One step on, to a child that is listed after those at the indices in `before`. -/
theorem Way.next {table : List Entry} {parent index : Nat} {above entry : Entry}
    {before after : List Nat} {way : Location} (hw : Way table parent way)
    (ha : table[parent]? = some above) (hc : above.children = before ++ index :: after)
    (hb : ∀ b ∈ before, b < index) (he : table[index]? = some entry)
    (hp : entry.parent = some parent) :
    Way table index
      (way ++ [⟨entry.member.name, namesakes table entry.member.name before⟩]) := by
  have htaken : above.children.takeWhile (· != index) = before := by
    rw [hc, List.takeWhile_append_of_pos fun b hmem => bne_iff_ne.2 (Nat.ne_of_lt (hb b hmem))]
    simp
  have hfound : index ∈ above.children := by simp [hc]
  have hstep := Way.child he hp ha hfound hw
  rw [htaken] at hstep
  exact hstep

/-- Where a list of entries stands in a table. -/
def Stands (table entries : List Entry) (index : Nat) : Prop :=
  ∀ listed ∈ entries.zipIdx index, table[listed.2]? = some listed.1

mutual

theorem length_entriesFrom (parent : Option Nat) (index : Nat) (location : Location)
    (tree : View) : (entriesFrom parent index location tree).length = tree.size := by
  match tree with
  | .node member children =>
      rw [entriesFrom, List.length_cons, length_entriesOfAll, Rose.size]

theorem length_entriesOfAll (parent index : Nat) (location : Location) (earlier : List String)
    (trees : List View) :
    (entriesOfAll parent index location earlier trees).length = Rose.sizeAll trees := by
  match trees with
  | [] => rfl
  | tree :: rest =>
      rw [entriesOfAll, List.length_append, length_entriesFrom, length_entriesOfAll, Rose.sizeAll]

end

/-- The first entry of a tree is its root's. -/
theorem exists_root_entry (parent : Option Nat) (index : Nat) (location : Location) (tree : View) :
    ∃ entry below, entriesFrom parent index location tree = entry :: below ∧
      entry.parent = parent ∧ entry.member = tree.label := by
  cases tree with
  | node member children => exact ⟨_, _, rfl, rfl, rfl⟩

mutual

/-- Where the entries of a tree stand in a table, the ways to them are their locations if the
way to the first is. -/
theorem way_of_mem_entriesFrom {table : List Entry} {parent : Option Nat} {index : Nat}
    {location : Location} {tree : View} {listed : Entry × Nat}
    (hs : Stands table (entriesFrom parent index location tree) index)
    (hw : Way table index location)
    (h : listed ∈ (entriesFrom parent index location tree).zipIdx index) :
    Way table listed.2 listed.1.location := by
  match tree, hs, h with
  | .node member children, hs, h =>
      rw [entriesFrom, Stands, List.zipIdx_cons, List.forall_mem_cons] at hs
      rw [entriesFrom, List.zipIdx_cons] at h
      rcases List.mem_cons.1 h with rfl | h
      · exact hw
      · exact way_of_mem_entriesOfAll hs.2 hw hs.1 (List.nil_append _).symm
          (fun b hb => by cases hb) (fun name => rfl) h

/-- The children still to be listed follow those at the indices in `before`, whose names are the
earlier ones. -/
theorem way_of_mem_entriesOfAll {table : List Entry} {parent index : Nat}
    {location : Location} {earlier : List String} {trees : List View} {above : Entry}
    {before : List Nat} {listed : Entry × Nat}
    (hs : Stands table (entriesOfAll parent index location earlier trees) index)
    (hw : Way table parent location) (ha : table[parent]? = some above)
    (hc : above.children = before ++ indicesFrom index trees) (hb : ∀ b ∈ before, b < index)
    (hn : ∀ name, namesakes table name before = earlier.count name)
    (h : listed ∈ (entriesOfAll parent index location earlier trees).zipIdx index) :
    Way table listed.2 listed.1.location := by
  match trees, hs, hc, h with
  | tree :: rest, hs, hc, h =>
      rw [entriesOfAll, List.zipIdx_append, length_entriesFrom] at h
      rw [entriesOfAll, Stands, List.zipIdx_append, length_entriesFrom,
        List.forall_mem_append] at hs
      obtain ⟨entry, below, hfirst, hparent, hmember⟩ :=
        exists_root_entry (some parent) index
          (location ++ [⟨tree.label.name, earlier.count tree.label.name⟩]) tree
      have he : table[index]? = some entry := by
        refine hs.1 (entry, index) ?_
        rw [hfirst, List.zipIdx_cons]
        exact List.mem_cons_self
      have hname : entry.member.name = tree.label.name := by rw [hmember]
      rcases List.mem_append.1 h with h | h
      · have hstep := hw.next ha hc hb he hparent
        rw [hname, hn] at hstep
        exact way_of_mem_entriesFrom hs.1 hstep h
      · have hmet : ∀ name, namesakes table name (before ++ [index]) =
            (tree.label.name :: earlier).count name := by
          intro name
          rw [namesakes_concat he, hn, hname, List.count_cons]
        have hlast : above.children =
            (before ++ [index]) ++ indicesFrom (index + tree.size) rest := by
          rw [hc, List.append_assoc]
          rfl
        have hlt : ∀ b ∈ before ++ [index], b < index + tree.size := by
          intro b hmem
          have hpos := tree.size_pos
          rcases List.mem_append.1 hmem with hmem | hmem
          · have hle := hb b hmem
            omega
          · obtain rfl := List.mem_singleton.1 hmem
            omega
        exact way_of_mem_entriesOfAll hs.2 hw ha hlast hlt hmet h

end

/-- The way to an entry of a view is its location. -/
theorem way_iff {view : View} {index : Fin view.entries.length} {way : Location} :
    Way view.entries index way ↔ way = view.entries[index].location := by
  have hs : Stands view.entries view.entries 0 := by
    rintro ⟨entry, i⟩ h
    exact List.mem_zipIdx_iff_getElem?.1 h
  have hroot : Way view.entries 0 [] := by
    obtain ⟨entry, below, hfirst, hparent, -⟩ := exists_root_entry none 0 [] view
    have he : view.entries[0]? = some entry := by
      rw [entries, hfirst]
      rfl
    exact Way.root he hparent
  have hlisted : (view.entries[index], index.val) ∈ view.entries.zipIdx 0 :=
    List.mem_zipIdx_iff_getElem?.2 (List.getElem?_eq_getElem index.isLt)
  have located : Way view.entries index view.entries[index].location :=
    way_of_mem_entriesFrom hs hroot hlisted
  constructor
  · intro h
    exact h.unique located
  · rintro rfl
    exact located

-- ========================================================== addresses

mutual

/-- No two entries of a tree are located in the same place. -/
theorem nodup_locations_entriesFrom (parent : Option Nat) (index : Nat) (location : Location)
    (tree : View) : ((entriesFrom parent index location tree).map Entry.location).Nodup := by
  match tree with
  | .node member children =>
      rw [entriesFrom, List.map_cons, List.nodup_cons]
      refine ⟨?_, nodup_locations_entriesOfAll _ _ _ _ _⟩
      intro h
      obtain ⟨entry, hmem, he⟩ := List.mem_map.1 h
      obtain ⟨segment, child, below, part, -, hl, -, -⟩ := location_of_mem_entriesOfAll hmem
      have hlength := congrArg List.length (hl.symm.trans he)
      simp at hlength

theorem nodup_locations_entriesOfAll (parent index : Nat) (location : Location)
    (earlier : List String) (trees : List View) :
    ((entriesOfAll parent index location earlier trees).map Entry.location).Nodup := by
  match trees with
  | [] => exact List.nodup_nil
  | tree :: rest =>
      rw [entriesOfAll, List.map_append, List.nodup_append]
      refine ⟨nodup_locations_entriesFrom _ _ _ _, nodup_locations_entriesOfAll _ _ _ _ _, ?_⟩
      -- A later sibling of the same name has a number that counts this one too.
      rintro _ h _ h' rfl
      obtain ⟨entry, hmem, he⟩ := List.mem_map.1 h
      obtain ⟨entry', hmem', he'⟩ := List.mem_map.1 h'
      obtain ⟨below, part, hl, -, -⟩ := location_of_mem_entriesFrom hmem
      obtain ⟨segment, child, below', part', hc, hl', -, -⟩ := location_of_mem_entriesOfAll hmem'
      rw [he, List.append_assoc] at hl
      rw [he', hl] at hl'
      obtain ⟨rfl, -⟩ := List.cons.inj (List.append_cancel_left hl')
      have hle := count_le_ordinal hc
      rw [List.count_cons_self] at hle
      exact Nat.not_succ_le_self _ hle

end

/-- The address of an entry, under the address of the root. -/
def addressAt (view : View) (root : String) (index : Fin view.entries.length) : String :=
  view.entries[index].location.address root

theorem addressAt_inj {view view' : View} {root : String} {i : Fin view.entries.length}
    {j : Fin view'.entries.length} :
    view.addressAt root i = view'.addressAt root j ↔
      view.entries[i].location = view'.entries[j].location :=
  Location.address_inj

theorem addressAt_injective {view : View} {root : String} {i j : Fin view.entries.length}
    (h : view.addressAt root i = view.addressAt root j) : i = j := by
  have hnodup : (view.entries.map Entry.location).Nodup := nodup_locations_entriesFrom _ _ _ _
  have hi : i.val < (view.entries.map Entry.location).length := by simp
  have hj : j.val < (view.entries.map Entry.location).length := by simp
  have hsame : (view.entries.map Entry.location)[i.val] =
      (view.entries.map Entry.location)[j.val] := by
    rw [List.getElem_map, List.getElem_map]
    exact addressAt_inj.1 h
  exact Fin.ext (hnodup.getElem_inj_iff.1 hsame)

/-- The address of an entry leads back to it. -/
theorem indexOf?_addressAt (view : View) (root : String) (index : Fin view.entries.length) :
    view.indexOf? root (view.addressAt root index) = some index.val := by
  rw [indexOf?, List.findIdx?_eq_some_iff_getElem]
  refine ⟨index.isLt, decide_eq_true rfl, ?_⟩
  intro j hj hsame
  have hfirst : (⟨j, Nat.lt_trans hj index.isLt⟩ : Fin view.entries.length) = index :=
    addressAt_injective (of_decide_eq_true hsame)
  exact Nat.ne_of_lt hj (congrArg Fin.val hfirst)

/-- The entries of the view of a source have addresses of their own, and each is found by its
address. The address of an entry is that of the root followed by its way, written so that it can
be read back; so in the views of any two sources the same address means the same way. -/
theorem addresses_of_project (root : String) :
    (∀ (language : Language) (source : String) (tree : SyntaxTree),
      let view := project language source tree
      (∀ i j : Fin view.entries.length,
        view.addressAt root i = view.addressAt root j → i = j) ∧
      (∀ i : Fin view.entries.length,
        view.indexOf? root (view.addressAt root i) = some i.val) ∧
      ∀ i : Fin view.entries.length, ∃ way,
        (∀ other, Way view.entries i other ↔ other = way) ∧
        (view.addressAt root i).toList = root.toList ++ way.flatMap Segment.write) ∧
    (∀ way way' : Location,
      way.flatMap Segment.write = way'.flatMap Segment.write → way = way') ∧
    ∀ (language language' : Language) (source source' : String) (tree tree' : SyntaxTree),
      let view := project language source tree
      let view' := project language' source' tree'
      ∀ (i : Fin view.entries.length) (j : Fin view'.entries.length) (way way' : Location),
        Way view.entries i way → Way view'.entries j way' →
        (view.addressAt root i = view'.addressAt root j ↔ way = way') := by
  refine ⟨?_, ?_, ?_⟩
  · intro language source tree view
    refine ⟨fun i j => addressAt_injective, view.indexOf?_addressAt root, ?_⟩
    intro i
    exact ⟨view.entries[i].location, fun other => way_iff, String.toList_ofList⟩
  · intro way way' h
    exact Segment.unmixed_segments.injective rfl h
  · intro language language' source source' tree tree' view view' i j way way' h h'
    obtain rfl := way_iff.1 h
    obtain rfl := way_iff.1 h'
    exact addressAt_inj

end View

end TreeQuery
