/-
Quoted scalars of YAML, and the names they give.

# Quotes

Between double quotes a text is written with a backslash before each backslash and double quote, and
with its newlines and tabs as two characters; between single quotes each single quote is doubled.
Reading takes off the two quotes that enclose what is written, and no others
(`withoutQuotes_enclosed`), then undoes the writing from left to right. It takes just what was
written for a character to read the character back, whatever follows, so both inductions go over
the text that was written (`unescape_escaped`, `undouble_doubled`).

# Names

The pair of a mapping goes by the text of its key. Whatever is made of the elements of contents that
the view goes into (`Shown`) has a row (`exists_entry_of_shown`), and so the row of a pair whose key
is in quotes is named by the text that was put in quotes (`named_of_quoted`).
-/
import TreeQuery.Proofs.View.Elements

namespace TreeQuery.View

namespace Yaml

variable {source text : String} {tree inner pair scalar : SyntaxTree}

-- ============================================================== writing

/-- How a character is written between double quotes. -/
def escaped (c : Char) : List Char :=
  if c = '\\' ∨ c = '"' then ['\\', c]
  else if c = '\n' then ['\\', 'n']
  else if c = '\t' then ['\\', 't']
  else [c]

/-- The text in double quotes. -/
def doubleQuoted (text : String) : String :=
  String.ofList ('"' :: text.toList.flatMap escaped ++ ['"'])

/-- How a character is written between single quotes. -/
def doubled (c : Char) : List Char := if c = '\'' then ['\'', '\''] else [c]

/-- The text in single quotes. -/
def singleQuoted (text : String) : String :=
  String.ofList ('\'' :: text.toList.flatMap doubled ++ ['\''])

-- ============================================================== reading

/-- Only the quotes that enclose a text are taken off it. -/
theorem withoutQuotes_enclosed (quote : Char) (text : List Char) :
    withoutQuotes quote (quote :: text ++ [quote]) = text := by
  rw [List.cons_append, withoutQuotes, if_pos ⟨rfl, List.getLast?_concat⟩, List.dropLast_concat]

theorem unescape_cons {c : Char} (h : c ≠ '\\') (rest : List Char) :
    unescape (c :: rest) = c :: unescape rest := by
  rw [unescape]
  · rintro rfl
    exact absurd rfl h
  · rintro _ _ rfl
    exact absurd rfl h

/-- Each character is read back from how it is written. -/
theorem unescape_append (c : Char) (rest : List Char) :
    unescape (escaped c ++ rest) = c :: unescape rest := by
  unfold escaped
  split
  · rename_i h
    rcases h with rfl | rfl <;> rfl
  · rename_i h
    split
    · rename_i hn
      rw [hn]
      rfl
    · split
      · rename_i ht
        rw [ht]
        rfl
      · exact unescape_cons (fun he => h (.inl he)) rest

theorem unescape_escaped (text : List Char) : unescape (text.flatMap escaped) = text := by
  induction text with
  | nil => rfl
  | cons c text ih => rw [List.flatMap_cons, unescape_append, ih]

theorem undouble_cons {c : Char} (h : c ≠ '\'') (rest : List Char) :
    undouble (c :: rest) = c :: undouble rest := by
  rw [undouble]
  rintro _ rfl
  exact absurd rfl h

theorem undouble_append (c : Char) (rest : List Char) :
    undouble (doubled c ++ rest) = c :: undouble rest := by
  unfold doubled
  split
  · rename_i h
    rw [h]
    rfl
  · rename_i h
    exact undouble_cons h rest

theorem undouble_doubled (text : List Char) : undouble (text.flatMap doubled) = text := by
  induction text with
  | nil => rfl
  | cons c text ih => rw [List.flatMap_cons, undouble_append, ih]

theorem unquote_doubleQuoted (text : String) :
    unquote "double_quote_scalar" (doubleQuoted text) = text := by
  unfold unquote doubleQuoted
  rw [String.toList_ofList]
  dsimp only
  rw [if_pos rfl, withoutQuotes_enclosed, unescape_escaped, String.ofList_toList]

theorem unquote_singleQuoted (text : String) :
    unquote "single_quote_scalar" (singleQuoted text) = text := by
  unfold unquote singleQuoted
  rw [String.toList_ofList]
  dsimp only
  rw [if_neg (by decide), if_pos rfl, withoutQuotes_enclosed, undouble_doubled,
    String.ofList_toList]

-- ================================================================ names

/-- A scalar of the source is the text in quotes. -/
inductive Quotes (source : String) (scalar : SyntaxTree) (text : String) : Prop
  | double : SyntaxTree.kind scalar = "double_quote_scalar" →
      SyntaxTree.text scalar source = doubleQuoted text → Quotes source scalar text
  | single : SyntaxTree.kind scalar = "single_quote_scalar" →
      SyntaxTree.text scalar source = singleQuoted text → Quotes source scalar text

/-- What is in the quotes is read. -/
theorem Quotes.unquote (h : Quotes source scalar text) :
    Yaml.unquote (SyntaxTree.kind scalar) (SyntaxTree.text scalar source) = text := by
  cases h with
  | double hkind htext => rw [hkind, htext, unquote_doubleQuoted]
  | single hkind htext => rw [hkind, htext, unquote_singleQuoted]

theorem name_pairView (source : String) (pair : SyntaxTree) :
    (pairView source pair).label.name = keyText source (pairParts pair).1 := by
  unfold pairView
  dsimp only
  split <;> rfl

theorem key_pairView (source : String) (pair : SyntaxTree) :
    (pairView source pair).label.properties.lookup "key" =
      some (keyText source (pairParts pair).1) := by
  unfold pairView
  dsimp only
  split <;> rfl

theorem keyText_of_quotes {key : Option SyntaxTree} (hkey : key.bind content? = some scalar)
    (h : Quotes source scalar text) : keyText source key = text := by
  rw [keyText, hkey]
  exact h.unquote

-- ----------------------------------------------------------- what is shown

/-- The contents that the view of a stream shows the elements of: those of the documents, and those
of the values that elements of these stand for. -/
inductive Shown (tree : SyntaxTree) : SyntaxTree → Prop
  | document {inner : SyntaxTree} : inner ∈ documentContents tree → Shown tree inner
  | pair {inner pair value below : SyntaxTree} : Shown tree inner →
      shapeOf (SyntaxTree.kind inner) = .map → pair ∈ elements inner →
      (pairParts pair).2 = some value → content? value = some below → Shown tree below
  | item {inner item value below : SyntaxTree} : Shown tree inner →
      shapeOf (SyntaxTree.kind inner) = .sequence → item ∈ elements inner →
      itemValue? item = some value → content? value = some below → Shown tree below

theorem mem_membersOf {value child : SyntaxTree} {view : View} (h : content? value = some inner)
    (hc : child ∈ elements inner)
    (hmade : memberView? source (shapeOf (SyntaxTree.kind inner)) child = some view) :
    view ∈ membersOf source value := by
  rw [membersOf_of_content? h]
  exact List.mem_filterMap.2 ⟨child, (List.mem_filter.1 hc).1, hmade⟩

/-- The elements of a mapping are pairs. -/
theorem memberView?_of_map (source : String) (hmap : shapeOf (SyntaxTree.kind inner) = .map)
    (hpair : pair ∈ elements inner) :
    memberView? source (shapeOf (SyntaxTree.kind inner)) pair = some (pairView source pair) := by
  have helement := (List.mem_filter.1 hpair).2
  rw [hmap] at helement ⊢
  exact if_pos helement

/-- What is made of the elements of shown contents is part of the view. -/
theorem mem_subtrees_of_shown (h : Shown tree inner) {child : SyntaxTree} {view : View}
    (hc : child ∈ elements inner)
    (hmade : memberView? source (shapeOf (SyntaxTree.kind inner)) child = some view) :
    view ∈ (project .yaml source tree).subtrees := by
  induction h generalizing child view with
  | document hinner =>
      have hview : some view ∈ (stream source tree).map some := by
        rw [map_some_stream]
        exact List.mem_flatMap.2 ⟨_, hinner, List.mem_map.2 ⟨child, hc, hmade⟩⟩
      obtain ⟨_, hmem, he⟩ := List.mem_map.1 hview
      obtain rfl := Option.some.inj he
      exact Rose.mem_subtrees_of_child hmem (Rose.self_mem_subtrees _)
  | @pair inner pair value below _ hmap hpair hvalue hbelow ih =>
      have hpart : pairView source pair ∈ (project .yaml source tree).subtrees :=
        ih hpair (memberView?_of_map source hmap hpair)
      refine Rose.subtrees_subset hpart
        (Rose.mem_subtrees_of_child ?_ (Rose.self_mem_subtrees view))
      unfold pairView
      rw [hvalue]
      exact mem_membersOf hbelow hc hmade
  | @item inner item value below _ hsequence hitem hvalue hbelow ih =>
      have hpart : itemView source item value ∈ (project .yaml source tree).subtrees := by
        refine ih hitem ?_
        rw [hsequence, memberView?, hvalue]
        rfl
      exact Rose.subtrees_subset hpart (Rose.mem_subtrees_of_child (mem_membersOf hbelow hc hmade)
        (Rose.self_mem_subtrees view))

/-- So it has a row. -/
theorem exists_entry_of_shown (h : Shown tree inner) {child : SyntaxTree} {view : View}
    (hc : child ∈ elements inner)
    (hmade : memberView? source (shapeOf (SyntaxTree.kind inner)) child = some view) :
    ∃ entry ∈ (project .yaml source tree).entries, entry.member = view.label := by
  have hlabel : view.label ∈ (project .yaml source tree).preorder := by
    rw [← Rose.map_label_subtrees]
    exact List.mem_map_of_mem (mem_subtrees_of_shown h hc hmade)
  rw [← map_member_entries] at hlabel
  exact List.mem_map.1 hlabel

/-- A text in double quotes and a text in single quotes are read as the text, whatever it is. So a
pair of a mapping that the view shows has a row named by the text if its key is the text in
quotes. -/
theorem named_of_quoted :
    (∀ text, unquote "double_quote_scalar" (doubleQuoted text) = text) ∧
    (∀ text, unquote "single_quote_scalar" (singleQuoted text) = text) ∧
    ∀ (source : String) (tree inner pair scalar : SyntaxTree) (text : String), Shown tree inner →
      shapeOf (SyntaxTree.kind inner) = .map → pair ∈ elements inner →
      (pairParts pair).1.bind content? = some scalar → Quotes source scalar text →
      ∃ entry ∈ (project .yaml source tree).entries,
        entry.member = (pairView source pair).label ∧ entry.member.name = text ∧
          entry.member.properties.lookup "key" = some text := by
  refine ⟨unquote_doubleQuoted, unquote_singleQuoted, ?_⟩
  intro source tree inner pair scalar text hshown hmap hpair hkey hquotes
  obtain ⟨entry, hentry, hmember⟩ :=
    exists_entry_of_shown hshown hpair (memberView?_of_map source hmap hpair)
  have htext := keyText_of_quotes hkey hquotes
  refine ⟨entry, hentry, hmember, ?_, ?_⟩
  · rw [hmember, name_pairView, htext]
  · rw [hmember, key_pairView, htext]

-- ============================================================= a sample

/-- A mapping with a key that ends in a backslash. -/
def backslashSource : String := "\"a\\\\\": \"\\\"\"\n"

/-- The key. -/
def backslashScalar : SyntaxTree :=
  plainNode "double_quote_scalar" 0 5
    [tokenNode "\"" 0, plainNode "escape_sequence" 2 4 [], tokenNode "\"" 4]

/-- The pair in its tree. -/
def backslashPair : SyntaxTree :=
  plainNode "block_mapping_pair" 0 11
    [fieldNode .key "flow_node" 0 5 [backslashScalar], tokenNode ":" 5,
      fieldNode .value "flow_node" 7 11 [plainNode "double_quote_scalar" 7 11
        [tokenNode "\"" 7, plainNode "escape_sequence" 8 10 [], tokenNode "\"" 10]]]

def backslashMapping : SyntaxTree := plainNode "block_mapping" 0 12 [backslashPair]

def backslashTree : SyntaxTree :=
  plainNode "stream" 0 12 [plainNode "document" 0 12 [plainNode "block_node" 0 12
    [backslashMapping]]]

/-- The row of the pair is named by the letter and the backslash. -/
theorem named_of_quoted_backslash :
    Shown backslashTree backslashMapping ∧
    shapeOf (SyntaxTree.kind backslashMapping) = .map ∧
    backslashPair ∈ elements backslashMapping ∧
    (pairParts backslashPair).1.bind content? = some backslashScalar ∧
    Quotes backslashSource backslashScalar "a\\" ∧
    ∃ entry ∈ (project .yaml backslashSource backslashTree).entries,
      entry.member = (pairView backslashSource backslashPair).label ∧
        entry.member.name = "a\\" ∧ entry.member.properties.lookup "key" = some "a\\" := by
  have hshown : Shown backslashTree backslashMapping := .document (List.mem_singleton.2 rfl)
  have hpair : backslashPair ∈ elements backslashMapping := List.mem_singleton.2 rfl
  have hquotes : Quotes backslashSource backslashScalar "a\\" :=
    .double rfl (by decide)
  exact ⟨hshown, rfl, hpair, rfl, hquotes,
    named_of_quoted.2.2 _ _ _ _ _ _ hshown rfl hpair rfl hquotes⟩

end Yaml

end TreeQuery.View
