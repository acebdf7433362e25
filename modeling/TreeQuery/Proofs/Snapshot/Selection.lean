/-
Expressions that select one place.

# Steps down

From a directory, a step to everything with a name leads to what the directory has there and
nothing else, for its names are all different (`reach_named`). From a member, a step to everything
with a name keeps the children of that name in their order, so that the one with `k` earlier
siblings of its name is at place `k + 1` (`reach_numbered`). Neither asks what the name is.

# Ways down

A file or directory is reached name by name, for no file lies above another (`reachAll_named`), and
a member segment by segment from the root of its view (`reachAll_numbered`). Between the two stands
the step to the view of a file, the only one with a type. Written as expressions such steps are
read back as they are, since a value can be any text and the other parts are names and numbers
(`lexical_named`, `lexical_numbered`).
-/
import TreeQuery.Proofs.Expression.Printing
import TreeQuery.Proofs.Query.Plain
import TreeQuery.Proofs.Snapshot.Tree

namespace TreeQuery

open Expression (Step)

-- =============================================================== steps

namespace Expression.Step

/-- The step `/*[@name='name']`. -/
def named (name : String) : Step := ⟨.child, .any, [.attribute "name" name]⟩

/-- The step `/*[@name='name'][ordinal + 1]`. -/
def numbered (segment : Segment) : Step :=
  ⟨.child, .any, [.attribute "name" segment.name, .position (segment.ordinal + 1)]⟩

/-- The step to the view of a file. -/
def view (language : Language) : Step := ⟨.child, .type language.viewType, []⟩

end Expression.Step

-- ============================================================== texts

namespace Expression

open Grammar

/-- A text of name characters that starts a name is a name. -/
theorem isName_of_all {text : String} {first : Char} {rest : List Char}
    (h : text.toList = first :: rest) (starts : isNameStart first = true)
    (goesOn : rest.all isNamePart = true) : IsName text := by
  have hstarts : Unicode.isAlphabetic first = true ∨ first = '_' := by
    simpa [isNameStart] using starts
  have hgoesOn : ∀ c ∈ rest, Unicode.isAlphanumeric c = true ∨ c = '_' ∨ c = '.' ∨ c = '-' := by
    intro c hc
    have hpart := List.all_eq_true.1 goesOn c hc
    simpa [isNamePart, or_assoc] using hpart
  refine ⟨⟨first, rest, hstarts, hgoesOn⟩, ?_⟩
  rw [Name.text, Name.write, ← h, String.ofList_toList]

theorem isName_name : IsName "name" := isName_of_all rfl (by decide) (by decide)

theorem isName_viewType (language : Language) : IsName language.viewType := by
  cases language with
  | rust => exact isName_of_all rfl (by decide) (by decide)
  | java => exact isName_of_all rfl (by decide) (by decide)
  | scala => exact isName_of_all rfl (by decide) (by decide)
  | python => exact isName_of_all rfl (by decide) (by decide)
  | yaml => exact isName_of_all rfl (by decide) (by decide)

namespace Step

theorem lexical_named (name : String) : (named name).Lexical where
  test := trivial
  predicates := List.forall_mem_singleton.2 isName_name

theorem lexical_numbered {segment : Segment} (h : segment.ordinal + 1 < UInt64.size) :
    (numbered segment).Lexical where
  test := trivial
  predicates := List.forall_mem_cons.2 ⟨isName_name,
    List.forall_mem_singleton.2 ⟨Nat.succ_pos _, h⟩⟩

theorem lexical_view (language : Language) : (view language).Lexical where
  test := isName_viewType language
  predicates := fun _ hp => by cases hp

end Step

/-- The way to a path can be written down, whatever the names are. -/
theorem compile_named {path : ProjectPath} (nonempty : path ≠ []) :
    compile (String.ofList (printSteps (path.map .named))) =
      .ok ⟨String.ofList (printSteps (path.map .named)), path.map .named⟩ := by
  refine compile_printSteps (fun h => nonempty (List.map_eq_nil_iff.1 h)) fun step hs => ?_
  obtain ⟨name, -, rfl⟩ := List.mem_map.1 hs
  exact Step.lexical_named name

/-- So can the way on to a member of a view. -/
theorem compile_numbered (path : ProjectPath) (language : Language) {way : Location}
    (h : ∀ segment ∈ way, segment.ordinal + 1 < UInt64.size) :
    compile (String.ofList (printSteps (path.map .named ++ .view language :: way.map .numbered))) =
      .ok ⟨String.ofList (printSteps (path.map .named ++ .view language :: way.map .numbered)),
        path.map .named ++ .view language :: way.map .numbered⟩ := by
  refine compile_printSteps (by simp) (List.forall_mem_append.2 ⟨fun step hs => ?_,
    List.forall_mem_cons.2 ⟨Step.lexical_view language, fun step hs => ?_⟩⟩)
  · obtain ⟨name, -, rfl⟩ := List.mem_map.1 hs
    exact Step.lexical_named name
  · obtain ⟨segment, hsegment, rfl⟩ := List.mem_map.1 hs
    exact Step.lexical_numbered (h segment hsegment)

end Expression

-- ============================================================ children

namespace View

/-- The child with so many earlier siblings of its name comes after so many children of the name. -/
theorem getElem?_filter_numberedAfter {earlier : List String} {trees : List View} {name : String}
    {place : Nat} {tree : View}
    (h : (⟨name, earlier.count name + place⟩, tree) ∈ numberedAfter earlier trees) :
    ((numberedAfter earlier trees).filter (·.1.name == name))[place]? =
      some (⟨name, earlier.count name + place⟩, tree) := by
  induction trees generalizing earlier place with
  | nil => cases h
  | cons t rest ih =>
      rw [numberedAfter]
      rcases List.mem_cons.1 h with he | h
      · obtain ⟨hsegment, rfl⟩ := Prod.mk.inj he
        obtain ⟨rfl, hplace⟩ := Segment.mk.inj hsegment
        obtain rfl : place = 0 := by omega
        rw [List.filter_cons, if_pos (beq_iff_eq.2 rfl)]
        rfl
      · have hle : (t.label.name :: earlier).count name ≤ earlier.count name + place :=
          count_le_ordinal h
        by_cases hname : t.label.name = name
        · subst hname
          rw [List.count_cons_self] at hle
          obtain ⟨later, rfl⟩ : ∃ later, place = later + 1 := ⟨place - 1, by omega⟩
          have hcount : earlier.count t.label.name + (later + 1) =
              (t.label.name :: earlier).count t.label.name + later := by
            rw [List.count_cons_self]
            omega
          rw [hcount] at h ⊢
          rw [List.filter_cons, if_pos (beq_iff_eq.2 rfl), List.getElem?_cons_succ]
          exact ih h
        · have hcount : (t.label.name :: earlier).count name = earlier.count name :=
            List.count_cons_of_ne hname
          rw [← hcount] at h ⊢
          rw [List.filter_cons_of_neg (by simpa using hname)]
          exact ih h

/-- A member has fewer earlier siblings than there are members before and after it. -/
theorem ordinal_lt_of_mem_numberedAfter {earlier : List String} {trees : List View}
    {segment : Segment} {tree : View} (h : (segment, tree) ∈ numberedAfter earlier trees) :
    segment.ordinal < earlier.length + Rose.sizeAll trees := by
  induction trees generalizing earlier with
  | nil => cases h
  | cons t rest ih =>
      have hpos := t.size_pos
      rcases List.mem_cons.1 h with he | h
      · obtain ⟨rfl, rfl⟩ := Prod.mk.inj he
        have hcount : earlier.count tree.label.name ≤ earlier.length := List.count_le_length
        show earlier.count tree.label.name < earlier.length + (tree.size + Rose.sizeAll rest)
        omega
      · have hlt := ih h
        rw [List.length_cons] at hlt
        show segment.ordinal < earlier.length + (t.size + Rose.sizeAll rest)
        omega

/-- Along a way no member has more earlier siblings than the view has members. -/
theorem ordinal_lt_size {view : View} {way : Location} (h : (view.at? way).isSome) :
    ∀ segment ∈ way, segment.ordinal + 1 ≤ view.size := by
  induction way generalizing view with
  | nil => exact fun _ hs => by cases hs
  | cons segment way ih =>
      rw [at?_cons_eq] at h
      obtain ⟨part, hpart⟩ := Option.isSome_iff_exists.1 h
      obtain ⟨child, hchild, hbelow⟩ := Option.bind_eq_some_iff.1 hpart
      have hmem := mem_of_lookup_eq_some hchild
      have hfirst := ordinal_lt_of_mem_numberedAfter hmem
      have hsmaller := Nat.le_of_lt (Rose.size_lt_of_mem_children (mem_of_mem_numberedAfter hmem).1)
      refine List.forall_mem_cons.2 ⟨?_, fun later hl => ?_⟩
      · obtain ⟨label, trees⟩ := view
        rw [List.length_nil, Nat.zero_add] at hfirst
        exact Nat.succ_le_of_lt (Nat.lt_succ_of_lt hfirst)
      · exact Nat.le_trans (ih (Option.isSome_iff_exists.2 ⟨part, hbelow⟩) later hl) hsmaller

/-- A child is found by its name and its place among those of the name. -/
theorem getElem?_filter_numberedChildren {view child : View} {segment : Segment}
    (h : (segment, child) ∈ view.numberedChildren) :
    (view.numberedChildren.filter (·.1.name == segment.name))[segment.ordinal]? =
      some (segment, child) := by
  have hcount : ([] : List String).count segment.name + segment.ordinal = segment.ordinal :=
    Nat.zero_add _
  have hmem : (⟨segment.name, ([] : List String).count segment.name + segment.ordinal⟩, child) ∈
      numberedAfter [] view.children := by
    rw [hcount]
    exact h
  have hfound := getElem?_filter_numberedAfter hmem
  rw [hcount] at hfound
  exact hfound

end View

namespace Snapshot

open Query (reach reachAll)

variable {grammars : Grammars} (S : Snapshot grammars)

theorem property_entry (directory : ProjectPath) (name : String) :
    S.property (S.entry directory name) "name" = some name := by
  have hlast : (directory ++ [name]).getLast? = some name := List.getLast?_concat
  unfold entry
  dsimp only
  split
  · show some ((directory ++ [name]).getLast?.getD "") = _
    rw [hlast]
    rfl
  · show some ((directory ++ [name]).getLast?.getD S.name) = _
    rw [hlast]
    rfl

/-- A directory has one thing under a name. -/
theorem reach_named {directory : ProjectPath} {name : String}
    (h : name ∈ S.namesBelow directory) :
    reach S.forest (.named name) (.directory directory) = [S.entry directory name] := by
  have hproperty : (fun place => (S.forest.property place "name").run == some name) ∘
      S.entry directory = (· == name) := by
    funext other
    show (S.property (S.entry directory other) "name" == some name) = _
    rw [S.property_entry]
    rfl
  show (((S.namesBelow directory).map (S.entry directory)).filter fun _ => true).filter
    (fun place => (S.forest.property place "name").run == some name) = _
  rw [List.filter_true, List.filter_map, hproperty, List.filter_beq,
    List.count_eq_one_of_mem (S.nodup_namesBelow directory) h]
  rfl

/-- A member has one child of a name at each place among those of the name. -/
theorem reach_numbered {file : ProjectPath} {language : Language} {location : Location}
    {tree child : View} {segment : Segment} (ht : S.tree? file language location = some tree)
    (h : (segment, child) ∈ tree.numberedChildren) :
    reach S.forest (.numbered segment) (.text (.member file language location)) =
      [.text (.member file language (location ++ [segment]))] := by
  have hproperty : ∀ entry ∈ tree.numberedChildren,
      S.property (.text (.member file language (location ++ [entry.1]))) "name" =
        some entry.1.name := by
    rintro ⟨other, part⟩ hpart
    have hmember : S.member file language (location ++ [other]) = part.label := by
      unfold member tree?
      rw [View.at?_child ht hpart]
      rfl
    show Workspace.memberProperty (S.member file language (location ++ [other])) "name" = _
    rw [hmember]
    exact congrArg some (View.mem_of_mem_numberedAfter hpart).2.symm
  show ((((S.children (.text (.member file language location))).filter fun _ => true).filter
    fun place =>
      (S.forest.property place "name").run == some segment.name)[segment.ordinal]?).toList = _
  rw [List.filter_true, S.children_of_tree? ht, List.filter_map]
  have hfilter : tree.numberedChildren.filter ((fun place =>
      (S.forest.property place "name").run == some segment.name) ∘ fun entry =>
        .text (.member file language (location ++ [entry.1]))) =
      tree.numberedChildren.filter (·.1.name == segment.name) := by
    refine List.filter_congr fun entry he => ?_
    show (S.property (.text (.member file language (location ++ [entry.1]))) "name" ==
      some segment.name) = _
    rw [hproperty entry he]
    rfl
  rw [hfilter, List.getElem?_map, View.getElem?_filter_numberedChildren h]
  rfl

-- ================================================================ ways

/-- What is at a path. -/
def placeAt (path : ProjectPath) : Place :=
  if (S.texts.lookup path).isSome then .file path else .directory path

theorem reachAll_cons (forest : Query.Forest Id Place) (step : Step) (steps : List Step)
    (place : Place) : reachAll forest (step :: steps) [place] =
      reachAll forest steps (reach forest step place) := by
  show reachAll forest steps ([place].flatMap (reach forest step)) = _
  rw [List.flatMap_singleton]

theorem placeAt_file {path : ProjectPath} (hm : path ∈ S.texts.map (·.1)) :
    S.placeAt path = .file path := by
  obtain ⟨entry, he, rfl⟩ := List.mem_map.1 hm
  exact if_pos (List.lookup_isSome_iff.2 ⟨entry, he, beq_self_eq_true _⟩)

/-- What a file lies below is a directory. -/
theorem placeAt_above
    (arranged : ProjectPath.Arranged (S.texts.map (·.1)))
    {above path : ProjectPath} (hm : path ∈ S.texts.map (·.1)) (hp : above <+: path)
    (hne : above ≠ path) : S.placeAt above = .directory above := by
  refine if_neg fun hsome => ?_
  obtain ⟨text, htext⟩ := Option.isSome_iff_exists.1 hsome
  have habove : above ∈ S.texts.map (·.1) := List.mem_map_of_mem (mem_of_lookup_eq_some htext)
  exact arranged.not_prefix habove hm hne hp

/-- Name by name from a directory down to a path, at or below which there is a file. -/
theorem reachAll_named
    (arranged : ProjectPath.Arranged (S.texts.map (·.1)))
    {directory path : ProjectPath} {names : List String} (nonempty : names ≠ [])
    (hm : path ∈ S.texts.map (·.1)) (hp : directory ++ names <+: path) :
    reachAll S.forest (names.map .named) [.directory directory] =
      [S.placeAt (directory ++ names)] := by
  induction names generalizing directory with
  | nil => exact absurd rfl nonempty
  | cons name names ih =>
      have hsplit : directory ++ name :: names = directory ++ [name] ++ names := by
        rw [List.append_assoc]
        rfl
      rw [hsplit] at hp ⊢
      have hname : name ∈ S.namesBelow directory :=
        S.mem_namesBelow.2 ⟨path, hm, (List.prefix_append _ _).trans hp⟩
      rw [List.map_cons, reachAll_cons, S.reach_named hname]
      cases names with
      | nil =>
          rw [List.append_nil]
          rfl
      | cons next more =>
          have habove : S.placeAt (directory ++ [name]) = .directory (directory ++ [name]) := by
            refine S.placeAt_above arranged hm ((List.prefix_append _ _).trans hp) ?_
            rintro rfl
            have hle := hp.length_le
            simp at hle
          show reachAll S.forest _ [S.placeAt (directory ++ [name])] = _
          rw [habove]
          exact ih (List.cons_ne_nil _ _) hp

/-- Segment by segment from a member down to another. -/
theorem reachAll_numbered {file : ProjectPath} {language : Language} {location below : Location}
    (h : (S.tree? file language (location ++ below)).isSome) :
    reachAll S.forest (below.map .numbered) [.text (.member file language location)] =
      [.text (.member file language (location ++ below))] := by
  induction below generalizing location with
  | nil =>
      rw [List.append_nil]
      rfl
  | cons segment below ih =>
      have hsplit : location ++ segment :: below = location ++ [segment] ++ below := by
        rw [List.append_assoc]
        rfl
      obtain ⟨part, hpart⟩ := Option.isSome_iff_exists.1 h
      unfold tree? at hpart
      rw [View.at?_append] at hpart
      obtain ⟨tree, htree, hpart⟩ := Option.bind_eq_some_iff.1 hpart
      rw [View.at?_cons_eq] at hpart
      obtain ⟨child, hchild, -⟩ := Option.bind_eq_some_iff.1 hpart
      rw [List.map_cons, reachAll_cons,
        S.reach_numbered htree (mem_of_lookup_eq_some hchild), hsplit]
      rw [hsplit] at h
      exact ih h

-- ========================================================== evaluation

variable {ε : Type} {registry : Query.Registry (Query.Provider Id Place ε)}

/-- A single node is never dropped. -/
theorem dropRepeated_singleton (dedupe : Bool) (place : Place) :
    [place] = if dedupe then Query.dropRepeated S.forest.address [place] else [place] := by
  cases dedupe with
  | true => rfl
  | false => rfl

theorem typeName?_named {names : List String} :
    ∀ step ∈ names.map Step.named, step.typeName? = none := by
  rintro step hs
  obtain ⟨name, -, rfl⟩ := List.mem_map.1 hs
  rfl

theorem typeName?_numbered {way : Location} :
    ∀ step ∈ way.map Step.numbered, step.typeName? = none := by
  rintro step hs
  obtain ⟨segment, -, rfl⟩ := List.mem_map.1 hs
  rfl

/-- The steps to a path select what is there. -/
theorem evaluate_named (arranged : ProjectPath.Arranged (S.texts.map (·.1)))
    {path file : ProjectPath} (nonempty : path ≠ []) (hm : file ∈ S.texts.map (·.1))
    (hp : path <+: file) (dedupe : Bool) (text : String) :
    (Query.evaluate S.forest registry dedupe ⟨text, path.map .named⟩ (.directory [])).run =
      .ok [S.placeAt path] := by
  have hreached : reachAll S.forest (path.map .named) [.directory []] = [S.placeAt path] :=
    S.reachAll_named arranged nonempty hm hp
  refine Query.evaluate_eq_ok.2 ⟨_, _, Query.resolveSteps_untyped typeName?_named,
    Query.applySteps_untyped _ _, ?_⟩
  rw [hreached]
  exact S.dropRepeated_singleton dedupe _

/-- The step to a view leads from a file of the language to the root of its view. -/
theorem applyStep_view {file : ProjectPath} {language : Language} {name : String}
    (hl : Language.ofPath? (ProjectPath.write file) = some language) :
    (Query.applyStep S.forest (.view language)
      (some (.registered name (S.provider (.language language)))) [.file file]).run =
      .ok [.text (.member file language [])] := by
  have hfind : S.find (.language language) (.file file) =
      .ok [.text (.member file language [])] := if_pos hl
  have hfrom : (Query.findFromEach (S.provider (.language language)) [.file file]).run =
      .ok [.text (.member file language [])] :=
    Query.run_bind_eq_ok.2 ⟨_, congrArg Except.ok hfind, rfl⟩
  exact Query.run_bind_eq_ok.2 ⟨_, hfrom, rfl⟩

/-- The steps to a file, into its view and to a member select the member. -/
theorem evaluate_numbered (arranged : ProjectPath.Arranged (S.texts.map (·.1)))
    {registry : Query.Registry (Query.Provider Id Place NodeError)} {file : ProjectPath}
    {language : Language} {way : Location} {name : String} (hm : file ∈ S.texts.map (·.1))
    (hl : Language.ofPath? (ProjectPath.write file) = some language)
    (known : registry.resolve? language.viewType =
      some (.registered name (S.provider (.language language))))
    (h : (S.tree? file language way).isSome) (dedupe : Bool) (text : String) :
    (Query.evaluate S.forest registry dedupe
      ⟨text, file.map .named ++ .view language :: way.map .numbered⟩ (.directory [])).run =
      .ok [.text (.member file language way)] := by
  have hfile : reachAll S.forest (file.map .named) [.directory []] = [.file file] := by
    rw [← S.placeAt_file hm]
    exact S.reachAll_named arranged (arranged.named file hm).1 hm (List.prefix_refl _)
  have hmember : reachAll S.forest (way.map .numbered) [.text (.member file language [])] =
      [.text (.member file language way)] := S.reachAll_numbered h
  have hview : Query.resolveStep registry (.view language) =
      .ok (some (.registered name (S.provider (.language language)))) := by
    have hname : (Step.view language).typeName? = some language.viewType := rfl
    simp only [Query.resolveStep, hname, known]
  refine Query.evaluate_eq_ok.2 ⟨_, [.text (.member file language way)],
    Query.resolveSteps_append_eq_ok.2 ⟨_, _, Query.resolveSteps_untyped typeName?_named,
      Query.resolveSteps_cons_eq_ok.2 ⟨_, _, hview,
        Query.resolveSteps_untyped typeName?_numbered, rfl⟩, rfl⟩, ?_,
    S.dropRepeated_singleton dedupe _⟩
  rw [Query.applySteps_append]
  refine Query.run_bind_eq_ok.2 ⟨_, Query.applySteps_untyped _ _, ?_⟩
  rw [hfile]
  refine Query.run_bind_eq_ok.2 ⟨_, S.applyStep_view hl, ?_⟩
  rw [← hmember]
  exact Query.applySteps_untyped _ _

end Snapshot

end TreeQuery
