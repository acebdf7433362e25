/-
Structural patterns: code with holes, which a parser outside the library finds in the trees
of one language. What is known of a pattern once it has been read is where it matches; it is
kept under a key that tells both the language and the text of the pattern.
-/
import TreeQuery.Cache
import TreeQuery.Tree.Concrete

namespace TreeQuery

/-- A structural pattern. -/
structure StructuralPattern where
  language : Language
  text : String
deriving DecidableEq, Repr

namespace StructuralPattern

/-- The key of a pattern's text in a language: the word for the language, a colon and the text. -/
def keyOf (word text : String) : List Char := word.toList ++ ':' :: text.toList

/-- In words that hold no colon, the first colon ends the word. -/
theorem keyOf_injective {word word' text text' : String} (plain : ':' ∉ word.toList)
    (plain' : ':' ∉ word'.toList) (h : keyOf word text = keyOf word' text') :
    word = word' ∧ text = text' := by
  have hword : ∀ {w : String} (t : String), ':' ∉ w.toList →
      (keyOf w t).takeWhile (· != ':') = w.toList := by
    intro w t hw
    have hother : ∀ c ∈ w.toList, (c != ':') = true :=
      fun c hc => bne_iff_ne.2 (ne_of_mem_of_not_mem hc hw)
    rw [keyOf, List.takeWhile_append_of_pos hother]
    simp
  have hsame : word = word' := by
    rw [← String.toList_inj, ← hword text plain, ← hword text' plain', h]
  subst hsame
  have hrest := List.append_cancel_left h
  exact ⟨rfl, String.toList_inj.1 (List.cons.inj hrest).2⟩

/-- The key of the pattern. -/
def key (pattern : StructuralPattern) : List Char := keyOf pattern.language.stem pattern.text

/-- Words for languages hold no colon. -/
theorem colon_notMem_stem (language : Language) : ':' ∉ language.stem.toList := by
  cases language <;> decide

theorem stem_injective {language language' : Language} (h : language.stem = language'.stem) :
    language = language' := by
  cases language <;> cases language' <;> first | rfl | exact absurd h (by decide)

theorem key_injective (p q : StructuralPattern) (h : p.key = q.key) : p = q := by
  obtain ⟨l, s⟩ := p
  obtain ⟨k, t⟩ := q
  obtain ⟨hword, rfl⟩ := keyOf_injective (colon_notMem_stem l) (colon_notMem_stem k) h
  obtain rfl := stem_injective hword
  rfl

/-- Where the pattern matches in a source. -/
def read (grammars : Grammars) (pattern : StructuralPattern) :
    Except Empty (String → Option (List PatternMatch)) :=
  .ok (grammars.find pattern.language pattern.text)

end StructuralPattern

/-- The patterns read so far. -/
abbrev PatternCache (grammars : Grammars) :=
  Cache StructuralPattern.key (StructuralPattern.read grammars)

end TreeQuery
