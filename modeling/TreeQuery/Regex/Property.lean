/-
The character properties a pattern may name: general categories and scripts by their short
and long names, properties of their own, and properties with a value. Names are compared
without regard to case, spaces, underscores and hyphens, and without a leading `is`.
-/
import TreeQuery.Regex.Derived
import TreeQuery.Unicode.Word

namespace TreeQuery.Regex

open Unicode

/-- The characters of a name that count when names are compared. -/
def plainName (name : List Char) : List Char :=
  (name.filter fun c => c.toNat < 0x80 && c != ' ' && c != '_' && c != '-').map Char.toLower

/-- A property name as it is compared. The one name that would come to a category without its
`is` keeps it. -/
def looseName (name : List Char) : List Char :=
  match name with
  | i :: s :: rest =>
    if i.toLower = 'i' ∧ s.toLower = 's' then
      if plainName rest = ['c'] then ['i', 's', 'c'] else plainName rest
    else plainName name
  | _ => plainName name

/-- The set of a property that is either had or not. -/
def binaryProperty? (name : String) : Option CharSet :=
  (derivedProperties.named? name).or (tabulatedProperties.named? name)

/-- The set of a script with what others share with it. -/
def scriptExtension? (name : String) : Option CharSet := do
  let (names, members) ← scripts.find? fun (names, _) => names.contains name
  let shared := scriptExtensions.filter fun (users, _) => users.any names.contains
  let listed := CharSet.ofRanges (scriptExtensions.flatMap (·.2))
  return CharSet.ofRanges (CharSet.diff members listed ++ shared.flatMap (·.2))

/-- What the versions up to the one of that name have added. -/
def addedUpTo? (name : String) : Table → Option Ranges
  | [] => none
  | (names, added) :: later =>
    if names.contains name then some added else (addedUpTo? name later).map (added ++ ·)

/-- The set of what a version has assigned. -/
def age? (name : String) : Option CharSet := (addedUpTo? name ages).map CharSet.ofRanges

/-- The set a property name stands for. -/
def property? (name : List Char) : Option CharSet :=
  let name := String.ofList (looseName name)
  match binaryProperty? name with
  | some set => some set
  | none => (category? name).or (scripts.named? name)

/-- The set of a property with a value. -/
def propertyValue? (name value : List Char) : Option CharSet :=
  let value := String.ofList (looseName value)
  match String.ofList (looseName name) with
  | "generalcategory" | "gc" => category? value
  | "script" | "sc" => scripts.named? value
  | "scriptextensions" | "scx" => scriptExtension? value
  | "age" => age? value
  | "graphemeclusterbreak" | "gcb" => graphemeBreaks.named? value
  | "wordbreak" | "wb" => wordBreaks.named? value
  | "sentencebreak" | "sb" => sentenceBreaks.named? value
  | _ => none

/-- The set of a class named between `[:` and `:]`. -/
def asciiClass? (name : List Char) : Option CharSet :=
  match String.ofList name with
  | "alnum" => some [(0x30, 0x39), (0x41, 0x5A), (0x61, 0x7A)]
  | "alpha" => some [(0x41, 0x5A), (0x61, 0x7A)]
  | "ascii" => some [(0, 0x7F)]
  | "blank" => some [(0x9, 0x9), (0x20, 0x20)]
  | "cntrl" => some [(0, 0x1F), (0x7F, 0x7F)]
  | "digit" => some [(0x30, 0x39)]
  | "graph" => some [(0x21, 0x7E)]
  | "lower" => some [(0x61, 0x7A)]
  | "print" => some [(0x20, 0x7E)]
  | "punct" => some [(0x21, 0x2F), (0x3A, 0x40), (0x5B, 0x60), (0x7B, 0x7E)]
  | "space" => some [(0x9, 0xD), (0x20, 0x20)]
  | "upper" => some [(0x41, 0x5A)]
  | "word" => some [(0x30, 0x39), (0x41, 0x5A), (0x5F, 0x5F), (0x61, 0x7A)]
  | "xdigit" => some [(0x30, 0x39), (0x41, 0x46), (0x61, 0x66)]
  | _ => none

/-- The word characters of ASCII. -/
def asciiWord : CharSet := [(0x30, 0x39), (0x41, 0x5A), (0x5F, 0x5F), (0x61, 0x7A)]

/-- The white space of ASCII. -/
def asciiSpace : CharSet := [(0x9, 0xD), (0x20, 0x20)]

/-- The digits of ASCII. -/
def asciiDigit : CharSet := [(0x30, 0x39)]

end TreeQuery.Regex
