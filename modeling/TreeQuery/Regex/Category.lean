/-
The general categories a pattern may name, one by one and in groups, by their short and long
names.
-/
import TreeQuery.Regex.CharSet
import TreeQuery.Unicode.Category

namespace TreeQuery.Regex

open Unicode

/-- The general categories, each with its short and long name and its members. -/
def categories : List (String × String × Ranges) := [
  ("lu", "uppercaseletter", categoryLu), ("ll", "lowercaseletter", categoryLl),
  ("lt", "titlecaseletter", categoryLt), ("lm", "modifierletter", categoryLm),
  ("lo", "otherletter", categoryLo), ("mn", "nonspacingmark", categoryMn),
  ("mc", "spacingmark", categoryMc), ("me", "enclosingmark", categoryMe),
  ("nd", "decimalnumber", categoryNd), ("nl", "letternumber", categoryNl),
  ("no", "othernumber", categoryNo), ("pc", "connectorpunctuation", categoryPc),
  ("pd", "dashpunctuation", categoryPd), ("ps", "openpunctuation", categoryPs),
  ("pe", "closepunctuation", categoryPe), ("pi", "initialpunctuation", categoryPi),
  ("pf", "finalpunctuation", categoryPf), ("po", "otherpunctuation", categoryPo),
  ("sm", "mathsymbol", categorySm), ("sc", "currencysymbol", categorySc),
  ("sk", "modifiersymbol", categorySk), ("so", "othersymbol", categorySo),
  ("zs", "spaceseparator", categoryZs), ("zl", "lineseparator", categoryZl),
  ("zp", "paragraphseparator", categoryZp), ("cc", "control", categoryCc),
  ("cf", "format", categoryCf), ("co", "privateuse", categoryCo)]

/-- The assigned code points. -/
def assigned : CharSet := CharSet.ofRanges (categories.flatMap fun (_, _, ranges) => ranges)

/-- The categories whose short name starts with a letter, taken together. -/
def categoryGroup (letter : Char) : CharSet :=
  CharSet.ofRanges <| categories.flatMap fun (short, _, ranges) =>
    if short.toList.head? = some letter then ranges else []

/-- The unassigned code points. Surrogates are no characters and count as assigned. -/
def unassigned : CharSet := CharSet.diff (CharSet.complement assigned) [(0xD800, 0xDFFF)]

/-- The set of a general category or group of categories. The surrogates are a category no
pattern can name. -/
def category? (name : String) : Option CharSet :=
  match categories.find? fun (short, long, _) => name = short || name = long with
  | some (_, _, ranges) => some ranges
  | none =>
    match name with
    | "l" | "letter" => some (categoryGroup 'l')
    | "lc" | "casedletter" =>
      some (CharSet.ofRanges (categoryLu ++ categoryLl ++ categoryLt))
    | "m" | "mark" | "combiningmark" => some (categoryGroup 'm')
    | "n" | "number" => some (categoryGroup 'n')
    | "p" | "punctuation" | "punct" => some (categoryGroup 'p')
    | "s" | "symbol" => some (categoryGroup 's')
    | "z" | "separator" => some (categoryGroup 'z')
    | "c" | "other" => some (CharSet.union (categoryGroup 'c') unassigned)
    | "cn" | "unassigned" => some unassigned
    | "digit" => some categoryNd
    | "cntrl" => some categoryCc
    | "any" => some [(0, CharSet.top)]
    | "assigned" => some assigned
    | "ascii" => some [(0, 0x7F)]
    | _ => none

end TreeQuery.Regex
