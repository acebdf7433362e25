/-
The properties that are told by others: the derived properties of the character database and
the values of the break properties, computed from the tables by the rule the standard gives
for each. What a rule leaves to a list of exceptions is written beside it.
-/
import TreeQuery.Regex.Category
import TreeQuery.Unicode.Classes
import TreeQuery.Unicode.LetterCase
import TreeQuery.Unicode.Printing
import TreeQuery.Unicode.Property
import TreeQuery.Unicode.Script

namespace TreeQuery.Regex

open Unicode
open Unicode.Ranges (ofText)
open CharSet (ofRanges union diff inter complement)

-- ==================================================================== case

def cased : CharSet := ofRanges (uppercase ++ lowercase ++ categoryLt)

def caseIgnorable : CharSet :=
  ofRanges (categoryMn ++ categoryMe ++ categoryCf ++ categoryLm ++ categorySk ++
    midLetters ++ midNumbersOrLetters ++ ofText "27")

def changesWhenLowercased : CharSet :=
  diff (ofRanges (uppercase ++ categoryLt)) uppercaseKept

def changesWhenUppercased : CharSet :=
  diff (ofRanges (lowercase ++ categoryLt)) lowercaseKept

/-- The digraphs of capitals have a titlecase of their own, and those in titlecase keep it. -/
def changesWhenTitlecased : CharSet :=
  union (ofText "1C4 1C7 1CA 1F1") <| diff changesWhenUppercased <|
    ofText "1C5 1C8 1CB 1F2 10D0-10FA 10FD-10FF 1F88-1F8F 1F98-1F9F 1FA8-1FAF 1FBC 1FCC 1FFC"

/-- Cherokee folds to its capitals; some small letters fold to others. -/
def changesWhenCasefolded : CharSet :=
  union (diff changesWhenLowercased (ofText "13A0-13F5")) <|
    ofText "B5 DF 149 17F 345 3C2 3D0-3D1 3D5-3D6 3F0-3F1 3F5 587 13F8-13FD 1C80-1C88
      1E9A-1E9B 1F80-1F87 1F90-1F97 1FA0-1FA7 1FB2-1FB4 1FB7 1FC2-1FC4 1FC7 1FF2-1FF4 1FF7
      AB70-ABBF FB00-FB06 FB13-FB17"

def changesWhenCasemapped : CharSet :=
  ofRanges (changesWhenLowercased ++ changesWhenUppercased ++ changesWhenTitlecased)

def otherLowercase : CharSet := diff lowercase categoryLl

def otherUppercase : CharSet := diff uppercase categoryLu

-- ============================================================= identifiers

/-- What patterns keep for their own syntax. -/
def patternOnly : CharSet := union patternSyntax patternWhitespace

def idStart : CharSet :=
  diff (ofRanges (categoryGroup 'l' ++ categoryNl ++ otherIdStart)) patternOnly

def idContinue : CharSet :=
  diff (ofRanges (idStart ++ categoryMn ++ categoryMc ++ categoryNd ++ categoryPc ++
    otherIdContinue)) patternOnly

/-- The characters of identifiers whose compatibility forms are none. -/
def recomposed : Ranges :=
  ofText "37A 309B-309C FC5E-FC63 FDFA-FDFB FE70 FE72 FE74 FE76 FE78 FE7A FE7C FE7E"

def xidStart : CharSet := diff (diff idStart recomposed) (ofText "E33 EB3 FF9E-FF9F")

def xidContinue : CharSet := diff idContinue recomposed

-- ======================================================== letters and marks

def math : CharSet := union categorySm otherMath

def otherAlphabetic : CharSet :=
  ofRanges <| ofText "345" ++ circledLetters ++ diff alphabetic
    (ofRanges (uppercase ++ lowercase ++ categoryLt ++ categoryLm ++ categoryLo ++ categoryNl))

def otherGraphemeExtend : CharSet := diff graphemeExtend (union categoryMe categoryMn)

def graphemeBase : CharSet :=
  complement (ofRanges (categoryCc ++ categoryCf ++ [(0xD800, 0xDFFF)] ++ categoryCo ++
    unassigned ++ categoryZl ++ categoryZp ++ graphemeExtend))

def defaultIgnorable : CharSet :=
  diff (ofRanges (otherDefaultIgnorable ++ categoryCf ++ variationSelectors))
    (ofRanges (whitespace ++ ofText "FFF9-FFFB 13430-13440" ++ prependedMarks))

/-- The properties others are told by, and those that are told by others. -/
def derivedProperties : Table := [
  (["alphabetic", "alpha"], alphabetic), (["whitespace", "wspace", "space"], whitespace),
  (["uppercase", "upper"], uppercase), (["lowercase", "lower"], lowercase),
  (["cased"], cased), (["caseignorable", "ci"], caseIgnorable),
  (["changeswhenlowercased", "cwl"], changesWhenLowercased),
  (["changeswhenuppercased", "cwu"], changesWhenUppercased),
  (["changeswhentitlecased", "cwt"], changesWhenTitlecased),
  (["changeswhencasefolded", "cwcf"], changesWhenCasefolded),
  (["changeswhencasemapped", "cwcm"], changesWhenCasemapped),
  (["otherlowercase", "olower"], otherLowercase), (["otheruppercase", "oupper"], otherUppercase),
  (["idstart", "ids"], idStart), (["idcontinue", "idc"], idContinue),
  (["xidstart", "xids"], xidStart), (["xidcontinue", "xidc"], xidContinue),
  (["otheridstart", "oids"], otherIdStart), (["otheridcontinue", "oidc"], otherIdContinue),
  (["patternsyntax", "patsyn"], patternSyntax),
  (["patternwhitespace", "patws"], patternWhitespace),
  (["math"], math), (["othermath", "omath"], otherMath),
  (["otheralphabetic", "oalpha"], otherAlphabetic), (["ideographic", "ideo"], ideographic),
  (["graphemeextend", "grext"], graphemeExtend),
  (["othergraphemeextend", "ogrext"], otherGraphemeExtend),
  (["graphemebase", "grbase"], graphemeBase),
  (["defaultignorablecodepoint", "di"], defaultIgnorable),
  (["otherdefaultignorablecodepoint", "odi"], otherDefaultIgnorable),
  (["variationselector", "vs"], variationSelectors),
  (["prependedconcatenationmark", "pcm"], prependedMarks),
  (["quotationmark", "qmark"], quotationMarks), (["sentenceterminal", "sterm"], sentenceTerminals),
  (["emojimodifier", "emod"], emojiModifiers), (["regionalindicator", "ri"], regionalIndicators)]

-- ================================================================== breaks

/-- The Hangul syllables that end in their vowel; each is followed by those that go on with a
consonant. -/
def openSyllables : Ranges :=
  (List.range 399).map fun k => (0xAC00 + 28 * k, 0xAC00 + 28 * k)

/-- The Hangul syllables that end in a consonant. -/
def closedSyllables : Ranges :=
  (List.range 399).map fun k => (0xAC01 + 28 * k, 0xAC1B + 28 * k)

/-- The format characters that no mark is made of. -/
def formats : CharSet := diff categoryCf (union graphemeExtend (ofText "200D"))

/-- The values of Grapheme_Cluster_Break. -/
def graphemeBreaks : Table := [
  (["cr"], ofText "D"), (["lf"], ofText "A"), (["zwj"], ofText "200D"),
  (["control", "cn"],
    diff (ofRanges (categoryZl ++ categoryZp ++ categoryCc ++ formats ++
      inter unassigned defaultIgnorable)) (union (ofText "A D") prependedMarks)),
  (["extend", "ex"], union graphemeExtend emojiModifiers),
  (["regionalindicator", "ri"], regionalIndicators), (["prepend", "pp"], prepended),
  (["spacingmark", "sm"],
    union (ofText "E33 EB3") (diff categoryMc (union graphemeExtend unspacedMarks))),
  (["l"], hangulLeading), (["v"], hangulVowels), (["t"], hangulTrailing),
  (["lv"], openSyllables), (["lvt"], closedSyllables)]

/-- The marks that stay with the character before them. -/
def extending : CharSet := ofRanges (graphemeExtend ++ categoryMc ++ emojiModifiers)

/-- The letters that words are made of where spaces stand between them. -/
def wordLetters : CharSet :=
  union nonAlphabeticLetters <| diff alphabetic <|
    ofRanges (ideographic ++ katakanaRuns ++ complexContext ++
      (scripts.named? "hira").getD [] ++ extending ++ hebrewLetters)

/-- The values of Word_Break. -/
def wordBreaks : Table := [
  (["cr"], ofText "D"), (["lf"], ofText "A"), (["newline", "nl"], newlines),
  (["extend"], extending), (["zwj"], ofText "200D"),
  (["regionalindicator", "ri"], regionalIndicators),
  (["format", "fo"], diff formats (ofText "200B")), (["katakana", "ka"], katakanaRuns),
  (["hebrewletter", "hl"], hebrewLetters), (["aletter", "le"], wordLetters),
  (["singlequote", "sq"], ofText "27"), (["doublequote", "dq"], ofText "22"),
  (["midnumlet", "mb"], midNumbersOrLetters), (["midletter", "ml"], midLetters),
  (["midnum", "mn"], midNumbers), (["numeric", "nu"], union categoryNd (ofText "66B")),
  (["extendnumlet", "ex"], wordConnectors), (["wsegspace"], wordSpaces)]

def sentenceExtend : CharSet := ofRanges (graphemeExtend ++ categoryMc ++ ofText "200D")

/-- The Georgian letters have capitals that no sentence starts with. -/
def sentenceLower : CharSet :=
  diff lowercase (union graphemeExtend (ofText "10D0-10FA 10FD-10FF"))

def sentenceUpper : CharSet :=
  diff (ofRanges (uppercase ++ categoryLt)) (ofText "1C90-1CBA 1CBD-1CBF")

/-- The values of Sentence_Break. -/
def sentenceBreaks : Table := [
  (["cr"], ofText "D"), (["lf"], ofText "A"), (["sep", "se"], separators),
  (["extend", "ex"], sentenceExtend), (["format", "fo"], formats),
  (["sp"], sentenceSpaces), (["lower", "lo"], sentenceLower), (["upper", "up"], sentenceUpper),
  (["oletter", "le"],
    diff (union alphabetic (ofText "5F3"))
      (ofRanges (sentenceLower ++ sentenceUpper ++ sentenceExtend))),
  (["numeric", "nu"], union categoryNd (ofText "66B-66C")), (["aterm", "at"], fullStops),
  (["scontinue", "sc"], sentenceCommas), (["sterm", "st"], diff sentenceTerminals fullStops),
  (["close", "cl"],
    diff (ofRanges (categoryPs ++ categoryPe ++ categoryPi ++ categoryPf ++ quotationMarks ++
      ornamentalBrackets)) (ofText "FF02 FF07"))]

end TreeQuery.Regex
