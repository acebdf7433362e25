/-
Microgrammars: small grammars that find their occurrences in any text.

    <artifactId>$artifact</artifactId>
    def $name($params)

Text in a grammar stands for itself, a binding stands for what its submatcher matches and
captures it, and a run of white space stands for any white space: at least one character
of it between two words, else any amount. A grammar is compiled to a pattern, once for
finding occurrences within a text and once for a text that is one occurrence as a whole.
-/
import TreeQuery.Microgrammar.Token
import TreeQuery.Regex.Parser
import TreeQuery.Regex.Search

namespace TreeQuery

open Text (Span)

/-- A compiled microgrammar. -/
structure Microgrammar where
  name : String
  grammar : String
  /-- The patterns of the bindings that have their own, by binding. -/
  submatchers : List (String × String)
  /-- The bindings, in the order of the grammar. -/
  bindings : List String
  /-- Finds occurrences. -/
  inner : Regex
  /-- Matches a text that is one occurrence. -/
  whole : Regex
deriving DecidableEq, Repr

/-- Why a grammar cannot be compiled. -/
inductive MicrogrammarError where
  | emptyGrammar (name : String)
  | duplicateBinding (name binding : String)
  /-- A dollar sign without a name, at a byte offset of the trimmed grammar. -/
  | danglingBinding (name : String) (offset : Nat)
  | invalidPattern (name : String)
deriving DecidableEq, Repr

namespace MicrogrammarError

def message : MicrogrammarError → String
  | .emptyGrammar name => "microgrammar '" ++ name ++ "' has an empty grammar"
  | .duplicateBinding name binding =>
    "microgrammar '" ++ name ++ "' binds '$" ++ binding ++ "' more than once"
  | .danglingBinding name offset =>
    "microgrammar '" ++ name ++ "' has a '$' not followed by a binding name at byte " ++
      toString offset
  | .invalidPattern name => "microgrammar '" ++ name ++ "' does not compile"

end MicrogrammarError

/-- One occurrence of a microgrammar in a text. -/
structure Occurrence where
  /-- Where the occurrence stands in the text. -/
  span : Span
  /-- What stands there. -/
  text : String
  /-- The bindings that took part, in grammar order, with their places in the occurrence. -/
  captures : List (String × Span)
deriving DecidableEq, Repr, Inhabited

namespace Microgrammar

-- ======================================================== compilation

/-- What a binding without a submatcher of its own matches: a word. -/
def wordMatcher : String := "[A-Za-z0-9_.\\-]+"

/-- Whether the character belongs to a word for the spacing rule. -/
def isWordCharacter (c : Char) : Bool := Unicode.isAlphanumeric c || c == '_'

/-- Whether a token ends in a word. -/
def Token.endsInWord : Token → Bool
  | .literal text => text.getLast?.any isWordCharacter
  | .binding _ => true
  | .space _ => false

/-- Whether a token starts with a word. -/
def Token.startsWithWord : Token → Bool
  | .literal text => text.head?.any isWordCharacter
  | .binding _ => true
  | .space _ => false

/-- The characters with a meaning in patterns. -/
def metaCharacters : List Char := "\\.+*?()|[]\x7b\x7d^$#&-~".toList

/-- A pattern for one character that stands for itself. -/
def escapeLiteral (c : Char) : List Char := if c ∈ metaCharacters then ['\\', c] else [c]

/-- The pattern of a binding. -/
def bindingPattern (submatchers : List (String × String)) (name : String) : List Char :=
  let matcher := (submatchers.lookup name).getD wordMatcher
  "(?P<".toList ++ name.toList ++ ">(?:".toList ++ matcher.toList ++ "))".toList

/-- The pattern of white space between two tokens. -/
def spacePattern (before after : Option Token) : List Char :=
  if before.any Token.endsInWord && after.any Token.startsWithWord then ['\\', 's', '+']
  else ['\\', 's', '*']

/-- The pattern of tokens, given the token before them. -/
def patternFrom (submatchers : List (String × String)) : Option Token → List Token → List Char
  | _, [] => []
  | before, token :: rest =>
    (match token with
      | .literal text => text.flatMap escapeLiteral
      | .space _ => spacePattern before rest.head?
      | .binding name => bindingPattern submatchers (String.ofList name)) ++
    patternFrom submatchers (some token) rest

/-- The bindings of tokens. -/
def bindingsOf (tokens : List Token) : List String :=
  tokens.filterMap fun
    | .binding name => some (String.ofList name)
    | _ => none

/-- The first name that stands again after it has occurred. -/
def firstRepeated? : (seen : List String) → List String → Option String
  | _, [] => none
  | seen, name :: rest =>
    if seen.contains name then some name else firstRepeated? (name :: seen) rest

/-- Adds a submatcher; a later one for the same binding takes the place of an earlier one. -/
def insertSubmatcher (key value : String) : List (String × String) → List (String × String)
  | [] => [(key, value)]
  | (k, v) :: rest =>
    if key < k then (key, value) :: (k, v) :: rest
    else if key = k then (key, value) :: rest
    else (k, v) :: insertSubmatcher key value rest

/-- Submatchers by binding, in ascending order. -/
def sortSubmatchers (pairs : List (String × String)) : List (String × String) :=
  pairs.foldl (fun sorted (key, value) => insertSubmatcher key value sorted) []

/-- Compiles a grammar, with what its patterns are read by. -/
def compile [Regex.Reader] (name grammar : String) (submatchers : List (String × String)) :
    Except MicrogrammarError Microgrammar :=
  let submatchers := sortSubmatchers submatchers
  match tokenize grammar with
  | .error offset => .error (.danglingBinding name offset)
  | .ok [] => .error (.emptyGrammar name)
  | .ok tokens =>
    let bindings := bindingsOf tokens
    match firstRepeated? [] bindings with
    | some binding => .error (.duplicateBinding name binding)
    | none =>
      let pattern := patternFrom submatchers none tokens
      let inner := Regex.Reader.read? (String.ofList pattern)
      let whole := Regex.Reader.read? (String.ofList ("^(?:".toList ++ pattern ++ ")$".toList))
      match inner, whole with
      | some inner, some whole => .ok { name, grammar, submatchers, bindings, inner, whole }
      | _, _ => .error (.invalidPattern name)

-- =========================================================== matching

/-- The byte length of the characters between two places. -/
def bytesBetween (text : Array Char) (start stop : Nat) : Nat :=
  Text.byteLength ((text.toList.take stop).drop start)

/-- What the bindings have matched, as spans relative to a place that is not behind them. -/
def capturesOf (grammar : Microgrammar) (text : Array Char) (base : Nat) (m : Regex.Match) :
    List (String × Span) :=
  grammar.bindings.filterMap fun binding =>
    (m.group? binding).map fun (start, stop) =>
      (binding, ⟨bytesBetween text base start, bytesBetween text base stop⟩)

/-- The occurrences of the grammar in a text, from left to right. -/
def scan (grammar : Microgrammar) (text : String) : List Occurrence :=
  let characters := text.toList.toArray
  (Regex.findAll grammar.inner characters).map fun m =>
    let start := bytesBetween characters 0 m.start
    { span := ⟨start, start + bytesBetween characters m.start m.stop⟩
      text := String.ofList ((characters.toList.take m.stop).drop m.start)
      captures := capturesOf grammar characters m.start m }

/-- The captures of a text that is one occurrence as a whole. -/
def parseExact (grammar : Microgrammar) (text : String) : Option (List (String × Span)) :=
  let characters := text.toList.toArray
  (Regex.find? grammar.whole characters 0).map (capturesOf grammar characters 0)

end Microgrammar

end TreeQuery
