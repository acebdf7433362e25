/-
The names that type steps may use: tags, which nodes carry, and registered types, which
find their members themselves. A registered type goes before a tag of the same name, and a
later registration before an earlier one.
-/
import TreeQuery.Text.Similarity

namespace TreeQuery.Query

/-- Puts a name into an ascending list, unless it is there. -/
def insertName (name : String) : List String → List String
  | [] => [name]
  | n :: rest =>
    if name < n then name :: n :: rest
    else if name = n then n :: rest
    else n :: insertName name rest

/-- Any names, in ascending order and each once. -/
def sortedNames (names : List String) : List String := names.foldr insertName []

/-- What a type step's name stands for. -/
inductive Resolution (π : Type) where
  /-- The nodes that carry the tag. -/
  | tag (name : String)
  /-- What the type finds. -/
  | registered (name : String) (type : π)
deriving Repr

/-- The tags and registered types known. -/
structure Registry (π : Type) where
  tags : List String
  types : List (String × π) := []

namespace Registry

variable {π : Type}

/-- The tags that are always known. -/
def coreTags : List String := ["Project", "Directory", "File", "Microgrammar"]

/-- A registry that knows the core tags alone. -/
def core : Registry π := ⟨sortedNames coreTags, []⟩

/-- The type registered under a name. -/
def type? (registry : Registry π) (name : String) : Option π := registry.types.lookup name

/-- Registers a type in place of any other under the name. -/
def register (registry : Registry π) (name : String) (type : π) : Registry π :=
  { registry with types := (name, type) :: registry.types.filter (·.1 != name) }

/-- Makes tags known. -/
def addTags (registry : Registry π) (tags : List String) : Registry π :=
  { registry with tags := tags.foldl (fun known tag => insertName tag known) registry.tags }

def isTag (registry : Registry π) (name : String) : Bool := registry.tags.contains name

/-- What a name stands for. -/
def resolve? (registry : Registry π) (name : String) : Option (Resolution π) :=
  match registry.type? name with
  | some type => some (.registered name type)
  | none => if registry.isTag name then some (.tag name) else none

/-- Every known name, in ascending order. -/
def typeNames (registry : Registry π) : List String :=
  sortedNames (registry.tags ++ registry.types.map (·.1))

/-- Names less alike than this are not suggested. -/
def suggestionThreshold : Float := 0.8

/-- The known name most like another one, the last of those that are equally alike, unless
none is reasonably close. -/
def suggestion? (registry : Registry π) (name : String) : Option String :=
  let scored := registry.typeNames.map fun candidate => (Text.jaroWinkler name candidate, candidate)
  let best := (scored.filter fun (score, _) => score ≥ suggestionThreshold).foldl
    (fun best (score, candidate) => match best with
      | some (top, old) => if score < top then some (top, old) else some (score, candidate)
      | none => some (score, candidate)) none
  best.map (·.2)

end Registry

end TreeQuery.Query
