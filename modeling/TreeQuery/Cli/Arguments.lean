/-
The arguments of the command line. Options may stand before, between and after the other
arguments, up to a double dash; the short ones can be put together. Every option may be
given once, except those that ask for more words about what is going on.

Arguments are bytes. The values of options are paths and are taken as they are, whereas an
argument that is no option has to be a text.
-/
import TreeQuery.Text.Native

namespace TreeQuery.Cli

/-- What the program is asked to do. -/
inductive Request where
  | query (expression : String) (root : NativeText) (config : Option NativeText) (json : Bool)
  | update (expression value : String) (root : NativeText) (config : Option NativeText)
      (diff write : Bool)
  | types (config : Option NativeText)
deriving DecidableEq, Repr

/-- Why there is nothing to do. -/
inductive Halt where
  | version
  | help
  /-- The arguments make no sense. -/
  | misuse
deriving DecidableEq, Repr

/-- An option. -/
inductive Flag where
  | verbose
  | help
  | version
  | root
  | config
  | json
  | diff
  | write
deriving DecidableEq, Repr

namespace Flag

/-- The short form of an option. -/
def short? : Flag → Option Char
  | .verbose => some 'v'
  | .help => some 'h'
  | .version => some 'V'
  | .root => some 'r'
  | .config => some 'c'
  | .json => none
  | .diff => some 'd'
  | .write => some 'w'

/-- Whether the byte is the short form of the option. -/
def hasShort (flag : Flag) (byte : UInt8) : Bool := flag.short?.any (·.toUInt8 == byte)

/-- The long form of an option. -/
def long : Flag → String
  | .verbose => "verbose"
  | .help => "help"
  | .version => "version"
  | .root => "root"
  | .config => "config"
  | .json => "json"
  | .diff => "diff"
  | .write => "write"

/-- Whether a value belongs to the option. -/
def takesValue : Flag → Bool
  | .root => true
  | .config => true
  | _ => false

end Flag

/-- A command, the options it knows, and how many other arguments it takes. -/
structure Command where
  name : String
  flags : List Flag
  arity : Nat

/-- The commands. -/
def commands : List Command :=
  [⟨"query", [.verbose, .help, .root, .config, .json], 1⟩,
    ⟨"update", [.verbose, .help, .root, .config, .diff, .write], 2⟩,
    ⟨"types", [.verbose, .help, .config], 0⟩]

/-- What has been read of a command's arguments. -/
structure Given where
  flags : List Flag := []
  values : List (Flag × NativeText) := []
  others : List String := []

namespace Given

/-- Takes in an option without a value. -/
def giveFlag (given : Given) (flag : Flag) : Except Halt Given :=
  match flag with
  | .help => .error .help
  | .version => .error .version
  | .verbose => .ok given
  | _ =>
    if given.flags.contains flag then .error .misuse
    else .ok { given with flags := flag :: given.flags }

/-- Takes in an option with a value, which must not be empty. -/
def giveValue (given : Given) (flag : Flag) (value : NativeText) : Except Halt Given :=
  if value.isEmpty || (given.values.lookup flag).isSome then .error .misuse
  else .ok { given with values := (flag, value) :: given.values }

/-- Takes in another argument, if it is a text and there is room for it. -/
def giveOther (given : Given) (arity : Nat) (argument : NativeText) : Except Halt Given :=
  match argument.toString? with
  | some text =>
    if given.others.length < arity then .ok { given with others := given.others ++ [text] }
    else .error .misuse
  | none => .error .misuse

end Given

/-- The byte that options begin with. -/
def dash : UInt8 := 0x2D

/-- The byte between an option and its value. -/
def equals : UInt8 := 0x3D

/-- The argument after which there are no options. -/
def endOfOptions : NativeText := [dash, dash]

/-- Whether an argument is taken for an option. -/
def isOption : NativeText → Bool
  | first :: _ :: _ => first == dash
  | _ => false

/-- What is left to do for an argument: nothing, or to take the next argument as the value of an
option. -/
abbrev Pending := Option Flag

/-- Reads short options that are put together. -/
def readShort (flags : List Flag) (given : Given) : NativeText → Except Halt (Given × Pending)
  | [] => .ok (given, none)
  | byte :: rest =>
    match flags.find? (·.hasShort byte) with
    | none => .error .misuse
    | some flag =>
      if flag.takesValue then
        match rest with
        | [] => .ok (given, some flag)
        | first :: value =>
          let value := if first = equals then value else first :: value
          (given.giveValue flag value).map (·, none)
      else do readShort flags (← given.giveFlag flag) rest

/-- Reads a long option, after its dashes. -/
def readLong (flags : List Flag) (given : Given) (text : NativeText) :
    Except Halt (Given × Pending) :=
  let name := text.takeWhile (· != equals)
  let rest := text.dropWhile (· != equals)
  match flags.find? fun flag => NativeText.ofString flag.long == name with
  | none => .error .misuse
  | some flag =>
    match flag.takesValue, rest with
    | true, [] => .ok (given, some flag)
    | true, _ :: value => (given.giveValue flag value).map (·, none)
    | false, [] => (given.giveFlag flag).map (·, none)
    | false, _ :: _ => .error .misuse

/-- Reads an option. -/
def readOption (flags : List Flag) (given : Given) (argument : NativeText) :
    Except Halt (Given × Pending) :=
  match argument.drop 1 with
  | [] => .error .misuse
  | second :: text =>
    if second = dash then readLong flags given text else readShort flags given (second :: text)

/-- Reads the arguments of a command. -/
def readArguments (command : Command) : Given → List NativeText → Except Halt Given
  | given, [] => .ok given
  | given, argument :: rest =>
    if argument = endOfOptions then
      rest.foldlM (fun given other => given.giveOther command.arity other) given
    else if isOption argument then
      match readOption command.flags given argument with
      | .error halt => .error halt
      | .ok (given, none) => readArguments command given rest
      | .ok (given, some flag) =>
        match rest with
        | [] => .error .misuse
        | value :: more =>
          if isOption value then .error .misuse
          else match given.giveValue flag value with
            | .error halt => .error halt
            | .ok given => readArguments command given more
    else match given.giveOther command.arity argument with
      | .error halt => .error halt
      | .ok given => readArguments command given rest

/-- The directory a project is in if no other is given. -/
def defaultRoot : NativeText := NativeText.ofString "."

/-- The request that a command's arguments make. -/
def requestOf (command : Command) (given : Given) : Except Halt Request :=
  let root := (given.values.lookup .root).getD defaultRoot
  let config := given.values.lookup .config
  match command.name, given.others with
  | "query", [expression] => .ok (.query expression root config (given.flags.contains .json))
  | "update", [expression, value] =>
    .ok (.update expression value root config (given.flags.contains .diff)
      (given.flags.contains .write))
  | "types", [] => .ok (.types config)
  | _, _ => .error .misuse

/-- The command that shows how the program is used. -/
def helpCommand : NativeText := NativeText.ofString "help"

/-- The command of a name. -/
def command? (name : NativeText) : Option Command :=
  commands.find? fun command => NativeText.ofString command.name == name

/-- Reads the arguments of the program. -/
def parse : List NativeText → Except Halt Request
  | [] => .error .misuse
  | argument :: rest =>
    if isOption argument then
      match readOption [.verbose, .help, .version] {} argument with
      | .error halt => .error halt
      | .ok _ => if argument = endOfOptions then .error .misuse else parse rest
    else if argument = helpCommand then
      match rest with
      | [] => .error .help
      | [name] =>
        if name = helpCommand || (command? name).isSome then .error .help else .error .misuse
      | _ => .error .misuse
    else match command? argument with
      | none => .error .misuse
      | some command => do requestOf command (← readArguments command {} rest)

end TreeQuery.Cli
