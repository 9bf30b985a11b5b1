/-!
# Arguments of a command

`Level.scan` reads the arguments of one level of a command: options, each at most once, and words.
Options are written `--name value`, `--name=value`, `-n value`, `-nvalue` or `-n=value`; after `--`
everything is a word. A level that has subcommands ends at the first word that names one.
-/

namespace ConfigGate.Command

/-- An option of a level. Without `accepts` it takes no value. -/
structure OptionSpec where
  name : String
  letter : Option Char
  accepts : Option (String → Bool)

/-- Why arguments are not a command to run. -/
inductive Stop where
  | help (command : Option String)
  | version
  | usage (message : String)
deriving DecidableEq, Repr

/-- What was given on one level. -/
structure Given where
  values : List (String × String)
  flags : List String
  words : List String
deriving DecidableEq, Repr

namespace Given

/-- Nothing was given. -/
def nothing : Given := ⟨[], [], []⟩

/-- The value of an option. -/
def value? (given : Given) (name : String) : Option String :=
  (given.values.find? fun entry => entry.1 == name).map (·.2)

/-- Whether a flag is set. -/
def isSet (given : Given) (name : String) : Bool := given.flags.contains name

end Given

/-- A level of a command: its name, its options, how many words it takes, the subcommands that end
it, and whether it tells its version. -/
structure Level where
  command : Option String
  options : List OptionSpec
  words : Nat
  subcommands : List String
  tellsVersion : Bool

namespace Level

/-- An argument that is not expected. -/
def unexpected {α : Type} (argument : String) : Except Stop α :=
  .error (.usage ("unexpected argument '" ++ argument ++ "' found"))

/-- An option whose value is missing. -/
def missingValue {α : Type} (name : String) : Except Stop α :=
  .error (.usage ("a value is required for '--" ++ name ++ "' but none was supplied"))

/-- Sets an option to a value. -/
def setValue (spec : OptionSpec) (value : String) (given : Given) : Except Stop Given :=
  if (given.value? spec.name).isSome then
    .error (.usage ("the argument '--" ++ spec.name ++ "' cannot be used multiple times"))
  else if (spec.accepts.getD fun _ => false) value then
    .ok { given with values := (spec.name, value) :: given.values }
  else .error (.usage ("invalid value '" ++ value ++ "' for '--" ++ spec.name ++ "'"))

/-- Sets a flag. -/
def setFlag (spec : OptionSpec) (given : Given) : Except Stop Given :=
  if given.isSet spec.name then
    .error (.usage ("the argument '--" ++ spec.name ++ "' cannot be used multiple times"))
  else .ok { given with flags := spec.name :: given.flags }

/-- Adds a word. -/
def addWord (level : Level) (word : String) (given : Given) : Except Stop Given :=
  if given.words.length < level.words then .ok { given with words := given.words ++ [word] }
  else unexpected word

/-- Uses an option with the value that is attached to it, if any. An option that still needs its
value is given back. -/
def useOption (spec : OptionSpec) (attached : Option String) (given : Given) :
    Except Stop (Given × Option OptionSpec) :=
  match spec.accepts, attached with
  | none, none => (setFlag spec given).map fun given => (given, none)
  | none, some value => unexpected value
  | some _, some value => (setValue spec value given).map fun given => (given, none)
  | some _, none => .ok (given, some spec)

/-- Cuts `name=value` at the first equals sign. -/
def splitAttached (cs : List Char) : String × Option String :=
  let name := String.ofList (cs.takeWhile (· != '='))
  match cs.dropWhile (· != '=') with
  | [] => (name, none)
  | _ :: value => (name, some (String.ofList value))

/-- Uses what stands after two dashes. -/
def useLong (level : Level) (cs : List Char) (given : Given) :
    Except Stop (Given × Option OptionSpec) :=
  let (name, attached) := splitAttached cs
  match level.options.find? fun spec => spec.name == name with
  | some spec => useOption spec attached given
  | none =>
      if attached.isSome then unexpected ("--" ++ String.ofList cs)
      else if name = "help" then .error (.help level.command)
      else if name = "version" && level.tellsVersion then .error .version
      else unexpected ("--" ++ name)

/-- The value attached to a letter: what follows it, without an equals sign. -/
def attachedToLetter : List Char → Option String
  | [] => none
  | '=' :: value => some (String.ofList value)
  | value => some (String.ofList value)

/-- Uses what stands after one dash. -/
def useShort (level : Level) (letter : Char) (more : List Char) (given : Given) :
    Except Stop (Given × Option OptionSpec) :=
  match level.options.find? fun spec => spec.letter == some letter with
  | some spec => useOption spec (attachedToLetter more) given
  | none =>
      if letter = 'h' then .error (.help level.command)
      else if letter = 'V' && level.tellsVersion then .error .version
      else unexpected (String.ofList ['-', letter])

/-- Adds words up to the end. -/
def addWords (level : Level) : List String → Given → Except Stop Given
  | [], given => .ok given
  | word :: rest, given =>
      match level.addWord word given with
      | .error stop => .error stop
      | .ok given => addWords level rest given

/-- Reads the arguments of a level. Gives what was given and, from the name of a subcommand on, the
arguments that are left. `pending` is an option that waits for its value. -/
def scan (level : Level) : Option OptionSpec → List String → Given →
    Except Stop (Given × List String)
  | some spec, [], _ => missingValue spec.name
  | none, [], given => .ok (given, [])
  | some spec, argument :: rest, given =>
      match argument.toList with
      | '-' :: _ :: _ => missingValue spec.name
      | _ =>
          match setValue spec argument given with
          | .error stop => .error stop
          | .ok given => scan level none rest given
  | none, argument :: rest, given =>
      if level.subcommands.contains argument then .ok (given, argument :: rest)
      else
        match argument.toList with
        | ['-', '-'] => (level.addWords rest given).map fun given => (given, [])
        | '-' :: '-' :: cs =>
            match level.useLong cs given with
            | .error stop => .error stop
            | .ok (given, pending) => scan level pending rest given
        | '-' :: letter :: more =>
            match level.useShort letter more given with
            | .error stop => .error stop
            | .ok (given, pending) => scan level pending rest given
        | _ =>
            match level.addWord argument given with
            | .error stop => .error stop
            | .ok given => scan level none rest given

end Level

end ConfigGate.Command
