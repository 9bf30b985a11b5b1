import ConfigGate.Command.Arguments
import ConfigGate.Decimal.Power
import ConfigGate.Settings.Basic

/-!
# Invocations

An invocation is a command with all its options. `Invocation.parse` reads it from the arguments of
the program. Common options may stand before or after the name of the command; where both give one,
the one after the name counts.
-/

namespace ConfigGate

namespace Command

/-- The options of a run of the checks. -/
structure CheckOptions where
  reportOut : String
  writeMarkdown : Bool
  markdownOut : String
  snapshotOut : Option String
  annotations : Bool
deriving DecidableEq, Repr

end Command

/-- What the program is asked to do. -/
inductive Command where
  | check (options : Command.CheckOptions)
  | validate
  | formatRule (rule : String)
  | markdown (report : String) (output : Option String)
  | annotations (report : String) (max : Nat)
  | explain (identifier : String)
  | settingsSchema
deriving DecidableEq, Repr

namespace Command

/-- The options that every command has. -/
structure CommonOptions where
  schema : String
  settings : String
  overrides : Overrides
deriving DecidableEq, Repr

/-- A command and the common options. -/
structure Invocation where
  common : CommonOptions
  command : Command
deriving DecidableEq, Repr

/-! ## Levels -/

/-- A number of decimal digits, with or without a sign, up to a limit. -/
def signedNumber? (limit : Nat) (text : String) : Option Nat :=
  let digits (cs : List Char) : Option Nat :=
    if !cs.isEmpty && cs.all Char.isDigit then (String.ofList cs).toNat? else none
  let value? :=
    match text.toList with
    | '+' :: cs => digits cs
    | '-' :: cs => (digits cs).filter (· == 0)
    | cs => digits cs
  value?.filter (· < limit)

/-- A number of decimal digits, perhaps behind a plus sign, up to a limit. -/
def unsignedNumber? (limit : Nat) (text : String) : Option Nat :=
  if text.toList.head? = some '-' then none else signedNumber? limit text

/-- A value of the option `--max-findings`. -/
def findingLimit? (text : String) : Option Nat := signedNumber? (Decimal.twoTo 32) text

/-- A value of the option `--max`. -/
def annotationLimit? (text : String) : Option Nat := unsignedNumber? (Decimal.twoTo 64) text

/-- An option that takes any text. -/
def textOption (name : String) : OptionSpec := ⟨name, none, some fun _ => true⟩

/-- The options that may stand on both levels. -/
def commonSpecs : List OptionSpec :=
  [textOption "schema", textOption "config", textOption "profile", textOption "environment",
    textOption "env-prefix", ⟨"max-findings", none, some fun text => (findingLimit? text).isSome⟩]

/-- The names of the commands. -/
def names : List String :=
  ["check", "validate", "fmt-rule", "md", "annotations", "explain", "config-schema"]

/-- The level before the name of the command. -/
def topLevel : Level :=
  ⟨none, commonSpecs, 0, names ++ ["help"], true⟩

/-- The options of a command other than the common ones. -/
def ownSpecs : String → List OptionSpec
  | "check" =>
      [textOption "report-out", ⟨"write-markdown", none, none⟩, textOption "markdown-out",
        textOption "snapshot-out", ⟨"annotations", none, none⟩]
  | "md" => [textOption "report", ⟨"output", some 'o', some fun _ => true⟩]
  | "annotations" =>
      [textOption "report", ⟨"max", none, some fun text => (annotationLimit? text).isSome⟩]
  | _ => []

/-- How many words a command takes. -/
def wordCount : String → Nat
  | "fmt-rule" | "explain" => 1
  | _ => 0

/-- The level after the name of a command. -/
def commandLevel (name : String) : Level :=
  ⟨some name, commonSpecs ++ ownSpecs name, wordCount name, [], false⟩

/-! ## Reading -/

/-- Where a report is when nothing else is said. -/
def defaultReport : String := "artifacts/cfgguard/report.json"

/-- The common options, of which those after the name of the command come first. -/
def commonOptions (before after : Given) : CommonOptions :=
  let value? (name : String) : Option String := (after.value? name).or (before.value? name)
  { schema := (value? "schema").getD "cfgguard.yaml"
    settings := (value? "config").getD "cfgguard.toml"
    overrides :=
      { profile := value? "profile"
        environment := value? "environment"
        lead := value? "env-prefix"
        maxFindings := ((value? "max-findings").bind findingLimit?).map Nat.toUInt32 } }

/-- The word that a command needs. -/
def neededWord (given : Given) (make : String → Command) : Except Stop Command :=
  match given.words with
  | word :: _ => .ok (make word)
  | [] => .error (.usage "the following required arguments were not provided")

/-- The command of a name with what was given to it. -/
def ofGiven (name : String) (given : Given) : Except Stop Command :=
  let report := (given.value? "report").getD defaultReport
  match name with
  | "check" =>
      .ok (.check
        { reportOut := (given.value? "report-out").getD defaultReport
          writeMarkdown := given.isSet "write-markdown"
          markdownOut := (given.value? "markdown-out").getD "artifacts/cfgguard/comment.md"
          snapshotOut := given.value? "snapshot-out"
          annotations := given.isSet "annotations" })
  | "validate" => .ok .validate
  | "fmt-rule" => neededWord given .formatRule
  | "md" => .ok (.markdown report (given.value? "output"))
  | "annotations" =>
      .ok (.annotations report (((given.value? "max").bind annotationLimit?).getD 10))
  | "explain" => neededWord given .explain
  | "config-schema" => .ok .settingsSchema
  | other => .error (.usage ("unrecognized subcommand '" ++ other ++ "'"))

/-- The help that is asked for by name. -/
def helpStop : List String → Stop
  | [] => .help none
  | [name] =>
      if names.contains name then .help (some name)
      else if name = "help" then .help none
      else .usage ("unrecognized subcommand '" ++ name ++ "'")
  | _ :: name :: _ => .usage ("unrecognized subcommand '" ++ name ++ "'")

/-- Reads an invocation from the arguments of the program. -/
def Invocation.parse (arguments : List String) : Except Stop Invocation :=
  match topLevel.scan none arguments .nothing with
  | .error stop => .error stop
  | .ok (_, []) => .error (.usage "a subcommand is required")
  | .ok (before, name :: rest) =>
      if name = "help" then .error (helpStop rest)
      else
        match (commandLevel name).scan none rest .nothing with
        | .error stop => .error stop
        | .ok (after, _) =>
            (ofGiven name after).map fun command => ⟨commonOptions before after, command⟩

end Command

end ConfigGate
