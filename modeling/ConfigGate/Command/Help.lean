import ConfigGate.Command.Invocation
import ConfigGate.Report.Basic

/-!
# What the program says about itself
-/

namespace ConfigGate.Command

/-- The line that tells the version. -/
def versionText : String := Tool.current.name ++ " " ++ Tool.current.version ++ "\n"

/-- What a command does. -/
def purpose : String → String
  | "check" => "Resolve config from the environment, evaluate, and write artifacts"
  | "validate" => "Load the schema and report rule errors without evaluating"
  | "fmt-rule" => "Parse a rule and print its canonical form"
  | "md" => "Render markdown from an existing JSON report"
  | "annotations" => "Render GitHub Actions annotations from an existing JSON report"
  | "explain" => "Explain a check_id or code with remediation guidance"
  | "config-schema" => "Print the JSON Schema of cfgguard.toml"
  | _ => "Configuration governance: schema, invariants, and per-environment contracts"

/-- How an option is written. -/
def OptionSpec.usage (spec : OptionSpec) : String :=
  let letter :=
    match spec.letter with
    | none => "    "
    | some letter => String.ofList ['-', letter, ',', ' ']
  "  " ++ letter ++ "--" ++ spec.name ++ (if spec.accepts.isSome then " <VALUE>" else "") ++ "\n"

/-- How a command is written. -/
def Level.usage (level : Level) : String :=
  let word := if 0 < level.words then " <VALUE>" else ""
  match level.command with
  | none => "Usage: cfgguard [OPTIONS] <COMMAND>\n"
  | some name => "Usage: cfgguard " ++ name ++ " [OPTIONS]" ++ word ++ "\n"

/-- The list of commands. -/
def commandList : String :=
  "\nCommands:\n" ++
    String.join (names.map fun name => "  " ++ name ++ "  " ++ purpose name ++ "\n")

/-- The help of the program or of one command. -/
def helpText (command : Option String) : String :=
  let level := (command.map commandLevel).getD topLevel
  purpose (command.getD "") ++ "\n\n" ++ level.usage ++
    (if command.isNone then commandList else "") ++
    "\nOptions:\n" ++ String.join (level.options.map OptionSpec.usage)

/-- What is shown for arguments that are not a command. -/
def usageText (message : String) : String :=
  "error: " ++ message ++ "\n\n" ++ topLevel.usage ++
    "\nFor more information, try '--help'.\n"

end ConfigGate.Command
