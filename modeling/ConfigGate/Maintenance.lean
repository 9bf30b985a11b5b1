import ConfigGate.Explanation
import ConfigGate.Host.Basic
import ConfigGate.JsonSchema.Report
import ConfigGate.JsonSchema.Settings
import ConfigGate.Settings.Toml
import ConfigGate.Schema.Yaml

/-!
# Maintenance

`Maintenance.program` keeps what goes with the program in order: it writes the JSON Schemas of the
file formats and checks that they are up to date, that every check is explained, and that the
demonstration files load.
-/

namespace ConfigGate.Maintenance

variable {m : Type → Type} [Monad m]

/-- The name of this program. -/
def programName : String := "xtask"

/-! ## Tasks that end early -/

/-- Why a task ends early. -/
inductive Halt where
  | failed (failure : Failure)
  | refused
deriving DecidableEq, Repr

/-- Writes texts one after the other, and ends the task if one is refused. -/
def say (write : String → m Bool) (texts : List String) : ExceptT Halt m Unit :=
  ExceptT.mk do
    if ← Host.writeAll write texts then pure (.ok ()) else pure (.error .refused)

/-- Fails a task. -/
def fail {α : Type} (failure : Failure) : ExceptT Halt m α := throw (.failed failure)

/-- Goes on with what an access to a file gave, or fails for its fault. -/
def orFail {α : Type} (attempt : String) (access : m (Except FileFault α)) : ExceptT Halt m α :=
  ExceptT.mk do
    let done ← access
    pure (done.mapError fun fault => .failed ⟨attempt, [fault.message]⟩)

/-! ## Places -/

/-- The variable that holds the directory of the program. -/
def directoryVariable : String := "CARGO_MANIFEST_DIR"

/-- The directory of the project: the one that holds the directory of this program. -/
def rootOf (directory : String) : String :=
  if Path.name? directory = some programName then (Path.parent? directory).getD directory
  else directory

/-- The directory of the project. -/
def projectRoot (host : Host m) : m String := do
  let vars ← host.variablesOf [directoryVariable]
  match vars directoryVariable with
  | some directory => pure (rootOf directory)
  | none => do
      let directory ← host.workingDirectory
      pure (rootOf directory)

/-! ## JSON Schemas -/

/-- A file format: its name and the document that describes it. -/
structure Format where
  name : String
  document : Json

/-- The formats that are described. -/
def formats : List Format :=
  [⟨"cfgguard.report.v1", JsonSchema.report⟩, ⟨"cfgguard.config.v1", JsonSchema.settings⟩]

/-- The file that describes a format. -/
def Format.fileName (format : Format) : String := format.name ++ ".json"

/-- What the file holds. -/
def Format.text (format : Format) : String := format.document.pretty ++ "\n"

/-- Writes the description of a format. -/
def writeFormat (host : Host m) (directory : String) (format : Format) : ExceptT Halt m Unit := do
  let path := Path.join directory format.fileName
  orFail ("Failed to write schema to " ++ path) (host.write path format.text)
  say host.print ["Wrote " ++ path ++ "\n"]

/-- Writes all descriptions. -/
def writeFormats (host : Host m) : ExceptT Halt m Unit := do
  let root ← ExceptT.lift (projectRoot host)
  let directory := Path.join root "schemas"
  orFail "Failed to create schemas directory" (host.makeDirectory directory)
  formats.forM (writeFormat host directory)
  say host.print ["\nSchemas emitted successfully.\n"]

/-- How a description on file differs from what it should be. -/
inductive Drift where
  | missing
  | outdated
deriving DecidableEq, Repr

/-- Compares the description on file. -/
def formatDrift? (host : Host m) (directory : String) (format : Format) :
    ExceptT Halt m (Option Drift) := do
  let path := Path.join directory format.fileName
  let present ← host.isPresent path
  if present then
    let text ← orFail ("Failed to read " ++ path) (host.read path)
    pure (if text = format.text then none else some .outdated)
  else pure (some .missing)

/-- The names of the files that differ in one way. -/
def driftLines (label : String) (kind : Drift) (found : List (Format × Option Drift)) :
    List String :=
  (found.filter fun entry => entry.2 = some kind).map fun entry =>
    "  " ++ label ++ ": " ++ entry.1.fileName ++ "\n"

/-- Checks that all descriptions are up to date. -/
def checkFormats (host : Host m) : ExceptT Halt m Unit := do
  let root ← ExceptT.lift (projectRoot host)
  let directory := Path.join root "schemas"
  let found ← formats.mapM fun format => do
    let drift ← formatDrift? host directory format
    pure (format, drift)
  if found.all fun entry => entry.2.isNone then
    say host.print ["All schemas are up to date.\n"]
  else do
    say host.printError (driftLines "missing" .missing found ++
      driftLines "out of date" .outdated found)
    fail ⟨"Schemas are out of date. Run `cargo xtask emit-schemas` to regenerate.", []⟩

/-! ## Explanations -/

/-- What is missing from the explanation of a name. -/
def explanationFaults (identifier : String) : List String :=
  let quoted := "'" ++ identifier ++ "'"
  match Explanation.find? identifier with
  | none => [quoted ++ " has no explanation"]
  | some explanation =>
      (if explanation.title.isEmpty then [quoted ++ " has empty title"] else []) ++
        (if explanation.description.isEmpty then [quoted ++ " has empty description"] else []) ++
        (if explanation.remediation.isEmpty then [quoted ++ " has empty remediation"] else [])

/-- Checks that every check and every code is explained. -/
def checkExplanations (host : Host m) : ExceptT Halt m Unit := do
  let ids := Check.all.map Check.id
  let codes := Check.all.map Check.code
  let faults := (ids ++ codes).flatMap explanationFaults
  if faults.isEmpty then
    say host.print ["✓ " ++ toString ids.length ++ " check IDs have explanations\n",
      "✓ " ++ toString codes.length ++ " codes have explanations\n"]
  else do
    say host.printError (faults.map fun fault => "  - " ++ fault ++ "\n")
    fail ⟨"Explain coverage validation failed with " ++ toString faults.length ++ " errors", []⟩

/-! ## Demonstration files -/

/-- Why demonstration settings do not resolve. -/
def settingsFailure? (wording : Wording) (path text : String) : Option Failure :=
  match Settings.read text with
  | none => some ⟨"Invalid demo config " ++ path, [wording.settings text]⟩
  | some settings =>
      match settings.resolve .none with
      | .ok _ => none
      | .error error => some ⟨"Demo config " ++ path ++ " does not resolve", error.chain⟩

/-- Checks that the demonstration files load. -/
def checkDemos (host : Host m) : ExceptT Halt m Unit := do
  let wording ← ExceptT.lift host.wording
  let root ← ExceptT.lift (projectRoot host)
  let demos := Path.join root "demos"
  let settingsPath := Path.join demos "cfgguard.toml"
  let settingsText ← orFail ("Failed to read " ++ settingsPath) (host.read settingsPath)
  match settingsFailure? wording settingsPath settingsText with
  | some failure => fail failure
  | none => say host.print ["✓ " ++ settingsPath ++ " resolves\n"]
  let schemaPath := Path.join demos "cfgguard.yaml"
  let schemaText ← orFail ("Failed to read " ++ schemaPath) (host.read schemaPath)
  match Schema.read wording schemaText with
  | .error error => fail ⟨"Invalid demo schema " ++ schemaPath, error.chain⟩
  | .ok schema =>
      say host.print ["✓ " ++ schemaPath ++ " loads: " ++ toString schema.config.size ++ " keys, " ++
        toString schema.invariants.length ++ " invariants, " ++
        toString schema.environments.size ++ " environments\n"]

/-! ## The program -/

/-- The tasks. -/
inductive Task where
  | help
  | writeFormats
  | checkFormats
  | listFormats
  | checkExplanations
  | checkDemos
deriving DecidableEq, Repr

/-- The task that a word asks for. -/
def Task.ofWord? : String → Option Task
  | "help" | "--help" | "-h" => some help
  | "emit-schemas" => some writeFormats
  | "validate-schemas" => some checkFormats
  | "print-schema-ids" => some listFormats
  | "explain-coverage" => some checkExplanations
  | "check-demos" => some checkDemos
  | _ => none

/-- The list of tasks. -/
def helpLines : List String :=
  ["xtask commands:\n",
    "  help              Show this message\n",
    "  emit-schemas      Generate JSON schemas from Rust types to schemas/\n",
    "  validate-schemas  Check if schemas/ matches generated output (for CI)\n",
    "  print-schema-ids  Print known schema IDs\n",
    "  explain-coverage  Validate all check IDs and codes have explanations\n",
    "  check-demos       Validate the demo schema and config under demos/\n"]

/-- Does a task. -/
def Task.run (host : Host m) : Task → ExceptT Halt m Unit
  | help => say host.printError helpLines
  | writeFormats => Maintenance.writeFormats host
  | checkFormats => Maintenance.checkFormats host
  | listFormats => say host.print (formats.map fun format => format.name ++ "\n")
  | checkExplanations => Maintenance.checkExplanations host
  | checkDemos => Maintenance.checkDemos host

/-- Runs the program and gives the exit code. -/
def program (host : Host m) (arguments : List String) : m UInt32 := do
  let word := arguments.head?.getD "help"
  match Task.ofWord? word with
  | none => do
      let failure : Failure :=
        ⟨"unknown xtask command: " ++ word ++ "\n\nRun `cargo xtask help` for usage.", []⟩
      let _ ← host.printError failure.report
      pure 1
  | some task => do
      match ← (task.run host).run with
      | .ok () => pure 0
      | .error .refused => pure Host.brokenOff
      | .error (.failed failure) => do
          let _ ← host.printError (failure.within "xtask failed").report
          pure 1

end ConfigGate.Maintenance
