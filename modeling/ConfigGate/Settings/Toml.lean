import ConfigGate.Settings.Basic
import ConfigGate.Toml.Reader

/-!
# Settings in TOML

Unknown keys are ignored; a known key with a value of another kind is a fault.
-/

namespace ConfigGate

/-- Reads an optional entry. -/
def optionalEntry {α : Type} (entries : Toml.Entries) (key : String)
    (read : Toml.Value → Option α) : Option (Option α) :=
  match lookupEntry key entries with
  | none => some none
  | some value => (read value).map some

/-- The text of a text. -/
def tomlText? : Toml.Value → Option String
  | .text value => some value
  | _ => none

/-- The truth value of a boolean. -/
def tomlBool? : Toml.Value → Option Bool
  | .bool value => some value
  | _ => none

/-- A number of at most 32 bits. -/
def tomlCount? : Toml.Value → Option UInt32
  | .integer value => Decimal.count32? value
  | _ => none

/-- The entries of a table. -/
def tomlTable? : Toml.Value → Option Toml.Entries
  | .table _ entries => some entries
  | _ => none

/-- Reads what the file says about one check. -/
def readCheckSettings (value : Toml.Value) : Option CheckSettings := do
  let entries ← tomlTable? value
  let enabled ← optionalEntry entries "enabled" tomlBool?
  let severity ← optionalEntry entries "severity" tomlText?
  some ⟨enabled, severity⟩

/-- Reads what the file says about all checks. -/
def readChecks (value : Toml.Value) : Option (SortedMap CheckSettings) := do
  let entries ← tomlTable? value
  let checks ← entries.mapM fun entry =>
    (readCheckSettings entry.2).map fun settings => (entry.1, settings)
  some (.ofList checks)

namespace Settings

/-- The settings that a TOML table holds. -/
def ofEntries? (entries : Toml.Entries) : Option Settings := do
  let schema ← optionalEntry entries "schema" tomlText?
  let profile ← optionalEntry entries "profile" tomlText?
  let failOn ← optionalEntry entries "fail_on" tomlText?
  let maxFindings ← optionalEntry entries "max_findings" tomlCount?
  let environment ← optionalEntry entries "environment" tomlText?
  let lead ← optionalEntry entries "env_prefix" tomlText?
  let executionVariable ← optionalEntry entries "execution_env_var" tomlText?
  let checks ← optionalEntry entries "checks" readChecks
  some
    { schema, profile, failOn, maxFindings, environment, lead, executionVariable
      checks := checks.getD .empty }

/-- The settings of a TOML text. -/
def read (text : String) : Option Settings := (Toml.read text).bind ofEntries?

end Settings

end ConfigGate
