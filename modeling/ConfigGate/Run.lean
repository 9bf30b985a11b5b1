import ConfigGate.Gate
import ConfigGate.Host.Basic
import ConfigGate.Report.Basic
import ConfigGate.Schema.Yaml
import ConfigGate.Settings.Toml
import ConfigGate.Snapshot

/-!
# Runs

A run reads the settings, the schema and the variables, holds what it read against the schema, and
gives a report and a snapshot. The settings are settled before the schema is looked at.
-/

namespace ConfigGate

/-- Why a run comes to nothing. -/
inductive RunError where
  | settingsFile (path : String) (cause : FileFault)
  | settingsText (cause : String)
  | settings (cause : SettingsError)
  | schema (cause : SchemaError)
  | saving (attempt : String) (cause : SaveError)
deriving DecidableEq, Repr

/-- What was tried and why it failed. -/
def RunError.failure : RunError → Failure
  | settingsFile path cause => ⟨"read config: " ++ path, [cause.message]⟩
  | settingsText cause => ⟨"parse config", [cause]⟩
  | settings cause => ⟨"resolve config", cause.chain⟩
  | schema cause => ⟨"load schema", cause.chain⟩
  | saving attempt cause => cause.failure.within attempt

/-- What a run gives. -/
structure RunOutcome where
  report : Report
  resolved : Resolved
  snapshot : Snapshot

/-- What a schema holds, in short. -/
structure SchemaSummary where
  keys : Nat
  invariants : Nat
  environments : List String
deriving DecidableEq, Repr

/-- The short account of a schema. -/
def Schema.summary (schema : Schema) : SchemaSummary :=
  ⟨schema.config.size, schema.invariants.length, schema.environments.keys⟩

namespace Run

/-- Settles the settings. A blank text says nothing. -/
def resolveText (wording : Wording) (text : String) (overrides : Overrides) :
    Except RunError Resolved :=
  let settings? := if Text.isBlankText text then some Settings.empty else Settings.read text
  match settings? with
  | none => .error (.settingsText (wording.settings text))
  | some settings => (settings.resolve overrides).mapError .settings

/-- Points a finding at the schema file. -/
def locateFinding (schemaPath : String) (finding : Finding) : Finding :=
  { finding with location := some ⟨schemaPath, none, none⟩ }

/-- Evaluates a schema under resolved settings. -/
def conclude (schemaPath : String) (schema : Schema) (resolved : Resolved)
    (vars : Variables) (startedAt finishedAt : Timestamp) : RunOutcome :=
  let resolution := Resolution.read schema vars resolved.naming
  let snapshot := Snapshot.ofResolution resolution
  let evaluation := Gate.evaluate schema resolution.context resolved.policy
  { report :=
      { formatName := Report.currentFormat
        tool := .current
        startedAt
        finishedAt
        verdict := evaluation.verdict
        findings := evaluation.findings.map (locateFinding schemaPath)
        data := { evaluation.data with configSha256 := some snapshot.digest }
        invariants := evaluation.invariants
        contract := evaluation.contract }
    resolved
    snapshot }

/-- The variables that a run looks up. -/
def variableNames (schema : Schema) (naming : Naming) : List String :=
  naming.executionVariable :: schema.config.keys.map (variableName naming.lead)

end Run

namespace Host

variable {m : Type → Type} [Monad m]

/-- Reads a schema file. -/
def loadSchema (host : Host m) (path : String) : ExceptT SchemaError m Schema :=
  ExceptT.mk do
    match ← host.read path with
    | .error fault => pure (.error (.unreadable path fault.message))
    | .ok text => do
        let wording ← host.wording
        pure (Schema.read wording text)

/-- Runs the checks. -/
def check (host : Host m) (schemaPath settingsText : String) (overrides : Overrides) :
    ExceptT RunError m RunOutcome := do
  let startedAt ← host.now
  let wording ← host.wording
  let resolved ← ExceptT.mk (pure (Run.resolveText wording settingsText overrides))
  let schema ← (host.loadSchema schemaPath).adapt RunError.schema
  let vars ← host.variablesOf (Run.variableNames schema resolved.naming)
  let finishedAt ← host.now
  pure (Run.conclude schemaPath schema resolved vars startedAt finishedAt)

/-- Loads a schema and gives a short account of it. -/
def validate (host : Host m) (schemaPath : String) : ExceptT Failure m SchemaSummary := do
  let schema ← (host.loadSchema schemaPath).adapt fun cause =>
    ⟨"validate " ++ schemaPath, cause.chain⟩
  pure schema.summary

end Host

end ConfigGate
