import ConfigGate.Check
import ConfigGate.Resolution
import ConfigGate.Text.Blank

/-!
# Settings

The settings file selects a profile and changes it; overrides from outside the file come first.
`Settings.resolve` gives the policy and the naming of variables, or the first fault: the profile,
then the severities of the checks in ascending order of their names, then the failure threshold,
then the variable of the execution tag.
-/

namespace ConfigGate

/-- What the file says about one check. -/
structure CheckSettings where
  enabled : Option Bool
  severity : Option String
deriving DecidableEq, Repr

/-- What the settings file says. -/
structure Settings where
  schema : Option String
  profile : Option String
  failOn : Option String
  maxFindings : Option UInt32
  environment : Option String
  lead : Option String
  executionVariable : Option String
  checks : SortedMap CheckSettings
deriving DecidableEq

/-- Settings that say nothing. -/
def Settings.empty : Settings := ⟨none, none, none, none, none, none, none, .empty⟩

/-- What is set from outside the file. -/
structure Overrides where
  profile : Option String
  environment : Option String
  lead : Option String
  maxFindings : Option UInt32
deriving DecidableEq, Repr

/-- Nothing is set from outside the file. -/
def Overrides.none : Overrides := ⟨.none, .none, .none, .none⟩

/-- Why settings cannot be resolved. -/
inductive SettingsError where
  | unknownProfile (profile : String)
  | unknownSeverity (checkId severity : String)
  | unknownThreshold (failOn : String)
  | blankVariable
deriving DecidableEq, Repr

/-- The texts of an error, outermost first. -/
def SettingsError.chain : SettingsError → List String
  | unknownProfile profile => ["unknown profile: " ++ profile ++ " (expected 'strict' or 'warn')"]
  | unknownSeverity checkId severity =>
      ["invalid severity for " ++ checkId,
        "unknown severity: " ++ severity ++ " (expected info|warning|error)"]
  | unknownThreshold failOn => ["unknown fail_on: " ++ failOn ++ " (expected error|warning)"]
  | blankVariable => ["execution_env_var must not be empty"]

/-! ## Words -/

/-- The severity of a profile's checks. -/
def profileSeverity? (profile : String) : Option Severity :=
  if profile = "strict" then some .error else if profile = "warn" then some .warning else none

/-- The severity that settings name. -/
def settingsSeverity? (word : String) : Option Severity :=
  if word = "warn" then some .warning else Severity.ofWord? word

/-- The failure threshold that settings name. -/
def settingsThreshold? (word : String) : Option FailOn :=
  if word = "error" then some .error
  else if word = "warning" || word = "warn" then some .warning
  else none

/-! ## Resolving -/

/-- Every known check, at one severity. -/
def presetChecks (severity : Severity) : SortedMap CheckPolicy :=
  .ofList (Check.all.map fun check => (check.id, ⟨true, severity⟩))

/-- A policy changed by what settings say about a check. -/
def CheckSettings.apply (base : CheckPolicy) (checkId : String) (settings : CheckSettings) :
    Except SettingsError CheckPolicy :=
  let enabled := settings.enabled.getD base.enabled
  match settings.severity with
  | none => .ok ⟨enabled, base.severity⟩
  | some word =>
      match settingsSeverity? word with
      | none => .error (.unknownSeverity checkId word)
      | some severity => .ok ⟨enabled, severity⟩

/-- A check that is not known starts disabled. -/
def unknownCheck : CheckPolicy := ⟨false, .info⟩

/-- Applies the settings of all checks. -/
def applyChecks : List (String × CheckSettings) → SortedMap CheckPolicy →
    Except SettingsError (SortedMap CheckPolicy)
  | [], checks => .ok checks
  | (checkId, settings) :: rest, checks =>
      match settings.apply ((checks.get? checkId).getD unknownCheck) checkId with
      | .error error => .error error
      | .ok policy => applyChecks rest (checks.insert checkId policy)

/-- A text, unless it is empty. -/
def unlessEmpty (text : Option String) : Option String := text.filter fun text => !text.isEmpty

/-- The failure threshold of the settings. -/
def resolveThreshold : Option String → Except SettingsError FailOn
  | none => .ok .error
  | some word =>
      match settingsThreshold? word with
      | none => .error (.unknownThreshold word)
      | some failOn => .ok failOn

/-- The variable of the execution tag. -/
def resolveVariable : Option String → Except SettingsError String
  | none => .ok Naming.default.executionVariable
  | some name => if Text.isBlankText name then .error .blankVariable else .ok name

/-- The policy of a run and the naming of its variables. -/
structure Resolved where
  policy : Policy
  naming : Naming
deriving DecidableEq

namespace Settings

/-- How many findings a report shows when nothing else is set. -/
def defaultMaxFindings : Nat := 200

/-- Resolves settings and overrides. -/
def resolve (settings : Settings) (overrides : Overrides) : Except SettingsError Resolved :=
  let profile := (overrides.profile.or settings.profile).getD "strict"
  match profileSeverity? profile with
  | none => .error (.unknownProfile profile)
  | some severity =>
      match applyChecks settings.checks.entries (presetChecks severity) with
      | .error error => .error error
      | .ok checks =>
          match resolveThreshold settings.failOn with
          | .error error => .error error
          | .ok failOn =>
              match resolveVariable settings.executionVariable with
              | .error error => .error error
              | .ok executionVariable =>
                  .ok
                    { policy :=
                        { profile
                          failOn
                          maxFindings :=
                            ((overrides.maxFindings.or settings.maxFindings).map
                              UInt32.toNat).getD defaultMaxFindings
                          environment := unlessEmpty (overrides.environment.or settings.environment)
                          checks }
                      naming :=
                        { lead := unlessEmpty (overrides.lead.or settings.lead)
                          executionVariable } }

end Settings

end ConfigGate
