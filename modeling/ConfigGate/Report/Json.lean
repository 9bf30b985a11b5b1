import ConfigGate.Gate

/-!
# Report parts as JSON

Members stand in a fixed order. Optional members are left out when there is nothing to say.
-/

namespace ConfigGate

/-- A member, unless there is no value. -/
def optionalMember {α : Type} (name : String) (encode : α → Json) :
    Option α → List (String × Json)
  | none => []
  | some value => [(name, encode value)]

/-- A count as a JSON number. -/
def countJson (count : UInt32) : Json := .int count.toNat

/-- The JSON of a location. -/
def Location.toJson (location : Location) : Json :=
  .object ([("path", .text location.path)] ++ optionalMember "line" countJson location.line ++
    optionalMember "col" countJson location.column)

/-- The JSON of a finding. -/
def Finding.toJson (finding : Finding) : Json :=
  .object ([("severity", .text finding.severity.word), ("check_id", .text finding.checkId),
      ("code", .text finding.code), ("message", .text finding.message)] ++
    optionalMember "location" Location.toJson finding.location ++
    optionalMember "help" .text finding.help ++
    optionalMember "url" .text finding.url ++
    optionalMember "fingerprint" .text finding.fingerprint ++
    (match finding.data with
      | .null => []
      | data => [("data", data)]))

/-- The JSON of an invariant's result. -/
def InvariantResult.toJson (result : InvariantResult) : Json :=
  .object ([("name", .text result.name), ("rule", .text result.rule),
      ("passed", .bool result.passed), ("left_value", .text result.leftValue),
      ("right_value", .text result.rightValue)] ++
    (if result.message.isEmpty then [] else [("message", .text result.message)]))

/-- The JSON of a violation. -/
def Violation.toJson (violation : Violation) : Json :=
  .object ([("key", .text violation.key), ("actual_value", .text violation.actualValue),
      ("rule_type", .text violation.clause.word),
      ("expected_values", Json.texts violation.expectedValues)] ++
    optionalMember "pattern" .text violation.pattern)

/-- The JSON of a contract's result. -/
def ContractResult.toJson (result : ContractResult) : Json :=
  .object [("environment", .text result.environment), ("passed", .bool result.passed),
    ("violations", .array (result.violations.map Violation.toJson))]

/-- The JSON of a run's figures. -/
def ReportData.toJson (data : ReportData) : Json :=
  .object ([("profile", .text data.profile), ("execution_env", .text data.executionEnv)] ++
    optionalMember "contract" .text data.contract ++
    [("keys_declared", countJson data.keysDeclared), ("keys_resolved", countJson data.keysResolved),
      ("invariants_evaluated", countJson data.invariantsEvaluated),
      ("findings_total", countJson data.findingsTotal),
      ("findings_emitted", countJson data.findingsEmitted)] ++
    optionalMember "truncated_reason" .text data.truncatedReason ++
    optionalMember "config_sha256" .text data.configSha256)

end ConfigGate
