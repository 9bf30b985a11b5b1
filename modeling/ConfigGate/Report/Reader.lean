import ConfigGate.Failure
import ConfigGate.Json.Reader
import ConfigGate.Json.Record
import ConfigGate.Report.Basic

/-!
# Reports read back

`Report.read` reads the text of a report. The name of the format is looked at before anything else.
-/

namespace ConfigGate

/-- Why a text is not a report. -/
inductive ReportError where
  | notJson
  | unknownFormat (name : String)
  | malformed
deriving DecidableEq, Repr

/-- The text of an error. -/
def ReportError.message : ReportError → String
  | notJson => "parse report json"
  | unknownFormat name =>
      "unknown report schema: " ++ name ++ " (expected " ++ Report.currentFormat ++ ")"
  | malformed => "parse cfgguard report"

/-- Why a report could not be read, where `cause` is what is said about its text. -/
def ReportError.failure (error : ReportError) (cause : String) : Failure :=
  match error with
  | unknownFormat _ => ⟨error.message, []⟩
  | notJson | malformed => ⟨error.message, [cause]⟩

open Json

/-- Reads a location. -/
def Location.ofJson? (value : Json) : Option Location := do
  let record ← record? ["path", "line", "col"] 3 value
  let path ← record.field "path" text?
  let line ← record.field? "line" count?
  let column ← record.field? "col" count?
  some ⟨path, line, column⟩

/-- Reads a finding. -/
def Finding.ofJson? (value : Json) : Option Finding := do
  let record ← record? ["severity", "check_id", "code", "message", "location", "help", "url",
    "fingerprint", "data"] 8 value
  let severity ← record.field "severity" fun value => (word? value).bind Severity.ofWord?
  let checkId ← record.field "check_id" text?
  let code ← record.field "code" text?
  let message ← record.field "message" text?
  let location ← record.field? "location" Location.ofJson?
  let help ← record.field? "help" text?
  let url ← record.field? "url" text?
  let fingerprint ← record.field? "fingerprint" text?
  let data ← record.fieldOr "data" .null some
  some { severity, checkId, code, message, location, help, url, fingerprint, data }

/-- Reads the result of an invariant. -/
def InvariantResult.ofJson? (value : Json) : Option InvariantResult := do
  let record ← record? ["name", "rule", "passed", "left_value", "right_value", "message"] 5 value
  let name ← record.field "name" text?
  let rule ← record.field "rule" text?
  let passed ← record.field "passed" bool?
  let leftValue ← record.field "left_value" text?
  let rightValue ← record.field "right_value" text?
  let message ← record.fieldOr "message" "" text?
  some { name, rule, passed, leftValue, rightValue, message }

/-- Reads a violation. -/
def Violation.ofJson? (value : Json) : Option Violation := do
  let record ← record? ["key", "actual_value", "rule_type", "expected_values", "pattern"] 4 value
  let key ← record.field "key" text?
  let actualValue ← record.field "actual_value" text?
  let clause ← record.field "rule_type" fun value => (word? value).bind ClauseKind.ofWord?
  let expectedValues ← record.field "expected_values" (list? text?)
  let pattern ← record.field? "pattern" text?
  some { key, actualValue, clause, expectedValues, pattern }

/-- Reads the result of a contract. -/
def ContractResult.ofJson? (value : Json) : Option ContractResult := do
  let record ← record? ["environment", "passed", "violations"] 3 value
  let environment ← record.field "environment" text?
  let passed ← record.field "passed" bool?
  let violations ← record.field "violations" (list? Violation.ofJson?)
  some { environment, passed, violations }

/-- Reads the figures of a run. -/
def ReportData.ofJson? (value : Json) : Option ReportData := do
  let record ← record? ["profile", "execution_env", "contract", "keys_declared", "keys_resolved",
    "invariants_evaluated", "findings_total", "findings_emitted", "truncated_reason",
    "config_sha256"] 10 value
  let profile ← record.field "profile" text?
  let executionEnv ← record.field "execution_env" text?
  let contract ← record.field? "contract" text?
  let keysDeclared ← record.field "keys_declared" count?
  let keysResolved ← record.field "keys_resolved" count?
  let invariantsEvaluated ← record.field "invariants_evaluated" count?
  let findingsTotal ← record.field "findings_total" count?
  let findingsEmitted ← record.field "findings_emitted" count?
  let truncatedReason ← record.field? "truncated_reason" text?
  let configSha256 ← record.field? "config_sha256" text?
  some
    { profile, executionEnv, contract, keysDeclared, keysResolved, invariantsEvaluated,
      findingsTotal, findingsEmitted, truncatedReason, configSha256 }

/-- Reads a tool. -/
def Tool.ofJson? (value : Json) : Option Tool := do
  let record ← record? ["name", "version"] 2 value
  let name ← record.field "name" text?
  let version ← record.field "version" text?
  some ⟨name, version⟩

namespace Report

/-- Reads a time. -/
def time? (value : Json) : Option Timestamp := value.text?.bind Timestamp.read

/-- Reads a report of whatever format name. -/
def ofJson? (value : Json) : Option Report := do
  let record ← record? ["schema", "tool", "started_at", "finished_at", "verdict", "findings",
    "data", "invariants", "contract"] 7 value
  let formatName ← record.field "schema" text?
  let tool ← record.field "tool" Tool.ofJson?
  let startedAt ← record.field "started_at" time?
  let finishedAt ← record.field "finished_at" time?
  let verdict ← record.field "verdict" fun value => (word? value).bind Verdict.ofWord?
  let findings ← record.field "findings" (list? Finding.ofJson?)
  let data ← record.field "data" ReportData.ofJson?
  let invariants ← record.fieldOr "invariants" [] (list? InvariantResult.ofJson?)
  let contract ← record.field? "contract" ContractResult.ofJson?
  some
    { formatName, tool, startedAt, finishedAt, verdict, findings, data, invariants, contract }

/-- The name of the format of a value; empty when it does not give one. -/
def formatOf (value : Json) : String := ((value.member? "schema").bind text?).getD ""

/-- Reads a report. -/
def ofJson (value : Json) : Except ReportError Report :=
  if formatOf value = currentFormat then
    match ofJson? value with
    | some report => .ok report
    | none => .error .malformed
  else .error (.unknownFormat (formatOf value))

/-- Reads the text of a report. -/
def read (text : String) : Except ReportError Report :=
  match Json.read text with
  | none => .error .notJson
  | some value => ofJson value

end Report

end ConfigGate
