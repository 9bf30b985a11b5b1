import ConfigGate.Json.Writer
import ConfigGate.Report.Json
import ConfigGate.Report.View
import ConfigGate.Time.InternetDate

/-!
# Reports

A report is what a run leaves behind: who ran, when, and what was found. Its text is indented JSON
with the members in a fixed order.
-/

namespace ConfigGate

/-- The program that made a report. -/
structure Tool where
  name : String
  version : String
deriving DecidableEq, Repr

/-- This program. -/
def Tool.current : Tool := ⟨"cfgguard", "0.1.0"⟩

/-- The JSON of a tool. -/
def Tool.toJson (tool : Tool) : Json :=
  .object [("name", .text tool.name), ("version", .text tool.version)]

/-- The outcome of a run. -/
structure Report where
  formatName : String
  tool : Tool
  startedAt : Timestamp
  finishedAt : Timestamp
  verdict : Verdict
  findings : List Finding
  data : ReportData
  invariants : List InvariantResult
  contract : Option ContractResult

namespace Report

/-- The name of the format. -/
def currentFormat : String := "cfgguard.report.v1"

/-- The JSON of a report. -/
def toJson (report : Report) : Json :=
  .object ([("schema", .text report.formatName), ("tool", report.tool.toJson),
      ("started_at", .text report.startedAt.text), ("finished_at", .text report.finishedAt.text),
      ("verdict", .text report.verdict.word),
      ("findings", .array (report.findings.map Finding.toJson)), ("data", report.data.toJson),
      ("invariants", .array (report.invariants.map InvariantResult.toJson))] ++
    optionalMember "contract" ContractResult.toJson report.contract)

/-- The text of a report. -/
def text (report : Report) : String := report.toJson.pretty

/-- What a rendering shows of a report. -/
def view (report : Report) : ReportView :=
  { verdict := report.verdict
    findings := report.findings.map fun finding =>
      ⟨finding.severity, some finding.checkId, finding.code, finding.message, finding.location,
        finding.help, finding.url⟩
    invariants := report.invariants.map fun result =>
      ⟨result.name, result.passed, result.message⟩
    executionEnv := report.data.executionEnv
    contract := report.data.contract
    findingsEmitted := report.data.findingsEmitted
    findingsTotal := report.data.findingsTotal
    truncatedReason := report.data.truncatedReason }

/-! ## Runs that came to nothing -/

/-- The name of the check that a run itself works. -/
def runtimeCheckId : String := "tool.runtime"

/-- The finding that a run did not work. -/
def runtimeFinding (message : String) : Finding :=
  { severity := .error
    checkId := runtimeCheckId
    code := "runtime_error"
    message
    location := none
    help := some "Fix the tool error and re-run cfgguard."
    url := none
    fingerprint := none
    data := .null }

/-- The report of a run that did not work. -/
def ofRuntimeError (now : Timestamp) (message : String) : Report :=
  { formatName := currentFormat
    tool := .current
    startedAt := now
    finishedAt := now
    verdict := .fail
    findings := [runtimeFinding message]
    data :=
      { profile := "unknown"
        executionEnv := ""
        contract := none
        keysDeclared := 0
        keysResolved := 0
        invariantsEvaluated := 0
        findingsTotal := 1
        findingsEmitted := 1
        truncatedReason := none
        configSha256 := none }
    invariants := []
    contract := none }

end Report

end ConfigGate
