import ConfigGate.Report.View

/-!
# Reports in Markdown
-/

namespace ConfigGate

/-- How Markdown shows a severity. -/
def Severity.heading : Severity → String
  | info => "INFO"
  | warning => "WARN"
  | error => "ERROR"

/-- A line made of a value, if there is one. -/
def optionalLine (line : String → String) : Option String → String
  | none => ""
  | some value => line value

/-- A text in the quotes of code. -/
def codeSpan (text : String) : String := "`" ++ text ++ "`"

/-- The number of findings shown and found. -/
def ReportView.findingCounts (report : ReportView) : String :=
  toString report.findingsEmitted.toNat ++ " (emitted) / " ++
    toString report.findingsTotal.toNat ++ " (total)"

/-- The entry of a finding. -/
def FindingView.markdown (finding : FindingView) : String :=
  "- [" ++ finding.severity.heading ++ "] " ++ codeSpan (finding.checkId.getD "") ++ " / " ++
    codeSpan finding.code ++ ": " ++ finding.message ++ "\n" ++
    optionalLine (fun help => "  - help: " ++ help ++ "\n") finding.help ++
    optionalLine (fun url => "  - url: " ++ url ++ "\n") finding.url

/-- The row of an invariant. -/
def InvariantView.markdown (invariant : InvariantView) : String :=
  "| " ++ codeSpan invariant.name ++ " | " ++ (if invariant.passed then "pass" else "**fail**") ++
    " |\n"

namespace ReportView

/-- The list at the head of a report. -/
def markdownHead (report : ReportView) : String :=
  let tag := if report.executionEnv.isEmpty then "(unset)" else report.executionEnv
  "# cfgguard report\n\n- Verdict: **" ++ report.verdict.label ++
    "**\n- Execution environment: " ++ codeSpan tag ++
    "\n- Contract: " ++ (report.contract.map codeSpan).getD "none" ++
    "\n- Findings: " ++ report.findingCounts ++ "\n\n" ++
    optionalLine (fun reason => "> Note: " ++ reason ++ "\n\n") report.truncatedReason

/-- The table of invariants, if there are any. -/
def markdownInvariants (report : ReportView) : String :=
  if report.invariants.isEmpty then ""
  else
    "## Invariants\n\n| Invariant | Result |\n|---|---|\n" ++
      String.join (report.invariants.map InvariantView.markdown) ++ "\n"

/-- The list of findings. -/
def markdownFindings (report : ReportView) : String :=
  if report.findings.isEmpty then "No findings.\n"
  else "## Findings\n\n" ++ String.join (report.findings.map FindingView.markdown)

/-- The Markdown of a report. -/
def markdown (report : ReportView) : String :=
  report.markdownHead ++ report.markdownInvariants ++ report.markdownFindings

end ReportView

end ConfigGate
