import ConfigGate.Report.Markdown

/-!
# Summaries for a terminal
-/

namespace ConfigGate

/-- What stands for the name of a check that is not given. -/
def defaultCheckId : String := "cfgguard"

/-- A text of at least `width` characters, filled up with blanks. -/
def padRight (width : Nat) (text : String) : String := text.pushn ' ' (width - text.length)

/-- The line of a finding. -/
def FindingView.summaryLine (finding : FindingView) : String :=
  "  " ++ padRight 7 finding.severity.word ++ " " ++ finding.checkId.getD defaultCheckId ++ "/" ++
    finding.code ++ ": " ++ finding.message ++ "\n"

namespace ReportView

/-- How many invariants hold, and which do not. -/
def summaryInvariants (report : ReportView) : String :=
  if report.invariants.isEmpty then ""
  else
    let passed := report.invariants.countP fun invariant => invariant.passed
    let failed := report.invariants.filter fun invariant => !invariant.passed
    "invariants: " ++ toString passed ++ "/" ++ toString report.invariants.length ++ " passed\n" ++
      String.join (failed.map fun invariant =>
        "  FAIL " ++ invariant.name ++ ": " ++ invariant.message ++ "\n")

/-- The summary of a report. -/
def summary (report : ReportView) : String :=
  let tag := if report.executionEnv.isEmpty then "unset" else report.executionEnv
  "cfgguard: " ++ report.verdict.label ++ " (env=" ++ tag ++ ", contract=" ++
    report.contract.getD "none" ++ ")\n" ++ report.summaryInvariants ++
    "findings: " ++ report.findingCounts ++ "\n" ++
    String.join (report.findings.map FindingView.summaryLine) ++
    optionalLine (fun reason => "note: " ++ reason ++ "\n") report.truncatedReason

end ReportView

end ConfigGate
