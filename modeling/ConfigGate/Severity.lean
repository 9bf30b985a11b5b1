/-!
# Severities and verdicts
-/

namespace ConfigGate

/-- How bad a finding is. -/
inductive Severity where
  | info
  | warning
  | error
deriving DecidableEq, Repr

namespace Severity

/-- The word for a severity. -/
def word : Severity → String
  | info => "info"
  | warning => "warning"
  | error => "error"

/-- The severity a word stands for. -/
def ofWord? : String → Option Severity
  | "info" => some info
  | "warning" => some warning
  | "error" => some error
  | _ => none

/-- The place of a severity in a list of findings: errors come first. -/
def rank : Severity → Nat
  | error => 0
  | warning => 1
  | info => 2

end Severity

/-- What a run concludes. -/
inductive Verdict where
  | pass
  | warn
  | fail
deriving DecidableEq, Repr

namespace Verdict

/-- The word for a verdict. -/
def word : Verdict → String
  | pass => "pass"
  | warn => "warn"
  | fail => "fail"

/-- The verdict a word stands for. -/
def ofWord? : String → Option Verdict
  | "pass" => some pass
  | "warn" => some warn
  | "fail" => some fail
  | _ => none

/-- How a report shows a verdict. -/
def label : Verdict → String
  | pass => "PASS"
  | warn => "WARN"
  | fail => "FAIL"

/-- The exit code of a run with the verdict: only a failure is told apart. -/
def exitCode : Verdict → UInt32
  | pass => 0
  | warn => 0
  | fail => 2

end Verdict

end ConfigGate
