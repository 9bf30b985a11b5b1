import ConfigGate.Finding

/-!
# What a rendering shows

A view holds what Markdown, summaries and annotations show of a report. A finding in a view may lack
the name of its check.
-/

namespace ConfigGate

/-- What a rendering shows of a finding. -/
structure FindingView where
  severity : Severity
  checkId : Option String
  code : String
  message : String
  location : Option Location
  help : Option String
  url : Option String
deriving DecidableEq, Repr

/-- What a rendering shows of an invariant. -/
structure InvariantView where
  name : String
  passed : Bool
  message : String
deriving DecidableEq, Repr

/-- What a rendering shows of a report. -/
structure ReportView where
  verdict : Verdict
  findings : List FindingView
  invariants : List InvariantView
  executionEnv : String
  contract : Option String
  findingsEmitted : UInt32
  findingsTotal : UInt32
  truncatedReason : Option String
deriving DecidableEq, Repr

end ConfigGate
