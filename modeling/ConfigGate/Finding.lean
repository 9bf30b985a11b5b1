import ConfigGate.Digest.Sha256
import ConfigGate.Json.Basic
import ConfigGate.Severity

/-!
# Findings

A finding is one thing a run found wrong. Its fingerprint depends on the check, the code, what the
finding is about, and the pattern that matched if there is one, and so stays the same from run to
run.
-/

namespace ConfigGate

/-- The place a finding points at. -/
structure Location where
  path : String
  line : Option UInt32
  column : Option UInt32
deriving DecidableEq, Repr

/-- One thing found wrong. `data` is free; null stands for no data. -/
structure Finding where
  severity : Severity
  checkId : String
  code : String
  message : String
  location : Option Location
  help : Option String
  url : Option String
  fingerprint : Option String
  data : Json

/-- The text whose hash identifies a finding. -/
def fingerprintText (checkId code subject : String) (detail : Option String) : String :=
  "|".intercalate ([checkId, code, subject] ++ detail.toList)

/-- The fingerprint of a finding. -/
def fingerprint (checkId code subject : String) (detail : Option String) : String :=
  Digest.sha256 (fingerprintText checkId code subject detail)

namespace Finding

/-- The order of findings in a report: the severest first, then by check, code and message. -/
def order (left right : Finding) : Ordering :=
  (compare left.severity.rank right.severity.rank).then
    ((compare left.checkId right.checkId).then
      ((compare left.code right.code).then (compare left.message right.message)))

/-- Whether the first finding may stand before the second. -/
def atMost (left right : Finding) : Bool := (left.order right).isLE

/-- The findings in the order of a report; those that compare equal keep their order. -/
def sort (findings : List Finding) : List Finding := findings.mergeSort atMost

end Finding

/-- How many findings there are of each severity. -/
structure SeverityCounts where
  info : UInt32
  warning : UInt32
  error : UInt32
deriving DecidableEq, Repr

/-- Counts findings by severity. -/
def SeverityCounts.ofFindings (findings : List Finding) : SeverityCounts :=
  let count (severity : Severity) : UInt32 :=
    (findings.countP fun finding => finding.severity = severity).toUInt32
  ⟨count .info, count .warning, count .error⟩

end ConfigGate
