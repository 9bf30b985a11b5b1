import ConfigGate.SortedMap
import ConfigGate.Severity

/-!
# Policies

A policy says which checks run and how severe their findings are, which contract applies, how many
findings a report shows, and which severity fails a run.
-/

namespace ConfigGate

/-- The least severity that fails a run. -/
inductive FailOn where
  | error
  | warning
deriving DecidableEq, Repr

/-- The word for a failure threshold. -/
def FailOn.word : FailOn → String
  | error => "error"
  | warning => "warning"

/-- Whether one check runs, and how severe its findings are. -/
structure CheckPolicy where
  enabled : Bool
  severity : Severity
deriving DecidableEq, Repr

/-- How a run judges. Checks that are not listed do not run. -/
structure Policy where
  profile : String
  failOn : FailOn
  maxFindings : Nat
  environment : Option String
  checks : SortedMap CheckPolicy
deriving DecidableEq

/-- The severity of a check that runs. -/
def Policy.severity? (policy : Policy) (checkId : String) : Option Severity :=
  match policy.checks.get? checkId with
  | none => none
  | some check => if check.enabled then some check.severity else none

end ConfigGate
