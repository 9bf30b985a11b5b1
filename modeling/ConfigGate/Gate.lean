import ConfigGate.Check

/-!
# The gate

`Gate.evaluate` holds a context against a schema under a policy. The findings are put in order
before they are cut to the policy's number, and the verdict is that of the findings that remain.
-/

namespace ConfigGate

/-- The figures of a run. -/
structure ReportData where
  profile : String
  executionEnv : String
  contract : Option String
  keysDeclared : UInt32
  keysResolved : UInt32
  invariantsEvaluated : UInt32
  findingsTotal : UInt32
  findingsEmitted : UInt32
  truncatedReason : Option String
  configSha256 : Option String
deriving DecidableEq, Repr

namespace Gate

/-- What a run concludes and why. -/
structure Evaluation where
  verdict : Verdict
  findings : List Finding
  data : ReportData
  counts : SeverityCounts
  invariants : List InvariantResult
  contract : Option ContractResult

/-- The name of the contract that applies: the policy's environment, else the execution tag. -/
def contractName (policy : Policy) (context : Context) : String :=
  policy.environment.getD context.executionEnv

/-- The values held against the contract that applies, if the schema has it. -/
def contractResult? (schema : Schema) (context : Context) (policy : Policy) :
    Option ContractResult :=
  (schema.contract? (contractName policy context)).map fun contract =>
    contract.evaluate context.values

/-- The results of all invariants, in their order. -/
def invariantResults (schema : Schema) (context : Context) : List InvariantResult :=
  schema.invariants.map (Invariant.evaluate context)

/-- The findings of a check if it runs. -/
def whenOn (policy : Policy) (check : Check) (findings : Severity → List Finding) :
    List Finding :=
  match policy.severity? check.id with
  | none => []
  | some severity => findings severity

/-- All findings, in the order in which the checks make them. -/
def allFindings (schema : Schema) (context : Context) (policy : Policy) : List Finding :=
  whenOn policy .required (fun severity => requiredFindings severity schema context) ++
    whenOn policy .enumValue (fun severity => enumFindings severity schema context) ++
    whenOn policy .invariantRule
      (fun severity => invariantFindings severity (invariantResults schema context)) ++
    (match contractResult? schema context policy with
      | none => []
      | some result => contractFindings policy result)

/-- The verdict of a list of findings. -/
def verdict (failOn : FailOn) (findings : List Finding) : Verdict :=
  if findings.any fun finding => finding.severity = .error then .fail
  else if findings.any fun finding => finding.severity = .warning then
    match failOn with
    | .warning => .fail
    | .error => .warn
  else .pass

/-- Why there are fewer findings than were found. -/
def truncatedReason? (maxFindings found : Nat) : Option String :=
  if maxFindings < found then some s!"findings truncated to max_findings={maxFindings}" else none

/-- Holds a context against a schema under a policy. -/
def evaluate (schema : Schema) (context : Context) (policy : Policy) : Evaluation :=
  let sorted := Finding.sort (allFindings schema context policy)
  let emitted := sorted.take policy.maxFindings
  let invariants := invariantResults schema context
  let contract := contractResult? schema context policy
  { verdict := verdict policy.failOn emitted
    findings := emitted
    data :=
      { profile := policy.profile
        executionEnv := context.executionEnv
        contract := contract.map (·.environment)
        keysDeclared := schema.config.size.toUInt32
        keysResolved := context.values.size.toUInt32
        invariantsEvaluated := invariants.length.toUInt32
        findingsTotal := sorted.length.toUInt32
        findingsEmitted := emitted.length.toUInt32
        truncatedReason := truncatedReason? policy.maxFindings sorted.length
        configSha256 := none }
    counts := .ofFindings emitted
    invariants
    contract }

end Gate

end ConfigGate
