import ConfigGate.Finding
import ConfigGate.Policy
import ConfigGate.Schema.Basic

/-!
# Checks

Each check turns what it sees into findings of one severity. There are five: a required key is set,
a key of kind enum has a declared value, every invariant holds, and a contract's allow and deny
clauses are kept.
-/

namespace ConfigGate

/-- The checks that can run. -/
inductive Check where
  | required
  | enumValue
  | invariantRule
  | contractAllow
  | contractDeny
deriving DecidableEq, Repr

namespace Check

/-- Every check, in the order in which they run. -/
def all : List Check := [required, enumValue, invariantRule, contractAllow, contractDeny]

/-- The stable name of a check. -/
def id : Check → String
  | required => "config.required"
  | enumValue => "config.enum"
  | invariantRule => "invariant.rule"
  | contractAllow => "contract.allow"
  | contractDeny => "contract.deny"

/-- The stable name of what a check finds. -/
def code : Check → String
  | required => "missing_required_key"
  | enumValue => "value_not_in_enum"
  | invariantRule => "invariant_violated"
  | contractAllow => "value_not_allowed"
  | contractDeny => "value_denied"

/-- The check that watches a kind of clause. -/
def ofClause : ClauseKind → Check
  | .allow => contractAllow
  | .deny => contractDeny

end Check

/-- A finding of a check about `subject`. -/
def Check.finding (check : Check) (severity : Severity) (subject : String) (detail : Option String)
    (message help : String) (data : List (String × Json)) : Finding :=
  { severity
    checkId := check.id
    code := check.code
    message
    location := none
    help := some help
    url := none
    fingerprint := some (fingerprint check.id check.code subject detail)
    data := Json.sortedObject data }

/-! ## Required keys -/

/-- The finding about a required key that is not set. -/
def missingFinding (severity : Severity) (key : String) (decl : KeyDecl) : Finding :=
  Check.required.finding severity key none ("required config key '" ++ key ++ "' is not set")
    "Set the corresponding environment variable for this deployment."
    [("key", .text key), ("type", .text decl.kind.word)]

/-- One finding per required key that is not set. -/
def requiredFindings (severity : Severity) (schema : Schema) (context : Context) : List Finding :=
  schema.config.entries.filterMap fun (key, decl) =>
    if decl.required && !context.values.contains key then some (missingFinding severity key decl)
    else none

/-! ## Declared values -/

/-- The finding about a key of kind enum that has an undeclared value. -/
def undeclaredFinding (severity : Severity) (key : String) (decl : KeyDecl) (value : String) :
    Finding :=
  Check.enumValue.finding severity key none
    ("config key '" ++ key ++ "' has value '" ++ value ++ "', expected one of: " ++
      Text.commaList decl.values)
    "Use one of the values declared for this key in the schema."
    [("key", .text key), ("type", .text decl.kind.word), ("value", .text value),
      ("allowed", Json.texts decl.values)]

/-- One finding per set key of kind enum whose value is not declared. -/
def enumFindings (severity : Severity) (schema : Schema) (context : Context) : List Finding :=
  schema.config.entries.filterMap fun (key, decl) =>
    match decl.kind, context.values.get? key with
    | .enum, some value =>
        if decl.values.contains value then none
        else some (undeclaredFinding severity key decl value)
    | _, _ => none

/-! ## Invariants -/

/-- The finding about an invariant that does not hold. -/
def brokenFinding (severity : Severity) (result : InvariantResult) : Finding :=
  Check.invariantRule.finding severity result.name none
    ("invariant '" ++ result.name ++ "' failed: " ++ result.message) ("Rule: " ++ result.rule)
    [("invariant", .text result.name), ("rule", .text result.rule),
      ("left", .text result.leftValue), ("right", .text result.rightValue)]

/-- One finding per invariant that does not hold. -/
def invariantFindings (severity : Severity) (results : List InvariantResult) : List Finding :=
  (results.filter fun result => !result.passed).map (brokenFinding severity)

/-! ## Contracts -/

/-- What a finding says about a violation. -/
def Violation.message (environment : String) (violation : Violation) : String :=
  let subject := "'" ++ violation.key ++ "' = '" ++ violation.actualValue ++ "' is "
  match violation.clause, violation.pattern with
  | .deny, some pattern =>
      subject ++ "denied in environment '" ++ environment ++ "' (matches '" ++ pattern ++ "')"
  | _, _ =>
      subject ++ "not allowed in environment '" ++ environment ++ "' (allowed: " ++
        Text.commaList violation.expectedValues ++ ")"

/-- What to do about a violation. -/
def ClauseKind.help : ClauseKind → String
  | allow => "Use one of the values the environment contract allows."
  | deny => "This value is explicitly denied for the environment; choose another."

/-- The finding about a violation. -/
def violationFinding (severity : Severity) (environment : String) (violation : Violation) :
    Finding :=
  (Check.ofClause violation.clause).finding severity violation.key violation.pattern
    (violation.message environment) violation.clause.help
    [("environment", .text environment), ("key", .text violation.key),
      ("value", .text violation.actualValue), ("rule_type", .text violation.clause.word),
      ("expected", Json.texts violation.expectedValues),
      ("pattern", (violation.pattern.map Json.text).getD .null)]

/-- One finding per violation whose check runs. -/
def contractFindings (policy : Policy) (result : ContractResult) : List Finding :=
  result.violations.filterMap fun violation =>
    (policy.severity? (Check.ofClause violation.clause).id).map fun severity =>
      violationFinding severity result.environment violation

end ConfigGate
