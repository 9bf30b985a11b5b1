import ConfigGate.Check

/-!
# Explanations

Every check explains what it looks for, how to mend what it finds, and shows an example before and
after. An explanation is asked for by the name of the check or of its code.

Results: `find?_id`, `find?_code`: both names of a check lead to its explanation.
-/

namespace ConfigGate

/-- What there is to say about a check. -/
structure Explanation where
  title : String
  description : String
  remediation : String
  before : String
  after : String
deriving DecidableEq, Repr

/-- Lines, joined by line feeds. -/
def joinLines (lines : List String) : String := "\n".intercalate lines

/-! ## The five checks -/

namespace Explanation

/-- About required keys. -/
def required : Explanation :=
  { title := "Required Configuration Keys"
    description := joinLines [
      "Detects configuration keys declared `required: true` in the schema that have no",
      "value in the environment.",
      "",
      "Keys are resolved from environment variables: `db.url` is read from `DB_URL`",
      "(or `<PREFIX>_DB_URL` when an env prefix is configured). An empty value counts",
      "as set; an unset variable does not."]
    remediation := joinLines [
      "Export the variable in the deployment environment, or mark the key optional in",
      "the schema if the application really tolerates its absence."]
    before := joinLines [
      "config:",
      "  db.url:",
      "    required: true",
      "# DB_URL is not set"]
    after := joinLines [
      "config:",
      "  db.url:",
      "    required: true",
      "# export DB_URL=postgres://db.internal/app"] }

/-- About declared values. -/
def enumValue : Explanation :=
  { title := "Enumerated Configuration Values"
    description := joinLines [
      "Detects keys declared `type: enum` whose resolved value is not one of the",
      "declared `values`. Comparison is exact and case-sensitive."]
    remediation := joinLines [
      "Set the variable to one of the declared values, or extend the `values` list in",
      "the schema if the new value is legitimate."]
    before := joinLines [
      "config:",
      "  log.level:",
      "    type: enum",
      "    values: [debug, info, warn]",
      "# LOG_LEVEL=verbose"]
    after := "# LOG_LEVEL=debug" }

/-- About invariants. -/
def invariantRule : Explanation :=
  { title := "Cross-Key Invariants"
    description := joinLines [
      "Evaluates the schema's `invariants`: named rules relating config keys and the",
      "execution environment.",
      "",
      "Rules are written as `left == right`, `left != right`, or an implication",
      "`A => B` which only fails when `A` holds and `B` does not. Operands are dotted",
      "config keys, quoted string literals, or `execution.env`."]
    remediation := joinLines [
      "Read the invariant message: it names the rule that failed and the values that",
      "were compared. Fix whichever config value is wrong for this environment."]
    before := joinLines [
      "invariants:",
      "  - name: prod-db",
      "    rule: 'execution.env == \"prod\" => db.env == \"prod\"'",
      "# EXECUTION_ENV=prod DB_ENV=staging"]
    after := "# EXECUTION_ENV=prod DB_ENV=prod" }

/-- About allow clauses. -/
def contractAllow : Explanation :=
  { title := "Contract Allow Lists"
    description := joinLines [
      "Each environment contract may pin keys to an allow list. When a key has an",
      "allow list, its value must equal one of the entries exactly. Allow entries are",
      "never treated as patterns."]
    remediation := joinLines [
      "Use one of the allowed values for this environment, or add the value to the",
      "contract's `allow` list."]
    before := joinLines [
      "environments:",
      "  prod:",
      "    allow:",
      "      db.env: [prod]",
      "# DB_ENV=staging"]
    after := "# DB_ENV=prod" }

/-- About deny clauses. -/
def contractDeny : Explanation :=
  { title := "Contract Deny Lists"
    description := joinLines [
      "Each environment contract may deny values for a key. Deny entries containing",
      "`*` are glob patterns (`*localhost*`), other entries match exactly. A deny",
      "match takes precedence over any allow list for the same key."]
    remediation := joinLines [
      "Point the key at a value that is legitimate for this environment. Denied values",
      "usually indicate a development setting leaking into a higher environment."]
    before := joinLines [
      "environments:",
      "  prod:",
      "    deny:",
      "      db.url: [\"*localhost*\"]",
      "# DB_URL=postgres://localhost/app"]
    after := "# DB_URL=postgres://db.internal/app" }

end Explanation

/-- The explanation of a check. -/
def Check.explanation : Check → Explanation
  | required => .required
  | enumValue => .enumValue
  | invariantRule => .invariantRule
  | contractAllow => .contractAllow
  | contractDeny => .contractDeny

/-! ## Looking up and showing -/

namespace Explanation

/-- The check that a name stands for, be it the check's own or that of its code. -/
def check? (identifier : String) : Option Check :=
  Check.all.find? fun check => check.id == identifier || check.code == identifier

/-- The explanation that a name asks for. -/
def find? (identifier : String) : Option Explanation := (check? identifier).map Check.explanation

theorem check?_id (check : Check) : check? check.id = some check := by
  cases check <;> decide

theorem check?_code (check : Check) : check? check.code = some check := by
  cases check <;> decide

theorem find?_id (check : Check) : find? check.id = some check.explanation := by
  simp [find?, check?_id]

theorem find?_code (check : Check) : find? check.code = some check.explanation := by
  simp [find?, check?_code]

/-- The text of an explanation. -/
def text (explanation : Explanation) : String :=
  explanation.title ++ "\n" ++ "".pushn '=' explanation.title.utf8ByteSize ++ "\n\n" ++
    explanation.description ++ "\n\nRemediation\n-----------\n" ++ explanation.remediation ++
    "\n\nExamples\n--------\n\nBefore (violation):\n```yaml\n" ++ explanation.before ++
    "\n```\n\nAfter (fixed):\n```yaml\n" ++ explanation.after ++ "\n```\n"

end Explanation

/-- A bulleted list, one item a line. -/
def bulletLines (items : List String) : String :=
  String.join (items.map fun item => "  - " ++ item ++ "\n")

/-- What is shown for a name that nothing explains. -/
def notFoundText (identifier : String) (checkIds codes : List String) : String :=
  "Unknown check_id or code: " ++ identifier ++ "\n\nAvailable check_ids:\n" ++
    bulletLines checkIds ++ "\nAvailable codes:\n" ++ bulletLines codes

end ConfigGate
