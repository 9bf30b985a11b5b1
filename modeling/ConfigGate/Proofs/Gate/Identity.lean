import ConfigGate.Proofs.Gate.Findings

/-!
# What a finding is about

The data of a finding name its subject, a key or an invariant, and the pattern that a denied value
matches. `Finding.Identified` says what is named there, and that the fingerprint is made of it: each
kind of finding is identified by its check, its subject and its pattern.
-/

namespace ConfigGate

/-- The text under a name in the data of a finding. -/
def Finding.dataText? (finding : Finding) (name : String) : Option String :=
  (finding.data.member? name).bind Json.text?

/-- The name of the member for the subjects of a check. -/
def Check.subjectName : Check → String
  | invariantRule => "invariant"
  | _ => "key"

/-- The subject that the data of a finding name. -/
def Finding.subject? (finding : Finding) : Option String :=
  finding.dataText? (if finding.checkId = Check.invariantRule.id then "invariant" else "key")

/-- `finding.Identified check subject pattern`: the finding is one of the check about the subject,
for this pattern if there is one, and so say its data and its fingerprint. -/
structure Finding.Identified (finding : Finding) (check : Check) (subject : String)
    (pattern : Option String) : Prop where
  checkId : finding.checkId = check.id
  code : finding.code = check.code
  fingerprint : finding.fingerprint =
    some (ConfigGate.fingerprint check.id check.code subject pattern)
  subject : finding.dataText? check.subjectName = some subject
  pattern : finding.dataText? "pattern" = pattern

theorem Check.finding_dataText? (check : Check) (severity : Severity) (subject : String)
    (detail : Option String) (message help : String) (data : List (String × Json)) (name : String) :
    (check.finding severity subject detail message help data).dataText? name =
      ((SortedMap.ofList data).get? name).bind Json.text? :=
  rfl

section Findings

variable (severity : Severity) (key value environment : String) (decl : KeyDecl)

theorem missingFinding_identified :
    (missingFinding severity key decl).Identified .required key none := by
  constructor
  case checkId => rfl
  case code => rfl
  case fingerprint => rfl
  all_goals simp [missingFinding, Check.finding_dataText?, Check.subjectName, Json.text?]

theorem undeclaredFinding_identified :
    (undeclaredFinding severity key decl value).Identified .enumValue key none := by
  constructor
  case checkId => rfl
  case code => rfl
  case fingerprint => rfl
  all_goals simp [undeclaredFinding, Check.finding_dataText?, Check.subjectName, Json.text?]

theorem brokenFinding_identified (result : InvariantResult) :
    (brokenFinding severity result).Identified .invariantRule result.name none := by
  constructor
  case checkId => rfl
  case code => rfl
  case fingerprint => rfl
  all_goals simp [brokenFinding, Check.finding_dataText?, Check.subjectName, Json.text?]

theorem Check.ofClause_subjectName (clause : ClauseKind) :
    (Check.ofClause clause).subjectName = "key" := by
  cases clause <;> rfl

theorem violationFinding_identified (violation : Violation) :
    (violationFinding severity environment violation).Identified
      (Check.ofClause violation.clause) violation.key violation.pattern := by
  constructor
  case checkId => rfl
  case code => rfl
  case fingerprint => rfl
  case subject =>
    simp [violationFinding, Check.finding_dataText?, Check.ofClause_subjectName, Json.text?]
  case pattern =>
    cases pattern : violation.pattern <;>
      simp [violationFinding, Check.finding_dataText?, Json.text?, pattern]

end Findings

theorem Finding.Identified.subject?_eq {finding : Finding} {check : Check} {subject : String}
    {pattern : Option String} (identified : finding.Identified check subject pattern) :
    finding.subject? = some subject := by
  have name : (if check.id = Check.invariantRule.id then "invariant" else "key") =
      check.subjectName := by
    cases check <;> rfl
  rw [subject?, identified.checkId, name, identified.subject]

end ConfigGate
