import ConfigGate.Proofs.Gate.Identity
import ConfigGate.Proofs.Gate.Sorting
import ConfigGate.Proofs.Rule.Truth

/-!
# What depends on a key

A run whose context differs from that of another in the value of one key finds other things about
that key, and about invariants whose rules refer to it. All else is as it was: the other findings
are the same and stand in the same order, and the other invariants and keys have the same results.

Results:
1. `filter_allFindings`: what is found elsewhere does not depend on the key;
2. `evaluate_elsewhere`: nor does what a run shows elsewhere, if it shows all it finds.
-/

namespace ConfigGate

/-- `Context.AgreesOff key left right`: the contexts have the same tag, and the same values but for
the key. -/
structure Context.AgreesOff (key : String) (left right : Context) : Prop where
  tag : left.executionEnv = right.executionEnv
  values : ∀ other, other ≠ key → left.values.get? other = right.values.get? other

/-- Whether an invariant of this name refers to the key. -/
def Schema.refersTo (schema : Schema) (key name : String) : Bool :=
  schema.invariants.any fun invariant =>
    invariant.name == name && invariant.expr.refs.contains key

/-- Whether a finding is about the key, or about an invariant that refers to it. -/
def Finding.dependsOn (schema : Schema) (key : String) (finding : Finding) : Bool :=
  if finding.checkId = Check.invariantRule.id then
    (finding.dataText? "invariant").any (schema.refersTo key)
  else finding.dataText? "key" == some key

variable {schema : Schema} {key : String} {left right : Context}

theorem Finding.Identified.dependsOn_of_key {finding : Finding} {check : Check} {subject : String}
    {pattern : Option String} (identified : finding.Identified check subject pattern)
    (about : check.subjectName = "key") : finding.dependsOn schema key = (subject == key) := by
  have other : finding.checkId ≠ Check.invariantRule.id := by
    rw [identified.checkId]
    cases check <;> first
      | exact absurd about (by decide)
      | decide
  have subjectText := identified.subject
  rw [about] at subjectText
  rw [dependsOn, if_neg other, subjectText]
  rfl

theorem brokenFinding_dependsOn (severity : Severity) (result : InvariantResult) :
    (brokenFinding severity result).dependsOn schema key = schema.refersTo key result.name := by
  have identified := brokenFinding_identified severity result
  have subjectText : (brokenFinding severity result).dataText? "invariant" = some result.name :=
    identified.subject
  rw [Finding.dependsOn, if_pos identified.checkId, subjectText]
  rfl

/-! ## The checks one by one -/

/-- What a test keeps of the findings at each entry, it keeps of all of them. -/
theorem filter_filterMap_congr {α : Type} {keep : Finding → Bool} {entries : List α}
    {make other : α → Option Finding}
    (same : ∀ entry ∈ entries, (make entry).filter keep = (other entry).filter keep) :
    (entries.filterMap make).filter keep = (entries.filterMap other).filter keep := by
  rw [List.filter_filterMap, List.filter_filterMap]
  exact List.filterMap_congr same

/-- A finding that depends on the key is left out. -/
theorem filter_of_dependsOn {made : Option Finding}
    (depends : ∀ finding, made = some finding → finding.dependsOn schema key = true) :
    made.filter (fun finding => !finding.dependsOn schema key) = none := by
  cases made with
  | none => rfl
  | some finding => simp [depends finding rfl]

variable (agrees : Context.AgreesOff key left right)

include agrees in
theorem missingFinding?_elsewhere (severity : Severity) (entry : String × KeyDecl) :
    (missingFinding? severity left entry).filter (fun finding => !finding.dependsOn schema key) =
      (missingFinding? severity right entry).filter
        fun finding => !finding.dependsOn schema key := by
  obtain ⟨other, decl⟩ := entry
  by_cases same : other = key
  · have depends (context : Context) : ∀ finding,
        missingFinding? severity context (other, decl) = some finding →
          finding.dependsOn schema key = true := by
      intro finding made
      obtain ⟨-, -, rfl⟩ := missingFinding?_eq_some_iff.mp made
      rw [(missingFinding_identified severity other decl).dependsOn_of_key rfl, same]
      exact beq_self_eq_true key
    rw [filter_of_dependsOn (depends left), filter_of_dependsOn (depends right)]
  · have setSame : left.values.contains other = right.values.contains other := by
      rw [SortedMap.contains, SortedMap.contains, agrees.values other same]
    simp only [missingFinding?, setSame]

include agrees in
theorem undeclaredFinding?_elsewhere (severity : Severity) (entry : String × KeyDecl) :
    (undeclaredFinding? severity left entry).filter
        (fun finding => !finding.dependsOn schema key) =
      (undeclaredFinding? severity right entry).filter
        fun finding => !finding.dependsOn schema key := by
  obtain ⟨other, decl⟩ := entry
  by_cases same : other = key
  · have depends (context : Context) : ∀ finding,
        undeclaredFinding? severity context (other, decl) = some finding →
          finding.dependsOn schema key = true := by
      intro finding made
      obtain ⟨value, -, -, -, rfl⟩ := undeclaredFinding?_eq_some_iff.mp made
      rw [(undeclaredFinding_identified severity other value decl).dependsOn_of_key rfl, same]
      exact beq_self_eq_true key
    rw [filter_of_dependsOn (depends left), filter_of_dependsOn (depends right)]
  · simp only [undeclaredFinding?, agrees.values other same]

include agrees in
/-- An invariant that does not refer to the key evaluates to the same result. -/
theorem evaluate_elsewhere_of_invariant {invariant : Invariant}
    (elsewhere : key ∉ invariant.expr.refs) :
    invariant.evaluate left = invariant.evaluate right := by
  refine Invariant.evaluate_congr (fun _ => agrees.tag) fun path member => ?_
  have other : path ≠ key := fun same => elsewhere (same ▸ member)
  rw [Context.value, Context.value, agrees.values path other]

theorem refersTo_of_mem {invariant : Invariant} (member : invariant ∈ schema.invariants)
    (refers : key ∈ invariant.expr.refs) : schema.refersTo key invariant.name = true := by
  refine List.any_eq_true.mpr ⟨invariant, member, ?_⟩
  rw [beq_self_eq_true, Bool.true_and]
  exact List.contains_iff_mem.mpr refers

include agrees in
theorem brokenFinding?_elsewhere (severity : Severity) {invariant : Invariant}
    (member : invariant ∈ schema.invariants) :
    (brokenFinding? severity (invariant.evaluate left)).filter
        (fun finding => !finding.dependsOn schema key) =
      (brokenFinding? severity (invariant.evaluate right)).filter
        fun finding => !finding.dependsOn schema key := by
  by_cases refers : key ∈ invariant.expr.refs
  · have depends (context : Context) : ∀ finding,
        brokenFinding? severity (invariant.evaluate context) = some finding →
          finding.dependsOn schema key = true := by
      intro finding made
      obtain ⟨-, rfl⟩ := brokenFinding?_eq_some_iff.mp made
      rw [brokenFinding_dependsOn]
      exact refersTo_of_mem member refers
    rw [filter_of_dependsOn (depends left), filter_of_dependsOn (depends right)]
  · rw [evaluate_elsewhere_of_invariant agrees refers]

/-! ## Contracts -/

/-- The violations of other keys. -/
def ContractResult.elsewhere (key : String) (result : ContractResult) : List Violation :=
  result.violations.filter fun violation => violation.key != key

include agrees in
theorem elsewhere_evaluate (contract : Contract) :
    (contract.evaluate left.values).elsewhere key =
      (contract.evaluate right.values).elsewhere key := by
  have restricted (values : SortedMap String) : (contract.evaluate values).elsewhere key =
      (values.entries.filter fun entry => entry.1 != key).filterMap fun entry =>
        contract.violation? entry.1 entry.2 := by
    rw [ContractResult.elsewhere, Contract.evaluate, List.filter_filterMap, List.filterMap_filter]
    refine List.filterMap_congr fun entry _ => ?_
    cases found : contract.violation? entry.1 entry.2 with
    | none => simp
    | some violation =>
        rw [Option.filter_some, Contract.key_eq_of_violation? found]
  have sameEntries : (left.values.entries.filter fun entry => entry.1 != key) =
      right.values.entries.filter fun entry => entry.1 != key :=
    SortedMap.filter_entries_eq (· != key) fun other different =>
      agrees.values other (by simpa using different)
  rw [restricted, restricted, sameEntries]

theorem filter_contractFindings (policy : Policy) (result : ContractResult) :
    (contractFindings policy result).filter (fun finding => !finding.dependsOn schema key) =
      contractFindings policy { result with violations := result.elsewhere key } := by
  rw [contractFindings, contractFindings, ContractResult.elsewhere, List.filter_filterMap,
    List.filterMap_filter]
  refine List.filterMap_congr fun violation _ => ?_
  cases policy.severity? (Check.ofClause violation.clause).id with
  | none => simp
  | some severity =>
      have identified := violationFinding_identified severity result.environment violation
      rw [Option.map_some, Option.filter_some,
        identified.dependsOn_of_key (Check.ofClause_subjectName _)]
      rfl

namespace Gate

/-! ## Runs -/

/-- What a test keeps of a check's findings depends on what it keeps of them at each severity. -/
theorem filter_whenOn_congr {policy : Policy} {check : Check} {keep : Finding → Bool}
    {made other : Severity → List Finding}
    (same : ∀ severity, (made severity).filter keep = (other severity).filter keep) :
    (whenOn policy check made).filter keep = (whenOn policy check other).filter keep := by
  unfold whenOn
  split
  · rfl
  · exact same _

include agrees in
theorem contractName_elsewhere (policy : Policy) :
    contractName policy left = contractName policy right := by
  rw [contractName, contractName, agrees.tag]

include agrees in
/-- The same contract applies, and it is violated by the same values of other keys. -/
theorem contractResult?_elsewhere (policy : Policy) :
    (contractResult? schema left policy).map (·.elsewhere key) =
      (contractResult? schema right policy).map (·.elsewhere key) := by
  rw [contractResult?, contractResult?, contractName_elsewhere agrees]
  cases schema.contract? (contractName policy right) with
  | none => rfl
  | some contract => exact congrArg some (elsewhere_evaluate agrees contract)

include agrees in
/-- What is found elsewhere does not depend on the key. -/
theorem filter_allFindings (policy : Policy) :
    (allFindings schema left policy).filter (fun finding => !finding.dependsOn schema key) =
      (allFindings schema right policy).filter fun finding => !finding.dependsOn schema key := by
  have required : (whenOn policy .required fun severity =>
        requiredFindings severity schema left).filter
          (fun finding => !finding.dependsOn schema key) =
      (whenOn policy .required fun severity => requiredFindings severity schema right).filter
        fun finding => !finding.dependsOn schema key := by
    refine filter_whenOn_congr fun severity => ?_
    rw [requiredFindings_eq_filterMap, requiredFindings_eq_filterMap]
    exact filter_filterMap_congr fun entry _ => missingFinding?_elsewhere agrees severity entry
  have enum : (whenOn policy .enumValue fun severity =>
        enumFindings severity schema left).filter
          (fun finding => !finding.dependsOn schema key) =
      (whenOn policy .enumValue fun severity => enumFindings severity schema right).filter
        fun finding => !finding.dependsOn schema key := by
    refine filter_whenOn_congr fun severity => ?_
    rw [enumFindings_eq_filterMap, enumFindings_eq_filterMap]
    exact filter_filterMap_congr fun entry _ => undeclaredFinding?_elsewhere agrees severity entry
  have broken : (whenOn policy .invariantRule fun severity =>
        invariantFindings severity (invariantResults schema left)).filter
          (fun finding => !finding.dependsOn schema key) =
      (whenOn policy .invariantRule fun severity =>
        invariantFindings severity (invariantResults schema right)).filter
          fun finding => !finding.dependsOn schema key := by
    refine filter_whenOn_congr fun severity => ?_
    rw [invariantFindings_eq_filterMap, invariantFindings_eq_filterMap, invariantResults,
      invariantResults, List.filterMap_map, List.filterMap_map]
    exact filter_filterMap_congr fun invariant member =>
      brokenFinding?_elsewhere agrees severity member
  unfold allFindings
  simp only [List.filter_append]
  rw [required, enum, broken, contractResult?, contractResult?, contractName_elsewhere agrees]
  cases schema.contract? (contractName policy right) with
  | none => rfl
  | some contract =>
      simp only [Option.map_some]
      rw [filter_contractFindings, filter_contractFindings, elsewhere_evaluate agrees]
      rfl

/-- A run that shows all it finds shows the findings that pass a test in their order. -/
theorem filter_findings_of_whole {context : Context} {policy : Policy}
    (whole : (evaluate schema context policy).data.truncatedReason = none)
    (keep : Finding → Bool) :
    (evaluate schema context policy).findings.filter keep =
      Finding.sort ((allFindings schema context policy).filter keep) := by
  rw [findings_of_whole whole, Finding.filter_sort]

/-- If two contexts differ in the value of one key, and the runs show all they find, then the runs
show the same findings in the same order, but for those about the key and about invariants that
refer to it. The results of the other invariants and the violations of other keys are the same. -/
theorem evaluate_elsewhere (policy : Policy) (agrees : Context.AgreesOff key left right)
    (leftWhole : (evaluate schema left policy).data.truncatedReason = none)
    (rightWhole : (evaluate schema right policy).data.truncatedReason = none) :
    (evaluate schema left policy).findings.filter (fun finding => !finding.dependsOn schema key) =
        (evaluate schema right policy).findings.filter
          (fun finding => !finding.dependsOn schema key) ∧
      (∀ (position : Nat) (invariant : Invariant), schema.invariants[position]? = some invariant →
        key ∉ invariant.expr.refs →
          (evaluate schema left policy).invariants[position]? =
            (evaluate schema right policy).invariants[position]?) ∧
      (evaluate schema left policy).contract.map (·.elsewhere key) =
        (evaluate schema right policy).contract.map (·.elsewhere key) := by
  refine ⟨?_, fun position invariant placed elsewhere => ?_, ?_⟩
  · rw [filter_findings_of_whole leftWhole, filter_findings_of_whole rightWhole,
      filter_allFindings agrees]
  · show (schema.invariants.map _)[position]? = (schema.invariants.map _)[position]?
    rw [List.getElem?_map, List.getElem?_map, placed, Option.map_some, Option.map_some,
      evaluate_elsewhere_of_invariant agrees elsewhere]
  · exact contractResult?_elsewhere agrees policy

/-! ## A key that is no longer set -/

/-- Two keys, an invariant about either and a clause about either. -/
def pairedSchema : Schema :=
  let rule (key value : String) : Rule.Expr := .comparison (.configRef key) .equal (.literal value)
  { config := .ofList [("db.env", ⟨.enum, true, ["prod"]⟩), ("log.level", ⟨.enum, true, ["info"]⟩)]
    invariants := [⟨"env", (rule "db.env" "prod").format, rule "db.env" "prod"⟩,
      ⟨"level", (rule "log.level" "info").format, rule "log.level" "info"⟩]
    environments := .ofList [("prod", ⟨"prod", .ofList [("db.env", .allow ["prod"])],
      .ofList [("log.level", .deny ["de*"])]⟩)] }

/-- Both keys have values that every check finds fault with. -/
def bothSet : Context := ⟨.ofList [("db.env", "test"), ("log.level", "debug")], "prod"⟩

/-- Only the first key is set. -/
def oneSet : Context := ⟨.ofList [("db.env", "test")], "prod"⟩

/-- Every check runs, and there is room for every finding. -/
def roomyPolicy : Policy :=
  { profile := "strict"
    failOn := .error
    maxFindings := 9
    environment := none
    checks := .ofList (Check.all.map fun check => (check.id, ⟨true, .error⟩)) }

/-- With the second key no longer set other things are found about it, and the three findings about
the first key and its invariant stay. -/
theorem pairedSchema_elsewhere :
    Context.AgreesOff "log.level" bothSet oneSet ∧
      ((evaluate pairedSchema bothSet roomyPolicy).findings.filter fun finding =>
          !finding.dependsOn pairedSchema "log.level") =
        ((evaluate pairedSchema oneSet roomyPolicy).findings.filter fun finding =>
          !finding.dependsOn pairedSchema "log.level") ∧
      (allFindings pairedSchema bothSet roomyPolicy).map (·.code) =
        ["value_not_in_enum", "value_not_in_enum", "invariant_violated", "invariant_violated",
          "value_not_allowed", "value_denied"] ∧
      (allFindings pairedSchema oneSet roomyPolicy).map (·.code) =
        ["missing_required_key", "value_not_in_enum", "invariant_violated", "invariant_violated",
          "value_not_allowed"] ∧
      ((allFindings pairedSchema oneSet roomyPolicy).filter fun finding =>
        !finding.dependsOn pairedSchema "log.level").length = 3 := by
  have agrees : Context.AgreesOff "log.level" bothSet oneSet := by
    refine ⟨rfl, fun other different => ?_⟩
    simp [bothSet, oneSet, different.symm]
  have setWhole : (evaluate pairedSchema bothSet roomyPolicy).data.truncatedReason = none :=
    truncatedReason_eq_none_iff.mpr (by decide +kernel)
  have unsetWhole : (evaluate pairedSchema oneSet roomyPolicy).data.truncatedReason = none :=
    truncatedReason_eq_none_iff.mpr (by decide +kernel)
  obtain ⟨same, -, -⟩ := evaluate_elsewhere roomyPolicy agrees setWhole unsetWhole
  exact ⟨agrees, same, by decide +kernel, by decide +kernel, by decide +kernel⟩

end Gate

end ConfigGate
