import ConfigGate.Proofs.Gate.Dependence

/-!
# Checks and each other

The checks share one list of findings, and one of them may be switched on or off without the others
taking notice: a run without a check shows what the other checks find, in the order in which it
stands in the run with that check. An entry of a policy that names no check changes nothing at all.

Results:
1. `allFindings_without`: without a check all other findings are made, and no more;
2. `evaluate_withEntry`: what a run shows when the entry of one check is another, or is not there.
-/

namespace ConfigGate

/-- The policy with another entry under a name, or with none. -/
def Policy.withEntry (policy : Policy) (checkId : String) (entry : Option CheckPolicy) : Policy :=
  { policy with checks := policy.checks.setEntry checkId entry }

/-- Under every other name the policy says what it said. -/
theorem Policy.severity?_withEntry_ne {policy : Policy} {checkId other : String}
    {entry : Option CheckPolicy} (different : other ≠ checkId) :
    (policy.withEntry checkId entry).severity? other = policy.severity? other := by
  rw [severity?, severity?, withEntry, SortedMap.get?_setEntry, if_neg (Ne.symm different)]

/-- A check whose entry is removed or switched off does not run. -/
theorem Policy.severity?_withEntry_of_off {policy : Policy} {checkId : String}
    {entry : Option CheckPolicy} (off : ∀ check ∈ entry, check.enabled = false) :
    (policy.withEntry checkId entry).severity? checkId = none := by
  rw [severity?, withEntry, SortedMap.get?_setEntry, if_pos rfl]
  cases entry with
  | none => rfl
  | some check => simp [off check rfl]

/-! ## Each finding is of one check -/

section Findings

variable {severity : Severity} {finding : Finding}

theorem checkId_of_mem_requiredFindings {schema : Schema} {context : Context}
    (made : finding ∈ requiredFindings severity schema context) :
    finding.checkId = Check.required.id := by
  obtain ⟨key, decl, -, -, -, rfl⟩ := mem_requiredFindings_iff.mp made
  exact (missingFinding_identified severity key decl).checkId

theorem checkId_of_mem_enumFindings {schema : Schema} {context : Context}
    (made : finding ∈ enumFindings severity schema context) :
    finding.checkId = Check.enumValue.id := by
  obtain ⟨key, decl, value, -, -, -, -, rfl⟩ := mem_enumFindings_iff.mp made
  exact (undeclaredFinding_identified severity key value decl).checkId

theorem checkId_of_mem_invariantFindings {results : List InvariantResult}
    (made : finding ∈ invariantFindings severity results) :
    finding.checkId = Check.invariantRule.id := by
  obtain ⟨result, -, -, rfl⟩ := mem_invariantFindings_iff.mp made
  exact (brokenFinding_identified severity result).checkId

end Findings

namespace Gate

variable {schema : Schema} {context : Context} {policy : Policy} {checkId : String}
  {entry : Option CheckPolicy}

/-! ## A run without a check -/

/-- Of its findings a check makes those that are not of the check that is left out. -/
theorem whenOn_without (off : ∀ check ∈ entry, check.enabled = false) (check : Check)
    (findings : Severity → List Finding)
    (own : ∀ {severity finding}, finding ∈ findings severity → finding.checkId = check.id) :
    whenOn (policy.withEntry checkId entry) check findings =
      (whenOn policy check findings).filter fun finding => finding.checkId != checkId := by
  by_cases same : check.id = checkId
  · have none : (whenOn policy check findings).filter (fun finding => finding.checkId != checkId) =
        [] := by
      refine List.filter_eq_nil_iff.mpr fun finding member => ?_
      obtain ⟨severity, -, made⟩ := mem_whenOn_iff.mp member
      simp [own made, same]
    rw [none, whenOn, same, Policy.severity?_withEntry_of_off off]
  · have all : (whenOn policy check findings).filter (fun finding => finding.checkId != checkId) =
        whenOn policy check findings := by
      refine List.filter_eq_self.mpr fun finding member => ?_
      obtain ⟨severity, -, made⟩ := mem_whenOn_iff.mp member
      simp [own made, same]
    rw [all, whenOn, whenOn, Policy.severity?_withEntry_ne same]

/-- The two checks of contracts go through one list of violations, and each finding is of the check
that the violation is for. -/
theorem contractFindings_without (off : ∀ check ∈ entry, check.enabled = false)
    (result : ContractResult) :
    contractFindings (policy.withEntry checkId entry) result =
      (contractFindings policy result).filter fun finding => finding.checkId != checkId := by
  rw [contractFindings, contractFindings, List.filter_filterMap]
  refine List.filterMap_congr fun violation _ => ?_
  have ofClause (severity : Severity) :
      (violationFinding severity result.environment violation).checkId =
        (Check.ofClause violation.clause).id :=
    (violationFinding_identified severity result.environment violation).checkId
  by_cases same : (Check.ofClause violation.clause).id = checkId
  · rw [same, Policy.severity?_withEntry_of_off off]
    cases policy.severity? checkId with
    | none => rfl
    | some severity =>
        rw [Option.map_some, Option.filter_some, ofClause, same, bne_self_eq_false]
        rfl
  · rw [Policy.severity?_withEntry_ne same]
    cases policy.severity? (Check.ofClause violation.clause).id with
    | none => rfl
    | some severity =>
        rw [Option.map_some, Option.filter_some, ofClause, if_pos (bne_iff_ne.mpr same)]

/-- Without a check all other findings are made, and no more. -/
theorem allFindings_without (off : ∀ check ∈ entry, check.enabled = false) :
    allFindings schema context (policy.withEntry checkId entry) =
      (allFindings schema context policy).filter fun finding => finding.checkId != checkId := by
  have applies : contractResult? schema context (policy.withEntry checkId entry) =
      contractResult? schema context policy := rfl
  unfold allFindings
  rw [List.filter_append, List.filter_append, List.filter_append, applies,
    whenOn_without off .required _ checkId_of_mem_requiredFindings,
    whenOn_without off .enumValue _ checkId_of_mem_enumFindings,
    whenOn_without off .invariantRule _ checkId_of_mem_invariantFindings]
  cases contractResult? schema context policy with
  | none => rfl
  | some result => exact congrArg _ (contractFindings_without off result)

/-- Without a check nothing more is truncated. -/
theorem whole_without (whole : (evaluate schema context policy).data.truncatedReason = none)
    (off : ∀ check ∈ entry, check.enabled = false) :
    (evaluate schema context (policy.withEntry checkId entry)).data.truncatedReason = none := by
  have enough := truncatedReason_eq_none_iff.mp whole
  rw [truncatedReason_eq_none_iff, allFindings_without off]
  exact Nat.le_trans (List.length_filter_le _ _) enough

/-! ## Names of no check -/

/-- What a policy says under a name of no check is never looked at. -/
theorem allFindings_withEntry_of_unknown (unknown : ∀ check : Check, check.id ≠ checkId) :
    allFindings schema context (policy.withEntry checkId entry) =
      allFindings schema context policy := by
  have same (check : Check) :
      (policy.withEntry checkId entry).severity? check.id = policy.severity? check.id :=
    Policy.severity?_withEntry_ne (unknown check)
  have applies : contractResult? schema context (policy.withEntry checkId entry) =
      contractResult? schema context policy := rfl
  unfold allFindings whenOn contractFindings
  simp only [same, applies]

/-- Where nothing is truncated, switching off a check or removing its entry takes its findings out
of the report and leaves the others as they stand, with the same results of invariants and of the
contract. An entry under any name but those of the five checks changes nothing. -/
theorem evaluate_withEntry (schema : Schema) (context : Context) (policy : Policy)
    (checkId : String) (entry : Option CheckPolicy) :
    ((evaluate schema context policy).data.truncatedReason = none →
      (∀ check ∈ entry, check.enabled = false) →
        (evaluate schema context (policy.withEntry checkId entry)).findings =
            (evaluate schema context policy).findings.filter
              (fun finding => finding.checkId != checkId) ∧
          (evaluate schema context (policy.withEntry checkId entry)).invariants =
            (evaluate schema context policy).invariants ∧
          (evaluate schema context (policy.withEntry checkId entry)).contract =
            (evaluate schema context policy).contract) ∧
      ((∀ check : Check, check.id ≠ checkId) →
        evaluate schema context (policy.withEntry checkId entry) =
          evaluate schema context policy) := by
  refine ⟨fun whole off => ⟨?_, rfl, rfl⟩, fun unknown => ?_⟩
  · rw [filter_findings_of_whole whole, findings_of_whole (whole_without whole off),
      allFindings_without off]
  · unfold evaluate
    rw [allFindings_withEntry_of_unknown unknown]
    rfl

/-! ## A check that is switched off -/

/-- Without the check of allow clauses the denied value is still found, and so is all else. An entry
under a name that is spelled in another way does nothing. -/
theorem pairedSchema_withoutAllow :
    (∀ check ∈ some (CheckPolicy.mk false .error), check.enabled = false) ∧
      (∀ check : Check, check.id ≠ "contract.deny ") ∧
      (allFindings pairedSchema bothSet roomyPolicy).map (·.checkId) =
        ["config.enum", "config.enum", "invariant.rule", "invariant.rule", "contract.allow",
          "contract.deny"] ∧
      (evaluate pairedSchema bothSet (roomyPolicy.withEntry "contract.allow"
          (some ⟨false, .error⟩))).findings =
        (evaluate pairedSchema bothSet roomyPolicy).findings.filter
          (fun finding => finding.checkId != "contract.allow") ∧
      evaluate pairedSchema bothSet (roomyPolicy.withEntry "contract.deny "
          (some ⟨true, .error⟩)) =
        evaluate pairedSchema bothSet roomyPolicy := by
  have whole : (evaluate pairedSchema bothSet roomyPolicy).data.truncatedReason = none :=
    truncatedReason_eq_none_iff.mpr (by decide +kernel)
  have off : ∀ check ∈ some (CheckPolicy.mk false .error), check.enabled = false := by
    rintro _ ⟨⟩
    rfl
  have unknown : ∀ check : Check, check.id ≠ "contract.deny " := by
    intro check
    cases check <;> decide
  obtain ⟨left, -, -⟩ := (evaluate_withEntry pairedSchema bothSet roomyPolicy "contract.allow"
    (some ⟨false, .error⟩)).1 whole off
  exact ⟨off, unknown, by decide +kernel, left,
    (evaluate_withEntry pairedSchema bothSet roomyPolicy "contract.deny " _).2 unknown⟩

end Gate

end ConfigGate
