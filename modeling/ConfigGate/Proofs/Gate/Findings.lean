import ConfigGate.Gate
import ConfigGate.Proofs.Contract

/-!
# What a run finds

`Finds` lists the ways in which a run can find something wrong, one rule per kind of fault. The
checks make exactly the findings that these rules give: `mem_allFindings_iff`.
-/

namespace ConfigGate

/-! ## The checks one by one -/

/-- The finding about one declared key, if it is required and not set. -/
def missingFinding? (severity : Severity) (context : Context) (entry : String × KeyDecl) :
    Option Finding :=
  if entry.2.required && !context.values.contains entry.1 then
    some (missingFinding severity entry.1 entry.2)
  else none

theorem requiredFindings_eq_filterMap (severity : Severity) (schema : Schema) (context : Context) :
    requiredFindings severity schema context =
      schema.config.entries.filterMap (missingFinding? severity context) :=
  rfl

theorem missingFinding?_eq_some_iff {severity : Severity} {context : Context} {key : String}
    {decl : KeyDecl} {finding : Finding} :
    missingFinding? severity context (key, decl) = some finding ↔
      decl.required = true ∧ context.values.get? key = none ∧
        finding = missingFinding severity key decl := by
  simp only [missingFinding?]
  constructor
  · intro made
    split at made
    · rename_i missing
      rw [Bool.and_eq_true, Bool.not_eq_true', SortedMap.contains, Option.isSome_eq_false_iff,
        Option.isNone_iff_eq_none] at missing
      exact ⟨missing.1, missing.2, (Option.some.inj made).symm⟩
    · exact absurd made (by simp)
  · rintro ⟨required, unset, rfl⟩
    simp [required, SortedMap.contains, unset]

theorem mem_requiredFindings_iff {severity : Severity} {schema : Schema} {context : Context}
    {finding : Finding} :
    finding ∈ requiredFindings severity schema context ↔
      ∃ key decl, schema.config.get? key = some decl ∧ decl.required = true ∧
        context.values.get? key = none ∧ finding = missingFinding severity key decl := by
  simp only [requiredFindings_eq_filterMap, List.mem_filterMap, Prod.exists,
    missingFinding?_eq_some_iff, SortedMap.get?_eq_some_iff]

/-- The finding about one declared key, if it is of kind enum and has an undeclared value. -/
def undeclaredFinding? (severity : Severity) (context : Context) (entry : String × KeyDecl) :
    Option Finding :=
  match entry.2.kind, context.values.get? entry.1 with
  | .enum, some value =>
      if entry.2.values.contains value then none
      else some (undeclaredFinding severity entry.1 entry.2 value)
  | _, _ => none

theorem enumFindings_eq_filterMap (severity : Severity) (schema : Schema) (context : Context) :
    enumFindings severity schema context =
      schema.config.entries.filterMap (undeclaredFinding? severity context) :=
  rfl

theorem undeclaredFinding?_eq_some_iff {severity : Severity} {context : Context} {key : String}
    {decl : KeyDecl} {finding : Finding} :
    undeclaredFinding? severity context (key, decl) = some finding ↔
      ∃ value, decl.kind = .enum ∧ context.values.get? key = some value ∧ value ∉ decl.values ∧
        finding = undeclaredFinding severity key decl value := by
  simp only [undeclaredFinding?]
  constructor
  · intro made
    split at made
    · rename_i value enum set
      split at made
      · exact absurd made (by simp)
      · rename_i undeclared
        exact ⟨value, enum, set, fun listed => undeclared (List.contains_iff_mem.mpr listed),
          (Option.some.inj made).symm⟩
    · exact absurd made (by simp)
  · rintro ⟨value, enum, set, undeclared, rfl⟩
    simp [enum, set, undeclared]

theorem mem_enumFindings_iff {severity : Severity} {schema : Schema} {context : Context}
    {finding : Finding} :
    finding ∈ enumFindings severity schema context ↔
      ∃ key decl value, schema.config.get? key = some decl ∧ decl.kind = .enum ∧
        context.values.get? key = some value ∧ value ∉ decl.values ∧
        finding = undeclaredFinding severity key decl value := by
  simp only [enumFindings_eq_filterMap, List.mem_filterMap, Prod.exists,
    undeclaredFinding?_eq_some_iff, SortedMap.get?_eq_some_iff, exists_and_left]

/-- The finding about one invariant, if it does not hold. -/
def brokenFinding? (severity : Severity) (result : InvariantResult) : Option Finding :=
  if result.passed then none else some (brokenFinding severity result)

theorem invariantFindings_eq_filterMap (severity : Severity) (results : List InvariantResult) :
    invariantFindings severity results = results.filterMap (brokenFinding? severity) := by
  rw [invariantFindings, ← List.filterMap_eq_map, List.filterMap_filter]
  congr 1
  funext result
  cases passed : result.passed <;> simp [brokenFinding?, passed]

theorem brokenFinding?_eq_some_iff {severity : Severity} {result : InvariantResult}
    {finding : Finding} :
    brokenFinding? severity result = some finding ↔
      result.passed = false ∧ finding = brokenFinding severity result := by
  cases passed : result.passed <;> simp [brokenFinding?, passed, eq_comm]

theorem mem_invariantFindings_iff {severity : Severity} {results : List InvariantResult}
    {finding : Finding} :
    finding ∈ invariantFindings severity results ↔
      ∃ result ∈ results, result.passed = false ∧ finding = brokenFinding severity result := by
  simp only [invariantFindings_eq_filterMap, List.mem_filterMap, brokenFinding?_eq_some_iff]

theorem mem_contractFindings_iff {policy : Policy} {result : ContractResult} {finding : Finding} :
    finding ∈ contractFindings policy result ↔
      ∃ violation ∈ result.violations, ∃ severity,
        policy.severity? (Check.ofClause violation.clause).id = some severity ∧
        finding = violationFinding severity result.environment violation := by
  simp only [contractFindings, List.mem_filterMap, Option.map_eq_some_iff,
    eq_comm (a := finding)]

namespace Gate

theorem mem_whenOn_iff {policy : Policy} {check : Check} {findings : Severity → List Finding}
    {finding : Finding} :
    finding ∈ whenOn policy check findings ↔
      ∃ severity, policy.severity? check.id = some severity ∧ finding ∈ findings severity := by
  unfold whenOn
  split
  · rename_i off
    simp [off]
  · rename_i severity on
    simp [on]

/-! ## All checks -/

/-- `Finds schema context policy finding`: the context has a fault of which the finding tells, and
the check that watches for it runs. -/
inductive Finds (schema : Schema) (context : Context) (policy : Policy) : Finding → Prop
  | missing {key : String} {decl : KeyDecl} {severity : Severity} :
      policy.severity? Check.required.id = some severity →
      schema.config.get? key = some decl → decl.required = true →
      context.values.get? key = none →
      Finds schema context policy (missingFinding severity key decl)
  | undeclared {key value : String} {decl : KeyDecl} {severity : Severity} :
      policy.severity? Check.enumValue.id = some severity →
      schema.config.get? key = some decl → decl.kind = .enum →
      context.values.get? key = some value → value ∉ decl.values →
      Finds schema context policy (undeclaredFinding severity key decl value)
  | broken {invariant : Invariant} {severity : Severity} :
      policy.severity? Check.invariantRule.id = some severity →
      invariant ∈ schema.invariants → (invariant.evaluate context).passed = false →
      Finds schema context policy (brokenFinding severity (invariant.evaluate context))
  | violated {contract : Contract} {key value : String} {violation : Violation}
      {severity : Severity} :
      policy.severity? (Check.ofClause violation.clause).id = some severity →
      schema.contract? (contractName policy context) = some contract →
      context.values.get? key = some value → contract.violation? key value = some violation →
      Finds schema context policy (violationFinding severity contract.name violation)

theorem contractResult?_eq_some_iff {schema : Schema} {context : Context} {policy : Policy}
    {result : ContractResult} :
    contractResult? schema context policy = some result ↔
      ∃ contract, schema.contract? (contractName policy context) = some contract ∧
        contract.evaluate context.values = result :=
  Option.map_eq_some_iff

/-- The checks make the findings that the context gives cause for, and no other. -/
theorem mem_allFindings_iff {schema : Schema} {context : Context} {policy : Policy}
    {finding : Finding} :
    finding ∈ allFindings schema context policy ↔ Finds schema context policy finding := by
  unfold allFindings
  rw [List.mem_append, List.mem_append, List.mem_append, mem_whenOn_iff, mem_whenOn_iff,
    mem_whenOn_iff]
  constructor
  · rintro (((⟨severity, on, made⟩ | ⟨severity, on, made⟩) | ⟨severity, on, made⟩) | made)
    · obtain ⟨key, decl, declared, required, unset, rfl⟩ := mem_requiredFindings_iff.mp made
      exact .missing on declared required unset
    · obtain ⟨key, decl, value, declared, enum, set, other, rfl⟩ := mem_enumFindings_iff.mp made
      exact .undeclared on declared enum set other
    · obtain ⟨result, evaluated, failed, rfl⟩ := mem_invariantFindings_iff.mp made
      obtain ⟨invariant, member, rfl⟩ := List.mem_map.mp evaluated
      exact .broken on member failed
    · split at made
      · exact absurd made List.not_mem_nil
      · rename_i result applies
        obtain ⟨contract, found, rfl⟩ := contractResult?_eq_some_iff.mp applies
        obtain ⟨violation, member, severity, on, rfl⟩ := mem_contractFindings_iff.mp made
        obtain ⟨key, value, set, violated⟩ := Contract.mem_evaluate_violations_iff.mp member
        exact .violated on found set violated
  · intro finds
    cases finds with
    | missing on declared required unset =>
        exact .inl (.inl (.inl ⟨_, on,
          mem_requiredFindings_iff.mpr ⟨_, _, declared, required, unset, rfl⟩⟩))
    | undeclared on declared enum set other =>
        exact .inl (.inl (.inr ⟨_, on,
          mem_enumFindings_iff.mpr ⟨_, _, _, declared, enum, set, other, rfl⟩⟩))
    | broken on member failed =>
        exact .inl (.inr ⟨_, on,
          mem_invariantFindings_iff.mpr ⟨_, List.mem_map_of_mem member, failed, rfl⟩⟩)
    | @violated contract key value violation severity on found set violated =>
        refine .inr ?_
        rw [contractResult?_eq_some_iff.mpr ⟨contract, found, rfl⟩]
        have member := Contract.mem_evaluate_violations_iff.mpr ⟨key, value, set, violated⟩
        exact mem_contractFindings_iff.mpr ⟨violation, member, severity, on, rfl⟩

end Gate

end ConfigGate
