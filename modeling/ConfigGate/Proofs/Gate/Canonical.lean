import ConfigGate.Proofs.Gate.Sorting
import ConfigGate.Proofs.Schema.Canonical

/-!
# Runs of a schema in canonical form

Loading what was saved gives the schema in canonical form, in which rules may have other texts. The
text of a rule is shown in the result of its invariant and in the finding about it, and nowhere
else: an expression evaluates to the same outcome, and messages quote the expression and not the
text. In particular no finding moves, as its heading does not show the rule.

Results:
1. `forall₂_allFindings`: schemas that agree but for the texts of their rules give the same findings
   but for the rules shown;
2. `evaluate_reloaded`: so do the runs of a loaded schema and of what it is saved as.
-/

namespace ConfigGate

/-! ## Findings that show another rule -/

/-- The object with the member set to the value. -/
def Json.setMember (object : Json) (name : String) (value : Json) : Json :=
  match object with
  | .object members => .object (insertEntry name value members)
  | other => other

/-- The finding with this rule shown, in its help and its data, if it is about an invariant. -/
def Finding.withRule (rule : String) (finding : Finding) : Finding :=
  if finding.checkId = Check.invariantRule.id then
    { finding with
      help := some ("Rule: " ++ rule)
      data := finding.data.setMember "rule" (.text rule) }
  else finding

theorem Finding.withRule_heading (rule : String) (finding : Finding) :
    (finding.withRule rule).heading = finding.heading := by
  unfold withRule
  split <;> rfl

theorem Finding.withRule_of_ne (rule : String) {finding : Finding}
    (other : finding.checkId ≠ Check.invariantRule.id) : finding.withRule rule = finding :=
  if_neg other

theorem withRule_brokenFinding (severity : Severity) (result : InvariantResult) (rule : String) :
    (brokenFinding severity result).withRule rule =
      brokenFinding severity { result with rule } := by
  have data : (brokenFinding severity result).data.setMember "rule" (.text rule) =
      (brokenFinding severity { result with rule }).data := by
    have maps : (SortedMap.ofList [("invariant", Json.text result.name),
          ("rule", .text result.rule), ("left", .text result.leftValue),
          ("right", .text result.rightValue)]).insert "rule" (.text rule) =
        .ofList [("invariant", .text result.name), ("rule", .text rule),
          ("left", .text result.leftValue), ("right", .text result.rightValue)] := by
      refine SortedMap.ext_get? fun key => ?_
      rw [SortedMap.get?_insert]
      split
      · rename_i same
        subst same
        simp
      · rename_i different
        simp [different]
    exact congrArg (fun map => Json.object map.entries) maps
  have about : (brokenFinding severity result).checkId = Check.invariantRule.id := rfl
  rw [Finding.withRule, if_pos about, data]
  rfl

namespace Gate

/-- `Reworded left right`: the right finding is the left one, with some rule shown. -/
def Reworded (left right : Finding) : Prop := ∃ rule, right = left.withRule rule

theorem Reworded.heading_eq {left right : Finding} (reworded : Reworded left right) :
    right.heading = left.heading := by
  obtain ⟨rule, rfl⟩ := reworded
  exact left.withRule_heading rule

/-- Findings of other checks show no rule. -/
theorem reworded_self {finding : Finding} (other : finding.checkId ≠ Check.invariantRule.id) :
    Reworded finding finding :=
  ⟨"", (finding.withRule_of_ne "" other).symm⟩

theorem reworded_severities {left right : List Finding}
    (pairs : List.Forall₂ Reworded left right) :
    left.map (·.severity) = right.map (·.severity) := by
  induction pairs with
  | nil => rfl
  | @cons first first' _ _ reworded _ ih =>
      have severity : first'.severity = first.severity := congrArg Prod.fst reworded.heading_eq
      rw [List.map_cons, List.map_cons, ih, severity]

/-- Counts and verdict look at nothing but severities. -/
theorem ofFindings_congr {left right : List Finding}
    (same : left.map (·.severity) = right.map (·.severity)) :
    SeverityCounts.ofFindings left = SeverityCounts.ofFindings right := by
  have counted (severity : Severity) : left.countP (fun finding => finding.severity = severity) =
      right.countP fun finding => finding.severity = severity := by
    have bySeverity := congrArg (List.countP fun other : Severity => other = severity) same
    rwa [List.countP_map, List.countP_map] at bySeverity
  simp only [SeverityCounts.ofFindings, counted]

theorem verdict_of_severities {left right : List Finding}
    (same : left.map (·.severity) = right.map (·.severity)) (failOn : FailOn) :
    verdict failOn left = verdict failOn right := by
  have found (severity : Severity) : left.any (fun finding => finding.severity = severity) =
      right.any fun finding => finding.severity = severity := by
    have bySeverity := congrArg (List.any · fun other : Severity => other = severity) same
    rwa [List.any_map, List.any_map] at bySeverity
  simp only [verdict, found]

/-! ## What is found -/

/-- `SameOutcome left right`: both results say the same, but for the rule they show. -/
def SameOutcome (left right : InvariantResult) : Prop := right = { left with rule := right.rule }

variable {schema reloaded : Schema}

theorem sameOutcome_invariantResults (same : schema.SameAs reloaded) (context : Context) :
    List.Forall₂ SameOutcome (invariantResults schema context)
      (invariantResults reloaded context) := by
  have pairs : List.Forall₂ (fun left right : Invariant =>
      (left.name, left.expr) = (right.name, right.expr)) schema.invariants reloaded.invariants := by
    refine List.forall₂_map_left_iff.mp (List.forall₂_map_right_iff.mp ?_)
    rw [List.forall₂_eq_eq_eq]
    exact same.invariants.symm
  refine List.rel_map (fun left right pair => ?_) pairs
  obtain ⟨name, expr⟩ := Prod.mk.inj pair
  simp only [SameOutcome, Invariant.evaluate, name, expr]

theorem forall₂_whenOn {policy : Policy} {check : Check} {left right : Severity → List Finding}
    (pairs : ∀ severity, List.Forall₂ Reworded (left severity) (right severity)) :
    List.Forall₂ Reworded (whenOn policy check left) (whenOn policy check right) := by
  unfold whenOn
  split
  · exact .nil
  · exact pairs _

/-- What other checks find is found again as it is. -/
theorem forall₂_reworded_self {findings : List Finding}
    (other : ∀ finding ∈ findings, finding.checkId ≠ Check.invariantRule.id) :
    List.Forall₂ Reworded findings findings :=
  List.forall₂_same.mpr fun finding member => reworded_self (other finding member)

theorem forall₂_invariantFindings {severity : Severity} {left right : List InvariantResult}
    (pairs : List.Forall₂ SameOutcome left right) :
    List.Forall₂ Reworded (invariantFindings severity left) (invariantFindings severity right) := by
  rw [invariantFindings_eq_filterMap, invariantFindings_eq_filterMap]
  refine List.rel_filterMap (fun result reworded pair => ?_) pairs
  have reworded_eq : reworded = { result with rule := reworded.rule } := pair
  have passedSame : reworded.passed = result.passed := by rw [reworded_eq]
  simp only [brokenFinding?, passedSame]
  split
  · exact .none
  · refine .some ⟨reworded.rule, ?_⟩
    rw [withRule_brokenFinding, ← reworded_eq]

theorem contractResult?_same (same : schema.SameAs reloaded) (context : Context)
    (policy : Policy) :
    contractResult? reloaded context policy = contractResult? schema context policy := by
  rw [contractResult?, contractResult?, Schema.contract?, Schema.contract?, same.environments]

/-- Schemas that agree but for the texts of their rules give the same findings, but for the rules
that they show. -/
theorem forall₂_allFindings (same : schema.SameAs reloaded) (context : Context) (policy : Policy) :
    List.Forall₂ Reworded (allFindings schema context policy)
      (allFindings reloaded context policy) := by
  have required : List.Forall₂ Reworded
      (whenOn policy .required fun severity => requiredFindings severity schema context)
      (whenOn policy .required fun severity => requiredFindings severity reloaded context) := by
    refine forall₂_whenOn fun severity => ?_
    rw [requiredFindings, requiredFindings, same.config]
    refine forall₂_reworded_self fun finding member => ?_
    obtain ⟨key, decl, -, -, -, rfl⟩ := mem_requiredFindings_iff.mp member
    exact of_decide_eq_true rfl
  have enum : List.Forall₂ Reworded
      (whenOn policy .enumValue fun severity => enumFindings severity schema context)
      (whenOn policy .enumValue fun severity => enumFindings severity reloaded context) := by
    refine forall₂_whenOn fun severity => ?_
    rw [enumFindings, enumFindings, same.config]
    refine forall₂_reworded_self fun finding member => ?_
    obtain ⟨key, decl, value, -, -, -, -, rfl⟩ := mem_enumFindings_iff.mp member
    exact of_decide_eq_true rfl
  have broken : List.Forall₂ Reworded
      (whenOn policy .invariantRule fun severity =>
        invariantFindings severity (invariantResults schema context))
      (whenOn policy .invariantRule fun severity =>
        invariantFindings severity (invariantResults reloaded context)) :=
    forall₂_whenOn fun _ => forall₂_invariantFindings (sameOutcome_invariantResults same context)
  unfold allFindings
  rw [contractResult?_same same]
  refine List.rel_append (List.rel_append (List.rel_append required enum) broken) ?_
  split
  · exact .nil
  · refine forall₂_reworded_self fun finding member => ?_
    obtain ⟨violation, -, severity, -, rfl⟩ := mem_contractFindings_iff.mp member
    show (Check.ofClause violation.clause).id ≠ _
    cases violation.clause <;> decide

/-! ## Runs -/

/-- `left.AgreesButRules right`: the evaluations are the same, but for the rules that the results of
invariants and the findings about them show. -/
structure Evaluation.AgreesButRules (left right : Evaluation) : Prop where
  verdict : right.verdict = left.verdict
  counts : right.counts = left.counts
  data : right.data = left.data
  contract : right.contract = left.contract
  invariants : List.Forall₂ SameOutcome left.invariants right.invariants
  findings : List.Forall₂ Reworded left.findings right.findings

/-- Runs of schemas that agree but for the texts of their rules agree but for the rules shown. -/
theorem evaluate_of_sameAs (same : schema.SameAs reloaded) (context : Context) (policy : Policy) :
    (evaluate schema context policy).AgreesButRules (evaluate reloaded context policy) := by
  have sorted : List.Forall₂ Reworded (Finding.sort (allFindings schema context policy))
      (Finding.sort (allFindings reloaded context policy)) :=
    Finding.forall₂_sort Reworded.heading_eq (forall₂_allFindings same context policy)
  have emitted : List.Forall₂ Reworded (evaluate schema context policy).findings
      (evaluate reloaded context policy).findings :=
    List.forall₂_take policy.maxFindings sorted
  have results := sameOutcome_invariantResults same context
  have severities := reworded_severities emitted
  constructor
  case verdict => exact (verdict_of_severities severities policy.failOn).symm
  case counts => exact (ofFindings_congr severities).symm
  case data =>
    have emittedLength := emitted.length_eq
    simp only [evaluate] at emittedLength ⊢
    rw [contractResult?_same same, same.config, sorted.length_eq, emittedLength, results.length_eq]
  case contract => exact contractResult?_same same context policy
  case invariants => exact results
  case findings => exact emitted

/-- What a loaded schema is saved as loads, and its runs agree with those of the schema but for the
rules shown. -/
theorem evaluate_reloaded {document : Document} (loads : Schema.ofDocument document = .ok schema) :
    ∃ reloaded, Schema.ofDocument schema.toDocument = .ok reloaded ∧
      ∀ context policy,
        (evaluate schema context policy).AgreesButRules (evaluate reloaded context policy) := by
  have loaded := Schema.ofDocument_eq_ok_iff.mp loads
  refine ⟨schema.canonical, Schema.ofDocument_eq_ok_iff.mpr loaded.canonical, ?_⟩
  exact evaluate_of_sameAs (Schema.sameAs_canonical schema)

/-! ## A rule that is laid out in another way -/

/-- The value is not the one that the rule asks for. -/
def otherValue : Context := ⟨.ofList [("a", "c")], "p"⟩

/-- Invariants are checked and one finding is shown. -/
def invariantPolicy : Policy :=
  { profile := "strict"
    failOn := .error
    maxFindings := 1
    environment := none
    checks := .ofList [(Check.invariantRule.id, ⟨true, .error⟩)] }

/-- The finding shows the rule as it was written before, and in canonical form after. -/
theorem looseSchema_reevaluated :
    Schema.ofDocument Schema.looseDocument = .ok Schema.looseSchema ∧
      ∃ reloaded, Schema.ofDocument Schema.looseSchema.toDocument = .ok reloaded ∧
        (evaluate Schema.looseSchema otherValue invariantPolicy).AgreesButRules
          (evaluate reloaded otherValue invariantPolicy) ∧
        (evaluate Schema.looseSchema otherValue invariantPolicy).findings.map (·.help) =
          [some "Rule: a==\"b\""] ∧
        (evaluate reloaded otherValue invariantPolicy).findings.map (·.help) =
          [some "Rule: a == \"b\""] := by
  obtain ⟨reloaded, loads, agrees⟩ := evaluate_reloaded Schema.looseDocument_loads
  have loaded := Schema.ofDocument_eq_ok_iff.mp Schema.looseDocument_loads
  obtain rfl : Schema.looseSchema.canonical = reloaded :=
    Except.ok.inj ((Schema.ofDocument_eq_ok_iff.mpr loaded.canonical).symm.trans loads)
  exact ⟨Schema.looseDocument_loads, _, loads, agrees otherValue invariantPolicy,
    by decide +kernel, by decide +kernel⟩

end Gate

end ConfigGate
