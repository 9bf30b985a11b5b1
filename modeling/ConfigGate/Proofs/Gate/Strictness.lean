import ConfigGate.Proofs.Gate.Findings
import ConfigGate.Proofs.Gate.Verdict

/-!
# Stricter policies

A policy is stricter than another if it has every check run that the other has run, at no lower
severity, and fails runs no later. What the other policy finds it finds as well, and at least as
severe, so its verdict is no better. The findings may stand in another order and be cut elsewhere;
as long as one is shown, that does not matter, and a run that shows none passes under either.

Results:
1. `verdict_rank_le`: findings that are matched by worse ones have no worse a verdict;
2. `Finds.of_stricter`: a stricter policy finds every fault, at no lower severity;
3. `evaluate_verdict_of_stricter`: the verdict under a stricter policy is at least as bad.
-/

namespace ConfigGate

/-- The place of a verdict: failures come first, as errors do. -/
def Verdict.rank : Verdict → Nat
  | fail => 0
  | warn => 1
  | pass => 2

/-- No verdict is better than a pass. -/
theorem Verdict.rank_le_pass (verdict : Verdict) : verdict.rank ≤ pass.rank := by
  cases verdict <;> decide

/-- The least severity that fails a run. -/
def FailOn.threshold : FailOn → Severity
  | error => .error
  | warning => .warning

/-- `stricter.Stricter policy`: for the same contract and as many findings, every check that the
policy has run is run at least as severe, and no lower severity is let pass. -/
structure Policy.Stricter (stricter policy : Policy) : Prop where
  environment : stricter.environment = policy.environment
  maxFindings : stricter.maxFindings = policy.maxFindings
  checks : ∀ {check : Check} {severity}, policy.severity? check.id = some severity →
    ∃ raised, stricter.severity? check.id = some raised ∧ raised.rank ≤ severity.rank
  failOn : policy.failOn.threshold.rank ≤ stricter.failOn.threshold.rank

namespace Gate

/-! ## Verdicts of worse findings -/

/-- A worse severity has no better a verdict, the more so where runs fail earlier. -/
theorem verdictOf_rank_le {failOn stricter : FailOn} {severity raised : Severity}
    (threshold : failOn.threshold.rank ≤ stricter.threshold.rank)
    (worse : raised.rank ≤ severity.rank) :
    (verdictOf stricter raised).rank ≤ (verdictOf failOn severity).rank := by
  revert threshold worse
  cases failOn <;> cases stricter <;> cases severity <;> cases raised <;> decide

/-- Findings do not all together have a better verdict than one of them. -/
theorem verdict_rank_le_of_mem {failOn : FailOn} {findings : List Finding} {finding : Finding}
    (member : finding ∈ findings) :
    (verdict failOn findings).rank ≤ (verdictOf failOn finding.severity).rank := by
  by_cases error : ∃ other ∈ findings, other.severity = .error
  · obtain ⟨other, otherMember, error⟩ := error
    rw [verdict_of_error otherMember error]
    exact Nat.zero_le _
  · have noError : ∀ other ∈ findings, other.severity ≠ .error :=
      fun other otherMember isError => error ⟨other, otherMember, isError⟩
    cases severity : finding.severity with
    | error => exact absurd severity (noError finding member)
    | warning => exact Nat.le_of_eq (congrArg _ (verdict_of_warning member severity noError))
    | info => exact Verdict.rank_le_pass _

/-- Findings pass, or one of them is as bad as all together. -/
theorem exists_verdictOf (failOn : FailOn) (findings : List Finding) :
    verdict failOn findings = .pass ∨
      ∃ finding ∈ findings, verdict failOn findings = verdictOf failOn finding.severity := by
  by_cases error : ∃ finding ∈ findings, finding.severity = .error
  · obtain ⟨finding, member, error⟩ := error
    exact .inr ⟨finding, member, by rw [verdict_of_error member error, error]; rfl⟩
  · have noError : ∀ finding ∈ findings, finding.severity ≠ .error :=
      fun finding member isError => error ⟨finding, member, isError⟩
    by_cases warning : ∃ finding ∈ findings, finding.severity = .warning
    · obtain ⟨finding, member, warning⟩ := warning
      exact .inr ⟨finding, member, by rw [verdict_of_warning member warning noError, warning]⟩
    · refine .inl (verdict_of_info fun finding member => ?_)
      cases severity : finding.severity with
      | info => rfl
      | error => exact absurd severity (noError finding member)
      | warning => exact absurd ⟨finding, member, severity⟩ warning

/-- Where each finding is matched by one that is at least as severe, the verdict is no better. -/
theorem verdict_rank_le {failOn stricter : FailOn} {findings worse : List Finding}
    (threshold : failOn.threshold.rank ≤ stricter.threshold.rank)
    (matched : ∀ finding ∈ findings, ∃ raised ∈ worse,
      raised.severity.rank ≤ finding.severity.rank) :
    (verdict stricter worse).rank ≤ (verdict failOn findings).rank := by
  rcases exists_verdictOf failOn findings with passes | ⟨finding, member, same⟩
  · rw [passes]
    exact Verdict.rank_le_pass _
  · obtain ⟨raised, raisedMember, severe⟩ := matched finding member
    rw [same]
    calc (verdict stricter worse).rank
        ≤ (verdictOf stricter raised.severity).rank := verdict_rank_le_of_mem raisedMember
      _ ≤ (verdictOf failOn finding.severity).rank := verdictOf_rank_le threshold severe

/-! ## Findings under a stricter policy -/

variable {schema : Schema} {context : Context} {policy stricter : Policy}

theorem contractName_of_stricter (strict : stricter.Stricter policy) (context : Context) :
    contractName stricter context = contractName policy context := by
  rw [contractName, contractName, strict.environment]

/-- A stricter policy finds every fault that is found, at no lower severity. -/
theorem Finds.of_stricter (strict : stricter.Stricter policy) {finding : Finding}
    (finds : Finds schema context policy finding) :
    ∃ raised, Finds schema context stricter raised ∧
      raised.severity.rank ≤ finding.severity.rank := by
  cases finds with
  | missing on declared required unset =>
      obtain ⟨severity, on, severe⟩ := strict.checks on
      exact ⟨_, .missing on declared required unset, severe⟩
  | undeclared on declared enum set other =>
      obtain ⟨severity, on, severe⟩ := strict.checks on
      exact ⟨_, .undeclared on declared enum set other, severe⟩
  | broken on member failed =>
      obtain ⟨severity, on, severe⟩ := strict.checks on
      exact ⟨_, .broken on member failed, severe⟩
  | violated on found set violated =>
      obtain ⟨severity, on, severe⟩ := strict.checks on
      rw [← contractName_of_stricter strict context] at found
      exact ⟨_, .violated on found set violated, severe⟩

/-- The verdict under a stricter policy is at least as bad. -/
theorem evaluate_verdict_of_stricter (strict : stricter.Stricter policy) (schema : Schema)
    (context : Context) :
    (evaluate schema context stricter).verdict.rank ≤
      (evaluate schema context policy).verdict.rank := by
  rcases Nat.eq_zero_or_pos policy.maxFindings with noRoom | room
  · rw [evaluate_verdict_of_no_room noRoom]
    exact Verdict.rank_le_pass _
  · rw [evaluate_verdict room, evaluate_verdict (strict.maxFindings ▸ room)]
    refine verdict_rank_le strict.failOn fun finding member => ?_
    obtain ⟨raised, finds, severe⟩ := (mem_allFindings_iff.mp member).of_stricter strict
    exact ⟨raised, mem_allFindings_iff.mpr finds, severe⟩

/-! ## A severity that is raised -/

/-- An undeclared value is no more than information, and one finding is shown. -/
def lenientPolicy : Policy :=
  { mixedPolicy 1 with
    checks := .ofList [("config.required", ⟨true, .warning⟩), ("config.enum", ⟨true, .info⟩)] }

theorem mixedPolicy_stricter : (mixedPolicy 1).Stricter lenientPolicy := by
  refine ⟨rfl, rfl, fun {check severity} on => ?_, Nat.le_refl _⟩
  cases check with
  | required => exact ⟨.warning, rfl, Nat.le_of_eq (congrArg _ (Option.some.inj on))⟩
  | enumValue => exact ⟨.error, rfl, Nat.zero_le _⟩
  | invariantRule => exact absurd on nofun
  | contractAllow => exact absurd on nofun
  | contractDeny => exact absurd on nofun

/-- With undeclared values as errors the one finding shown is another, and the run that warned
fails. -/
theorem twoFaults_raised :
    (mixedPolicy 1).Stricter lenientPolicy ∧
      (evaluate twoKeys twoFaults lenientPolicy).verdict = .warn ∧
      (evaluate twoKeys twoFaults (mixedPolicy 1)).verdict.rank ≤
        (evaluate twoKeys twoFaults lenientPolicy).verdict.rank := by
  have strict := mixedPolicy_stricter
  refine ⟨strict, ?_, evaluate_verdict_of_stricter strict twoKeys twoFaults⟩
  rw [evaluate_verdict (by decide)]
  decide

end Gate

end ConfigGate
