import ConfigGate.Gate

/-!
# Verdicts and truncation

The verdict is read off the findings that remain after truncation. Sorting puts the severest
finding first, and the first finding decides the verdict alone, so a run that shows any finding at
all concludes what a run that shows all of them concludes. A run that shows none passes, whatever
it found.

Results:
1. `verdict_sort`, `verdict_take`: neither sorting nor a cut behind the first finding changes the
   verdict;
2. `verdict_eq_untruncated_iff`: when a run concludes what the run without truncation concludes;
3. `evaluate_verdict_of_no_room`: a run that may show no finding passes.
-/

namespace ConfigGate

/-! ## The order of findings -/

namespace Finding

/-- The order compares severity, check, code and message one after the other. -/
instance order_transCmp : Std.TransCmp Finding.order :=
  inferInstanceAs (Std.TransCmp (compareLex (compareOn fun finding : Finding =>
    finding.severity.rank) (compareLex (compareOn Finding.checkId)
      (compareLex (compareOn Finding.code) (compareOn Finding.message)))))

theorem atMost_trans (a b c : Finding) (first : a.atMost b = true) (second : b.atMost c = true) :
    a.atMost c = true := by
  unfold atMost at first second ⊢
  exact Std.TransCmp.isLE_trans first second

theorem atMost_total (a b : Finding) : (a.atMost b || b.atMost a) = true := by
  have swapped : b.order a = (a.order b).swap := Std.OrientedCmp.eq_swap
  unfold atMost
  rw [swapped]
  cases a.order b <;> rfl

theorem sort_pairwise (findings : List Finding) :
    (sort findings).Pairwise fun left right => left.atMost right = true :=
  List.pairwise_mergeSort atMost_trans atMost_total findings

/-- A finding that may stand before another is at least as severe. -/
theorem rank_le_of_atMost {left right : Finding} (before : left.atMost right = true) :
    left.severity.rank ≤ right.severity.rank := by
  refine Nat.le_of_not_lt fun worse => ?_
  have greater : compare left.severity.rank right.severity.rank = .gt :=
    Nat.compare_eq_gt.mpr worse
  simp [atMost, order, greater] at before

theorem sort_severity_pairwise (findings : List Finding) :
    (sort findings).Pairwise fun left right => left.severity.rank ≤ right.severity.rank :=
  (sort_pairwise findings).imp rank_le_of_atMost

theorem mem_sort {finding : Finding} {findings : List Finding} :
    finding ∈ sort findings ↔ finding ∈ findings :=
  List.mem_mergeSort

theorem length_sort (findings : List Finding) : (sort findings).length = findings.length :=
  List.length_mergeSort findings

end Finding

namespace Gate

/-! ## Verdicts -/

/-- The verdict of findings the worst of which has this severity. -/
def verdictOf (failOn : FailOn) : Severity → Verdict
  | .error => .fail
  | .warning =>
      match failOn with
      | .warning => .fail
      | .error => .warn
  | .info => .pass

/-- The verdict depends on the severities that occur, not on their order or number. -/
theorem verdict_congr {failOn : FailOn} {left right : List Finding}
    (same : ∀ finding, finding ∈ left ↔ finding ∈ right) :
    verdict failOn left = verdict failOn right := by
  have anyEqual (test : Finding → Bool) : left.any test = right.any test := by
    rw [Bool.eq_iff_iff]
    simp only [List.any_eq_true, same]
  unfold verdict
  rw [anyEqual, anyEqual]

theorem verdict_sort (failOn : FailOn) (findings : List Finding) :
    verdict failOn (Finding.sort findings) = verdict failOn findings :=
  verdict_congr fun _ => Finding.mem_sort

theorem verdict_of_error {failOn : FailOn} {findings : List Finding} {finding : Finding}
    (member : finding ∈ findings) (error : finding.severity = .error) :
    verdict failOn findings = .fail := by
  unfold verdict
  rw [if_pos (List.any_eq_true.mpr ⟨finding, member, by simp [error]⟩)]

theorem verdict_of_warning {failOn : FailOn} {findings : List Finding} {finding : Finding}
    (member : finding ∈ findings) (warning : finding.severity = .warning)
    (noError : ∀ finding ∈ findings, finding.severity ≠ .error) :
    verdict failOn findings = verdictOf failOn .warning := by
  unfold verdict
  rw [if_neg (by simpa using noError),
    if_pos (List.any_eq_true.mpr ⟨finding, member, by simp [warning]⟩)]
  rfl

theorem verdict_of_info {failOn : FailOn} {findings : List Finding}
    (info : ∀ finding ∈ findings, finding.severity = .info) : verdict failOn findings = .pass := by
  have none (severity : Severity) (other : severity ≠ .info) :
      ¬(findings.any fun finding => finding.severity = severity) = true := by
    rw [List.any_eq_true]
    rintro ⟨finding, member, equal⟩
    exact other ((of_decide_eq_true equal).symm.trans (info finding member))
  unfold verdict
  rw [if_neg (none .error (by decide)), if_neg (none .warning (by decide))]

/-- Findings pass exactly when none of them is more than information. -/
theorem verdict_eq_pass_iff {failOn : FailOn} {findings : List Finding} :
    verdict failOn findings = .pass ↔ ∀ finding ∈ findings, finding.severity = .info := by
  refine ⟨fun passes => ?_, verdict_of_info⟩
  have noError : ∀ finding ∈ findings, finding.severity ≠ .error := fun finding member error =>
    absurd (passes.symm.trans (verdict_of_error member error)) (by decide)
  intro finding member
  cases severity : finding.severity with
  | info => rfl
  | error => exact absurd severity (noError finding member)
  | warning =>
      have worse := passes.symm.trans (verdict_of_warning member severity noError)
      cases failOn <;> exact absurd worse (by decide)

/-- The first of the findings in order decides the verdict. -/
theorem verdict_cons {failOn : FailOn} {first : Finding} {others : List Finding}
    (sorted : (first :: others).Pairwise fun left right =>
      left.severity.rank ≤ right.severity.rank) :
    verdict failOn (first :: others) = verdictOf failOn first.severity := by
  have worst : ∀ finding ∈ first :: others, first.severity.rank ≤ finding.severity.rank := by
    intro finding member
    cases List.mem_cons.mp member with
    | inl equal => exact equal ▸ Nat.le_refl _
    | inr behind => exact (List.pairwise_cons.mp sorted).1 finding behind
  cases severity : first.severity with
  | error => exact verdict_of_error (by simp) severity
  | warning =>
      -- An error among the others would stand before this warning.
      refine verdict_of_warning (by simp) severity fun finding member error => ?_
      have above := worst finding member
      rw [severity, error] at above
      exact absurd above (by decide)
  | info =>
      refine verdict_of_info fun finding member => ?_
      have above := worst finding member
      rw [severity] at above
      cases other : finding.severity with
      | info => rfl
      | warning => rw [other] at above; exact absurd above (by decide)
      | error => rw [other] at above; exact absurd above (by decide)

/-- A cut behind the first of the findings in order does not change the verdict. -/
theorem verdict_take {failOn : FailOn} {findings : List Finding} {limit : Nat}
    (sorted : findings.Pairwise fun left right => left.severity.rank ≤ right.severity.rank)
    (positive : 0 < limit) : verdict failOn (findings.take limit) = verdict failOn findings := by
  cases findings with
  | nil => rw [List.take_nil]
  | cons first others =>
      -- Both lists begin with the same finding, and that one decides.
      obtain ⟨room, rfl⟩ := Nat.exists_eq_succ_of_ne_zero (Nat.ne_of_gt positive)
      have cut := sorted.sublist (List.take_sublist (room + 1) _)
      rw [List.take_succ_cons] at cut ⊢
      rw [verdict_cons cut, verdict_cons sorted]

/-! ## Runs -/

/-- A run with room for a finding concludes what all its findings say. -/
theorem evaluate_verdict {policy : Policy} (room : 0 < policy.maxFindings) (schema : Schema)
    (context : Context) :
    (evaluate schema context policy).verdict =
      verdict policy.failOn (allFindings schema context policy) := by
  show verdict _ ((Finding.sort _).take _) = _
  rw [verdict_take (Finding.sort_severity_pairwise _) room, verdict_sort]

/-- A run without room for any finding passes. -/
theorem evaluate_verdict_of_no_room {policy : Policy} (none : policy.maxFindings = 0)
    (schema : Schema) (context : Context) :
    (evaluate schema context policy).verdict = .pass := by
  show verdict _ ((Finding.sort _).take _) = _
  rw [none, List.take_zero]
  exact verdict_of_info fun _ member => absurd member List.not_mem_nil

/-- Nothing is truncated exactly when there is room for all findings. -/
theorem truncatedReason_eq_none_iff {schema : Schema} {context : Context} {policy : Policy} :
    (evaluate schema context policy).data.truncatedReason = none ↔
      (allFindings schema context policy).length ≤ policy.maxFindings := by
  show truncatedReason? policy.maxFindings (Finding.sort _).length = none ↔ _
  rw [Finding.length_sort, truncatedReason?]
  split
  · rename_i less
    exact ⟨nofun, fun enough => absurd enough (Nat.not_le_of_lt less)⟩
  · rename_i notLess
    exact ⟨fun _ => Nat.le_of_not_lt notLess, fun _ => rfl⟩

/-- A run that truncates nothing shows all its findings. -/
theorem findings_of_whole {schema : Schema} {context : Context} {policy : Policy}
    (whole : (evaluate schema context policy).data.truncatedReason = none) :
    (evaluate schema context policy).findings =
      Finding.sort (allFindings schema context policy) := by
  have enough := truncatedReason_eq_none_iff.mp whole
  rw [← Finding.length_sort] at enough
  exact List.take_of_length_le enough

/-- A run that truncates nothing concludes what all its findings say. -/
theorem evaluate_verdict_of_whole {schema : Schema} {context : Context} {policy : Policy}
    (whole : (evaluate schema context policy).data.truncatedReason = none) :
    (evaluate schema context policy).verdict =
      verdict policy.failOn (allFindings schema context policy) := by
  show verdict _ (evaluate schema context policy).findings = _
  rw [findings_of_whole whole, verdict_sort]

/-- A run concludes what the same run without truncation concludes exactly when it may show a
finding, or when there is nothing to conclude but a pass. -/
theorem verdict_eq_untruncated_iff (schema : Schema) (context : Context) (policy : Policy)
    (limit : Nat)
    (whole : (evaluate schema context { policy with maxFindings := limit }).data.truncatedReason =
      none) :
    (evaluate schema context policy).verdict =
        (evaluate schema context { policy with maxFindings := limit }).verdict ↔
      0 < policy.maxFindings ∨
        (evaluate schema context { policy with maxFindings := limit }).verdict = .pass := by
  rcases Nat.eq_zero_or_pos policy.maxFindings with noRoom | room
  · rw [evaluate_verdict_of_no_room noRoom, noRoom]
    simp [eq_comm]
  · have same : (evaluate schema context policy).verdict =
        (evaluate schema context { policy with maxFindings := limit }).verdict :=
      (evaluate_verdict room schema context).trans (evaluate_verdict_of_whole whole).symm
    exact ⟨fun _ => Or.inl room, fun _ => same⟩

/-! ## A run without room -/

/-- Two keys: one must be set, the other takes one value. -/
def twoKeys : Schema :=
  { config := .ofList [("db.url", ⟨.string, true, []⟩), ("log.level", ⟨.enum, false, ["info"]⟩)]
    invariants := []
    environments := .empty }

/-- The first key is not set, the second has another value. -/
def twoFaults : Context := ⟨.ofList [("log.level", "debug")], "prod"⟩

/-- A missing key is a warning, an undeclared value an error. -/
def mixedPolicy (maxFindings : Nat) : Policy :=
  { profile := "strict"
    failOn := .error
    maxFindings
    environment := none
    checks := .ofList [("config.required", ⟨true, .warning⟩), ("config.enum", ⟨true, .error⟩)] }

/-- Cut to the one finding that was made last, the run still fails. -/
theorem twoFaults_verdict_kept :
    (evaluate twoKeys twoFaults { mixedPolicy 1 with maxFindings := 2 }).data.truncatedReason =
        none ∧
      (evaluate twoKeys twoFaults (mixedPolicy 1)).verdict =
        (evaluate twoKeys twoFaults { mixedPolicy 1 with maxFindings := 2 }).verdict := by
  have whole : (evaluate twoKeys twoFaults
      { mixedPolicy 1 with maxFindings := 2 }).data.truncatedReason = none :=
    truncatedReason_eq_none_iff.mpr (by decide)
  have kept := verdict_eq_untruncated_iff twoKeys twoFaults (mixedPolicy 1) 2 whole
  exact ⟨whole, kept.mpr (Or.inl (by decide))⟩

/-- Cut to nothing, the run that fails passes. -/
theorem twoFaults_verdict_lost :
    (evaluate twoKeys twoFaults (mixedPolicy 2)).data.truncatedReason = none ∧
      (evaluate twoKeys twoFaults (mixedPolicy 2)).verdict = .fail ∧
      (evaluate twoKeys twoFaults (mixedPolicy 0)).verdict = .pass := by
  refine ⟨truncatedReason_eq_none_iff.mpr (by decide), ?_, evaluate_verdict_of_no_room rfl _ _⟩
  rw [evaluate_verdict (by decide)]
  decide

end Gate

end ConfigGate
