import ConfigGate.Proofs.Gate.Faults
import ConfigGate.Proofs.Gate.Verdict
import Mathlib.Algebra.Group.Nat.Defs
import Mathlib.Data.List.Nodup

/-!
# What a report shows

A report shows the faults of a run, each with one finding that tells of it, in the order of the
headings of the findings. Sorting is stable, so where headings are equal the faults stand in the
order in which the checks come on them. `Arrangement` says this of a list of faults, and what a run
emits is the findings of such a list as far as the policy has room for them.

Results:
1. `mergeSort_keeps_order`: entries that a sort does not tell apart keep their order;
2. `exists_arrangement`, `Arrangement.unique`: the faults of a run can be arranged in one way, and
   sorting does it;
3. `evaluate_emits_arrangement`: what is emitted, and the figures that are given about it.
-/

namespace ConfigGate

/-! ## The order of findings -/

/-- `left.Worse right`: errors are worse than warnings, and both are worse than information. -/
def Severity.Worse : Severity → Severity → Prop
  | error, warning | error, info | warning, info => True
  | _, _ => False

theorem Severity.rank_lt_iff {left right : Severity} :
    left.rank < right.rank ↔ left.Worse right := by
  cases left <;> cases right <;> simp [rank, Worse]

theorem Severity.rank_eq_iff {left right : Severity} : left.rank = right.rank ↔ left = right := by
  cases left <;> cases right <;> decide

/-- What decides the place of a finding in a report: severity, check, code and message. -/
abbrev Heading : Type := Severity × String × String × String

/-- `left.Precedes right`: the left one is worse or, where severities are equal, the first by check,
then by code, then by message. Texts are compared code point by code point. -/
def Heading.Precedes (left right : Heading) : Prop :=
  Prod.Lex Severity.Worse (Prod.Lex (· < ·) (Prod.Lex (· < ·) (· < ·))) left right

/-- Orders that go one way only do so one after the other. -/
theorem lex_asymm {α β : Type} {first : α → α → Prop} {second : β → β → Prop}
    (firstAsymm : ∀ a b, first a b → ¬first b a) (secondAsymm : ∀ a b, second a b → ¬second b a)
    {left right : α × β} (before : Prod.Lex first second left right) :
    ¬Prod.Lex first second right left := by
  rw [Prod.lex_def] at before ⊢
  rintro (back | ⟨same, back⟩)
  · rcases before with before | ⟨same, -⟩
    · exact firstAsymm _ _ before back
    · rw [same] at back
      exact firstAsymm _ _ back back
  · rcases before with before | ⟨-, before⟩
    · rw [same] at before
      exact firstAsymm _ _ before before
    · exact secondAsymm _ _ before back

theorem Severity.Worse.asymm {left right : Severity} (worse : left.Worse right) :
    ¬right.Worse left := by
  rw [← rank_lt_iff] at worse ⊢
  exact Nat.lt_asymm worse

theorem Heading.Precedes.asymm {left right : Heading} (before : left.Precedes right) :
    ¬right.Precedes left := by
  have texts (a b : String) : a < b → ¬b < a := String.lt_asymm
  have lastTexts (a b : String × String) :
      Prod.Lex (· < ·) (· < ·) a b → ¬Prod.Lex (· < ·) (· < ·) b a := lex_asymm texts texts
  exact lex_asymm (fun _ _ => Severity.Worse.asymm) (fun _ _ => lex_asymm texts lastTexts) before

namespace Finding

/-- What decides the place of a finding in a report. -/
def heading (finding : Finding) : Heading :=
  (finding.severity, finding.checkId, finding.code, finding.message)

/-- `Distinct findings`: no two of the findings have the same heading. -/
def Distinct (findings : List Finding) : Prop :=
  findings.Pairwise fun left right => left.heading ≠ right.heading

theorem Distinct.perm {left right : List Finding} (distinct : Distinct left)
    (perm : left.Perm right) : Distinct right :=
  (perm.pairwise_iff Ne.symm).mp distinct

theorem compare_text_eq_lt {left right : String} : compare left right = .lt ↔ left < right :=
  compareOfLessAndEq_eq_lt

theorem order_eq_lt_iff {left right : Finding} :
    left.order right = .lt ↔ left.heading.Precedes right.heading := by
  simp only [order, Heading.Precedes, heading, Prod.lex_def, Ordering.then_eq_lt,
    Nat.compare_eq_lt, Severity.rank_lt_iff, Severity.rank_eq_iff, compare_text_eq_lt,
    Std.compare_eq_iff_eq]

theorem order_eq_eq_iff {left right : Finding} :
    left.order right = .eq ↔ left.heading = right.heading := by
  simp only [order, heading, Ordering.then_eq_eq, Severity.rank_eq_iff, Std.compare_eq_iff_eq,
    Prod.mk.injEq]

/-- One finding may stand before another if its heading precedes, or if their headings are equal;
and then either may stand before the other. -/
theorem precedes_or_of_atMost {left right : Finding} (before : left.atMost right = true) :
    left.heading.Precedes right.heading ∨
      left.heading = right.heading ∧ right.atMost left = true := by
  cases order : left.order right with
  | lt => exact .inl (order_eq_lt_iff.mp order)
  | eq =>
      have same := order_eq_eq_iff.mp order
      exact .inr ⟨same, by rw [atMost, order_eq_eq_iff.mpr same.symm]; rfl⟩
  | gt => rw [atMost, order] at before; exact absurd before (by decide)

end Finding

/-- Entries that a sort does not tell apart keep their order. -/
theorem mergeSort_keeps_order {α : Type} {le : α → α → Bool} {before : α → α → Prop}
    (trans : ∀ a b c, le a b = true → le b c = true → le a c = true)
    (total : ∀ a b, (le a b || le b a) = true) {entries : List α}
    (inOrder : entries.Pairwise before) :
    (entries.mergeSort le).Pairwise fun left right => le right left = true → before left right := by
  induction entries with
  | nil => simp
  | cons first others ih =>
      obtain ⟨front, back, whole, rest, above⟩ := List.mergeSort_cons trans total first others
      obtain ⟨firstBefore, othersInOrder⟩ := List.pairwise_cons.mp inOrder
      have sorted := ih othersInOrder
      rw [rest] at sorted
      rw [whole]
      obtain ⟨frontSorted, backSorted, across⟩ := List.pairwise_append.mp sorted
      refine List.pairwise_append.mpr ⟨frontSorted, List.pairwise_cons.mpr
        ⟨fun other member _ => ?_, backSorted⟩, fun left inFront right member => ?_⟩
      · -- What stands behind the first entry was behind it before.
        have inSorted : other ∈ others.mergeSort le := by
          rw [rest]
          exact List.mem_append_right front member
        exact firstBefore other (List.mem_mergeSort.mp inSorted)
      · cases List.mem_cons.mp member with
        | inl equal =>
            intro notAbove
            subst equal
            have strictlyAbove := above left inFront
            rw [notAbove] at strictlyAbove
            exact absurd strictlyAbove nofun
        | inr inBack => exact across left inFront right inBack

namespace Gate

variable {schema : Schema} {context : Context} {policy : Policy}

/-! ## Faults in the order of a report -/

/-- `InOrder left right`: the left one comes first in a report: the heading of its finding precedes
or, where headings are equal, a run comes on its fault first. -/
def InOrder (left right : Fault × Finding) : Prop :=
  left.2.heading.Precedes right.2.heading ∨
    left.2.heading = right.2.heading ∧ left.1.Before right.1

theorem InOrder.asymm {left right : Fault × Finding} (before : InOrder left right) :
    ¬InOrder right left := by
  rintro (back | ⟨same, back⟩)
  · rcases before with before | ⟨same, -⟩
    · exact before.asymm back
    · rw [same] at back
      exact back.asymm back
  · rcases before with before | ⟨-, before⟩
    · rw [same] at before
      exact before.asymm before
    · exact Fault.Before.asymm before back

/-- `Arrangement schema context policy found`: these are the faults of the run, each once and with
its finding, in the order of a report. -/
structure Arrangement (schema : Schema) (context : Context) (policy : Policy)
    (found : List (Fault × Finding)) : Prop where
  shows : ∀ fault finding, (fault, finding) ∈ found ↔ Shows schema context policy fault finding
  once : (found.map (·.1)).Nodup
  inOrder : found.Pairwise InOrder

/-- The faults of a run can be arranged in one way only. -/
theorem Arrangement.unique {left right : List (Fault × Finding)}
    (first : Arrangement schema context policy left)
    (second : Arrangement schema context policy right) : left = right := by
  have perm : left.Perm right := by
    refine (List.perm_ext_iff_of_nodup (List.Nodup.of_map _ first.once)
      (List.Nodup.of_map _ second.once)).mpr fun ⟨fault, finding⟩ => ?_
    exact (first.shows fault finding).trans (second.shows fault finding).symm
  exact perm.eq_of_pairwise (fun _ _ _ _ before back => absurd back before.asymm) first.inOrder
    second.inOrder

/-- The faults of a run can be arranged, and then their findings are all findings in order. -/
theorem exists_arrangement (schema : Schema) (context : Context) (policy : Policy) :
    ∃ found, Arrangement schema context policy found ∧
      found.map (·.2) = Finding.sort (allFindings schema context policy) := by
  let le (left right : Fault × Finding) : Bool := left.2.atMost right.2
  have trans (a b c : Fault × Finding) (first : le a b = true) (second : le b c = true) :
      le a c = true := Finding.atMost_trans _ _ _ first second
  have total (a b : Fault × Finding) : (le a b || le b a) = true := Finding.atMost_total _ _
  refine ⟨(faults schema context policy).mergeSort le, ?_, ?_⟩
  · constructor
    case shows =>
      intro fault finding
      rw [List.mem_mergeSort, mem_faults_iff]
    case once =>
      rw [((List.mergeSort_perm _ le).map (·.1)).nodup_iff, List.Nodup, List.pairwise_map]
      refine faults_ascending.imp fun {left right} before same => ?_
      rw [same] at before
      exact Fault.not_before_self right.1 before
    case inOrder =>
      have sorted := List.pairwise_mergeSort trans total (faults schema context policy)
      have ascending : (faults schema context policy).Pairwise fun left right =>
          left.1.Before right.1 := faults_ascending
      have stable := mergeSort_keeps_order trans total ascending
      refine sorted.imp₂ (fun {left right} before keeps => ?_) stable
      exact (Finding.precedes_or_of_atMost before).imp_right fun ⟨same, back⟩ => ⟨same, keeps back⟩
  · rw [Finding.sort, ← faults_map_snd]
    exact List.map_mergeSort fun _ _ _ _ => rfl

/-! ## What is emitted -/

theorem countP_severity (findings : List Finding) :
    findings.countP (fun finding => finding.severity = .info) +
        findings.countP (fun finding => finding.severity = .warning) +
      findings.countP (fun finding => finding.severity = .error) = findings.length := by
  induction findings with
  | nil => rfl
  | cons first others ih =>
      simp only [List.countP_cons, List.length_cons]
      cases first.severity <;> simp <;> omega

/-- Every finding counts under its severity, unless there are more than a count can hold. -/
theorem counts_sum {findings : List Finding} (few : findings.length < 2 ^ 32) :
    (SeverityCounts.ofFindings findings).info.toNat +
        (SeverityCounts.ofFindings findings).warning.toNat +
      (SeverityCounts.ofFindings findings).error.toNat = findings.length := by
  have counted (p : Finding → Bool) : (findings.countP p).toUInt32.toNat = findings.countP p :=
    UInt32.toNat_ofNat_of_lt' (Nat.lt_of_le_of_lt List.countP_le_length few)
  simp only [SeverityCounts.ofFindings, counted]
  exact countP_severity findings

/-- A reason for truncation is given exactly when there is no room for all findings. -/
theorem truncatedReason_isSome_iff :
    (evaluate schema context policy).data.truncatedReason.isSome = true ↔
      policy.maxFindings < (allFindings schema context policy).length := by
  rw [← Nat.not_le, ← truncatedReason_eq_none_iff, ← ne_eq, Option.ne_none_iff_isSome]

/-- The findings of a run are those of its faults, arranged, as far as the policy has room; and the
figures that the run gives are theirs. -/
theorem evaluate_emits_arrangement (schema : Schema) (context : Context) (policy : Policy) :
    ∃ found, Arrangement schema context policy found ∧
      (evaluate schema context policy).findings = (found.take policy.maxFindings).map (·.2) ∧
      ((evaluate schema context policy).data.truncatedReason.isSome = true ↔
        policy.maxFindings < found.length) ∧
      (found.length < 2 ^ 32 →
        (evaluate schema context policy).data.findingsTotal.toNat = found.length ∧
        (evaluate schema context policy).data.findingsEmitted.toNat =
          min policy.maxFindings found.length ∧
        (evaluate schema context policy).counts.info.toNat +
            (evaluate schema context policy).counts.warning.toNat +
          (evaluate schema context policy).counts.error.toNat =
            min policy.maxFindings found.length) := by
  obtain ⟨found, arranged, sorted⟩ := exists_arrangement schema context policy
  have total : (Finding.sort (allFindings schema context policy)).length = found.length := by
    rw [← sorted, List.length_map]
  have emitted : (evaluate schema context policy).findings.length =
      min policy.maxFindings found.length := by
    show ((Finding.sort _).take _).length = _
    rw [List.length_take, total]
  refine ⟨found, arranged, ?_, ?_, fun few => ?_⟩
  · show (Finding.sort _).take _ = _
    rw [← sorted, List.map_take]
  · rw [truncatedReason_isSome_iff, ← Finding.length_sort, total]
  · have fewEmitted : (evaluate schema context policy).findings.length < 2 ^ 32 := by
      rw [emitted]
      exact Nat.lt_of_le_of_lt (Nat.min_le_right _ _) few
    refine ⟨?_, ?_, (counts_sum fewEmitted).trans emitted⟩
    · show (Nat.toUInt32 (Finding.sort _).length).toNat = _
      rw [total]
      exact UInt32.toNat_ofNat_of_lt' few
    · show (Nat.toUInt32 (evaluate schema context policy).findings.length).toNat = _
      rw [← emitted]
      exact UInt32.toNat_ofNat_of_lt' fewEmitted

/-! ## A report without room for all faults -/

/-- A key that must be set, a key that takes one value, and two invariants of one name, the same but
for the layout of their texts. -/
def crowdedSchema : Schema :=
  { config := .ofList [("db.user", ⟨.string, true, []⟩), ("log.level", ⟨.enum, false, ["info"]⟩)]
    invariants := [⟨"user", "db.user", .configRef "db.user"⟩,
      ⟨"user", " db.user", .configRef "db.user"⟩]
    environments := .ofList
      [("prod", ⟨"prod", .empty, .ofList [("log.level", .deny ["d*"])]⟩)] }

/-- One key is not set, the other has another value. -/
def crowdedContext : Context := ⟨.ofList [("log.level", "debug")], "test"⟩

/-- The contract is not the one of the tag, and there is room for three findings. -/
def crowdedPolicy : Policy :=
  { profile := "strict"
    failOn := .error
    maxFindings := 3
    environment := some "prod"
    checks := .ofList [("config.required", ⟨true, .warning⟩), ("config.enum", ⟨true, .error⟩),
      ("invariant.rule", ⟨true, .error⟩), ("contract.allow", ⟨false, .error⟩),
      ("contract.deny", ⟨true, .info⟩)] }

/-- The five faults in the order of a report. -/
def crowdedFaults : List (Fault × Finding) :=
  let result : InvariantResult :=
    ⟨"user", "db.user", false, "", "", "`db.user` resolved to an empty value"⟩
  [(.undeclared "log.level", undeclaredFinding .error "log.level" ⟨.enum, false, ["info"]⟩ "debug"),
    (.broken 0, brokenFinding .error result),
    (.broken 1, brokenFinding .error { result with rule := " db.user" }),
    (.missing "db.user", missingFinding .warning "db.user" ⟨.string, true, []⟩),
    (.violated "log.level",
      violationFinding .info "prod" ⟨"log.level", "debug", .deny, ["d*"], some "d*"⟩)]

theorem crowdedFaults_arrangement :
    Arrangement crowdedSchema crowdedContext crowdedPolicy crowdedFaults := by
  constructor
  case shows =>
    -- The checks come on the missing key first.
    have made : faults crowdedSchema crowdedContext crowdedPolicy =
        crowdedFaults[3] :: (crowdedFaults.take 3 ++ crowdedFaults.drop 4) := rfl
    have perm : crowdedFaults.Perm (faults crowdedSchema crowdedContext crowdedPolicy) := by
      rw [made]
      show (crowdedFaults.take 3 ++ crowdedFaults[3] :: crowdedFaults.drop 4).Perm _
      exact List.perm_middle
    exact fun fault finding => perm.mem_iff.trans mem_faults_iff
  case once => decide
  case inOrder =>
    have worse {left right : Fault × Finding} (more : left.2.severity.Worse right.2.severity) :
        InOrder left right := .inl (.left _ _ more)
    have byCheck {left right : Fault × Finding} (same : left.2.severity = right.2.severity)
        (less : left.2.checkId < right.2.checkId) : InOrder left right := by
      exact .inl (Prod.lex_def.mpr (.inr ⟨same, .left _ _ less⟩))
    simp only [crowdedFaults, List.pairwise_cons, List.forall_mem_cons, List.not_mem_nil,
      false_imp_iff, implies_true, List.Pairwise.nil, and_true]
    exact ⟨⟨byCheck rfl (by decide), byCheck rfl (by decide), worse trivial, worse trivial⟩,
      ⟨.inr ⟨rfl, Nat.zero_lt_one⟩, worse trivial, worse trivial⟩,
      ⟨worse trivial, worse trivial⟩, worse trivial⟩

/-- The three errors are shown. Where headings are equal the invariant that is declared first stands
first. -/
theorem crowdedSchema_emitted :
    (evaluate crowdedSchema crowdedContext crowdedPolicy).findings.map
        (fun finding => (finding.checkId, finding.help)) =
        [("config.enum", some "Use one of the values declared for this key in the schema."),
          ("invariant.rule", some "Rule: db.user"), ("invariant.rule", some "Rule:  db.user")] ∧
      (evaluate crowdedSchema crowdedContext crowdedPolicy).data.truncatedReason.isSome = true ∧
      (evaluate crowdedSchema crowdedContext crowdedPolicy).data.findingsTotal = 5 ∧
      (evaluate crowdedSchema crowdedContext crowdedPolicy).data.findingsEmitted = 3 ∧
      (evaluate crowdedSchema crowdedContext crowdedPolicy).counts.info.toNat +
          (evaluate crowdedSchema crowdedContext crowdedPolicy).counts.warning.toNat +
        (evaluate crowdedSchema crowdedContext crowdedPolicy).counts.error.toNat = 3 := by
  obtain ⟨found, arranged, shown, truncated, figures⟩ :=
    evaluate_emits_arrangement crowdedSchema crowdedContext crowdedPolicy
  obtain rfl := arranged.unique crowdedFaults_arrangement
  obtain ⟨total, emitted, counted⟩ := figures (by decide)
  have checks := congrArg (List.map fun finding : Finding => (finding.checkId, finding.help)) shown
  exact ⟨checks, truncated.mpr (by decide), UInt32.toNat_inj.mp total, UInt32.toNat_inj.mp emitted,
    counted⟩

end Gate

end ConfigGate
