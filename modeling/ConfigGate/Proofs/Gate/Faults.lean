import ConfigGate.Proofs.Gate.Findings

/-!
# The faults of a run

A fault is a place where a run has gone wrong: a key, or the position of an invariant. `Shows` says
when there is a fault and which finding tells of it, in the names and words that a report has for
it, and a run makes one finding for each fault. The findings stand in the order in which the checks
come on the faults: check after check, keys ascending, invariants by position.

Results:
1. `mem_faults_iff`: the faults with their findings are exactly those that `Shows` relates;
2. `faults_map_snd`: without the faults they are the findings that the checks make;
3. `faults_ascending`: no fault is come on twice.
-/

namespace ConfigGate

/-- `policy.Runs checkId severity`: the check of this name runs, and this is how bad the faults are
that it watches for. -/
def Policy.Runs (policy : Policy) (checkId : String) (severity : Severity) : Prop :=
  policy.checks.get? checkId = some ⟨true, severity⟩

theorem Policy.severity?_eq_some_iff {policy : Policy} {checkId : String} {severity : Severity} :
    policy.severity? checkId = some severity ↔ policy.Runs checkId severity := by
  unfold severity? Runs
  rcases policy.checks.get? checkId with _ | ⟨_ | _, set⟩ <;> simp

namespace Gate

/-- A place where a run can go wrong. -/
inductive Fault where
  | missing (key : String)
  | undeclared (key : String)
  | broken (position : Nat)
  | violated (key : String)
deriving DecidableEq, Repr

namespace Fault

/-- The place among the checks of the one that comes on a fault. Both kinds of clause are checked
together. -/
def stage : Fault → Nat
  | missing _ => 0
  | undeclared _ => 1
  | broken _ => 2
  | violated _ => 3

/-- `left.Before right`: a run comes on the left fault first. -/
def Before : Fault → Fault → Prop
  | missing left, missing right => left < right
  | undeclared left, undeclared right => left < right
  | broken left, broken right => left < right
  | violated left, violated right => left < right
  | left, right => left.stage < right.stage

theorem Before.asymm {left right : Fault} (before : left.Before right) : ¬right.Before left := by
  cases left <;> cases right <;> first
    | exact Nat.lt_asymm before
    | exact String.lt_asymm before

theorem not_before_self (fault : Fault) : ¬fault.Before fault :=
  fun before => before.asymm before

/-- Faults that two checks come on stand in the order of the checks. -/
theorem before_of_stage_lt {left right : Fault} (earlier : left.stage < right.stage) :
    left.Before right := by
  cases left <;> cases right <;> first
    | exact earlier
    | exact absurd earlier (Nat.lt_irrefl _)

end Fault

/-- `Shows schema context policy fault finding`: the run is at fault there, the check that watches
for it runs, and the finding tells of it. The contract that applies is that of the policy's
environment or, if there is none, that of the execution tag. -/
inductive Shows (schema : Schema) (context : Context) (policy : Policy) : Fault → Finding → Prop
  | missing {key : String} {decl : KeyDecl} {severity : Severity} :
      policy.Runs "config.required" severity →
      schema.config.get? key = some decl → decl.required = true →
      context.values.get? key = none →
      Shows schema context policy (.missing key)
        { severity
          checkId := "config.required"
          code := "missing_required_key"
          message := "required config key '" ++ key ++ "' is not set"
          location := none
          help := some "Set the corresponding environment variable for this deployment."
          url := none
          fingerprint := some (fingerprint "config.required" "missing_required_key" key none)
          data := Json.sortedObject [("key", .text key), ("type", .text decl.kind.word)] }
  | undeclared {key value : String} {decl : KeyDecl} {severity : Severity} :
      policy.Runs "config.enum" severity →
      schema.config.get? key = some decl → decl.kind = .enum →
      context.values.get? key = some value → value ∉ decl.values →
      Shows schema context policy (.undeclared key)
        { severity
          checkId := "config.enum"
          code := "value_not_in_enum"
          message := "config key '" ++ key ++ "' has value '" ++ value ++ "', expected one of: " ++
            Text.commaList decl.values
          location := none
          help := some "Use one of the values declared for this key in the schema."
          url := none
          fingerprint := some (fingerprint "config.enum" "value_not_in_enum" key none)
          data := Json.sortedObject [("key", .text key), ("type", .text decl.kind.word),
            ("value", .text value), ("allowed", Json.texts decl.values)] }
  | broken {position : Nat} {invariant : Invariant} {severity : Severity}
      {result : InvariantResult} :
      policy.Runs "invariant.rule" severity →
      schema.invariants[position]? = some invariant →
      invariant.evaluate context = result → result.passed = false →
      Shows schema context policy (.broken position)
        { severity
          checkId := "invariant.rule"
          code := "invariant_violated"
          message := "invariant '" ++ invariant.name ++ "' failed: " ++ result.message
          location := none
          help := some ("Rule: " ++ invariant.rule)
          url := none
          fingerprint :=
            some (fingerprint "invariant.rule" "invariant_violated" invariant.name none)
          data := Json.sortedObject [("invariant", .text invariant.name),
            ("rule", .text invariant.rule), ("left", .text result.leftValue),
            ("right", .text result.rightValue)] }
  | excluded {contract : Contract} {key value : String} {allowed : List String}
      {severity : Severity} :
      policy.Runs "contract.allow" severity →
      schema.environments.get? (policy.environment.getD context.executionEnv) = some contract →
      ⟨key, value, .allow, allowed, none⟩ ∈ (contract.evaluate context.values).violations →
      Shows schema context policy (.violated key)
        { severity
          checkId := "contract.allow"
          code := "value_not_allowed"
          message := "'" ++ key ++ "' = '" ++ value ++ "' is " ++ "not allowed in environment '" ++
            contract.name ++ "' (allowed: " ++ Text.commaList allowed ++ ")"
          location := none
          help := some "Use one of the values the environment contract allows."
          url := none
          fingerprint := some (fingerprint "contract.allow" "value_not_allowed" key none)
          data := Json.sortedObject [("environment", .text contract.name), ("key", .text key),
            ("value", .text value), ("rule_type", .text "allow"),
            ("expected", Json.texts allowed), ("pattern", .null)] }
  | denied {contract : Contract} {key value pattern : String} {denied : List String}
      {severity : Severity} :
      policy.Runs "contract.deny" severity →
      schema.environments.get? (policy.environment.getD context.executionEnv) = some contract →
      ⟨key, value, .deny, denied, some pattern⟩ ∈ (contract.evaluate context.values).violations →
      Shows schema context policy (.violated key)
        { severity
          checkId := "contract.deny"
          code := "value_denied"
          message := "'" ++ key ++ "' = '" ++ value ++ "' is " ++ "denied in environment '" ++
            contract.name ++ "' (matches '" ++ pattern ++ "')"
          location := none
          help := some "This value is explicitly denied for the environment; choose another."
          url := none
          fingerprint := some (fingerprint "contract.deny" "value_denied" key (some pattern))
          data := Json.sortedObject [("environment", .text contract.name), ("key", .text key),
            ("value", .text value), ("rule_type", .text "deny"),
            ("expected", Json.texts denied), ("pattern", .text pattern)] }

/-! ## Findings with their faults -/

/-- The findings that `make` makes of some entries, each with the fault at its entry. -/
def label {α : Type} (place : α → Fault) (make : α → Option Finding) (entries : List α) :
    List (Fault × Finding) :=
  entries.filterMap fun entry => (make entry).map fun finding => (place entry, finding)

/-- The findings that a check makes of some entries if it runs, each with the fault at its entry. -/
def labelOn {α : Type} (policy : Policy) (check : Check) (place : α → Fault)
    (make : Severity → α → Option Finding) (entries : List α) : List (Fault × Finding) :=
  label place (fun entry => (policy.severity? check.id).bind fun severity => make severity entry)
    entries

section Faults

variable (schema : Schema) (context : Context) (policy : Policy)

/-- Required keys that are not set, with their findings. -/
def missingFaults : List (Fault × Finding) :=
  labelOn policy .required (fun entry => .missing entry.1)
    (fun severity => missingFinding? severity context) schema.config.entries

/-- Keys with undeclared values, with their findings. -/
def undeclaredFaults : List (Fault × Finding) :=
  labelOn policy .enumValue (fun entry => .undeclared entry.1)
    (fun severity => undeclaredFinding? severity context) schema.config.entries

/-- Invariants that do not hold, with their findings. -/
def brokenFaults : List (Fault × Finding) :=
  labelOn policy .invariantRule (fun placed => .broken placed.2)
    (fun severity placed => brokenFinding? severity (placed.1.evaluate context))
    schema.invariants.zipIdx

/-- Keys with values that the contract does not permit, with their findings. -/
def violatedFaults : List (Fault × Finding) :=
  match contractResult? schema context policy with
  | none => []
  | some result =>
      label (fun violation => .violated violation.key)
        (fun violation => (policy.severity? (Check.ofClause violation.clause).id).map
          fun severity => violationFinding severity result.environment violation)
        result.violations

/-- The faults of a run with their findings, in the order in which the checks come on them. -/
def faults : List (Fault × Finding) :=
  missingFaults schema context policy ++ undeclaredFaults schema context policy ++
    brokenFaults schema context policy ++ violatedFaults schema context policy

end Faults

namespace FaultLemmas

variable {α : Type} {policy : Policy} {check : Check} {place : α → Fault}
  {make : α → Option Finding} {makeAt : Severity → α → Option Finding} {entries : List α}
  {fault : Fault} {finding : Finding}

theorem label_map_snd : (label place make entries).map (·.2) = entries.filterMap make := by
  simp [label, List.map_filterMap, Function.comp_def]

theorem labelOn_map_snd : (labelOn policy check place makeAt entries).map (·.2) =
    whenOn policy check fun severity => entries.filterMap (makeAt severity) := by
  rw [labelOn, label_map_snd, whenOn]
  cases policy.severity? check.id with
  | none => simp
  | some severity => rfl

theorem mem_label_iff :
    (fault, finding) ∈ label place make entries ↔
      ∃ entry ∈ entries, place entry = fault ∧ make entry = some finding := by
  simp only [label, List.mem_filterMap, Option.map_eq_some_iff, Prod.mk.injEq]
  constructor
  · rintro ⟨entry, member, _, made, rfl, rfl⟩
    exact ⟨entry, member, rfl, made⟩
  · rintro ⟨entry, member, rfl, made⟩
    exact ⟨entry, member, finding, made, rfl, rfl⟩

theorem mem_labelOn_iff :
    (fault, finding) ∈ labelOn policy check place makeAt entries ↔
      ∃ entry ∈ entries, place entry = fault ∧ ∃ severity,
        policy.severity? check.id = some severity ∧ makeAt severity entry = some finding := by
  simp only [labelOn, mem_label_iff, Option.bind_eq_some_iff]

/-- Where the entries stand in order, so do the faults at them. -/
theorem label_ascending
    (inOrder : entries.Pairwise fun left right => (place left).Before (place right)) :
    (label place make entries).Pairwise fun left right => left.1.Before right.1 := by
  refine inOrder.filterMap _ fun left right before first firstMade second secondMade => ?_
  obtain ⟨_, -, rfl⟩ := Option.map_eq_some_iff.mp firstMade
  obtain ⟨_, -, rfl⟩ := Option.map_eq_some_iff.mp secondMade
  exact before

/-- `Staged stage found`: the faults stand in order and are those of the checks below `stage`. -/
structure Staged (stage : Nat) (found : List (Fault × Finding)) : Prop where
  ascending : found.Pairwise fun left right => left.1.Before right.1
  below : ∀ entry ∈ found, entry.1.stage < stage

theorem staged_nil : Staged 0 [] := ⟨.nil, fun _ member => absurd member List.not_mem_nil⟩

/-- What the next check comes on stands behind what was found. -/
theorem Staged.append {stage : Nat} {found : List (Fault × Finding)} (staged : Staged stage found)
    (inOrder : entries.Pairwise fun left right => (place left).Before (place right))
    (next : ∀ entry, (place entry).stage = stage) :
    Staged (stage + 1) (found ++ label place make entries) := by
  have stageOf : ∀ entry ∈ label place make entries, entry.1.stage = stage := by
    rintro ⟨fault, finding⟩ member
    obtain ⟨entry, -, rfl, -⟩ := mem_label_iff.mp member
    exact next entry
  constructor
  · refine List.pairwise_append.mpr ⟨staged.ascending, label_ascending inOrder, ?_⟩
    intro left inFound right inNext
    refine Fault.before_of_stage_lt ?_
    rw [stageOf right inNext]
    exact staged.below left inFound
  · intro entry member
    cases List.mem_append.mp member with
    | inl inFound => exact Nat.lt_succ_of_lt (staged.below entry inFound)
    | inr inNext => exact Nat.lt_succ_of_le (Nat.le_of_eq (stageOf entry inNext))

end FaultLemmas

open FaultLemmas

variable {schema : Schema} {context : Context} {policy : Policy} {fault : Fault}
  {finding : Finding}

/-! ## The findings of the faults -/

theorem brokenFaults_map_snd : (brokenFaults schema context policy).map (·.2) =
    whenOn policy .invariantRule fun severity =>
      invariantFindings severity (invariantResults schema context) := by
  rw [brokenFaults, labelOn_map_snd]
  congr 1
  funext severity
  -- The positions play no part in what is found.
  rw [invariantFindings_eq_filterMap, invariantResults, List.filterMap_map]
  conv => rhs; rw [← List.zipIdx_map_fst 0 schema.invariants, List.filterMap_map]
  rfl

theorem violatedFaults_map_snd : (violatedFaults schema context policy).map (·.2) =
    match contractResult? schema context policy with
    | none => []
    | some result => contractFindings policy result := by
  unfold violatedFaults
  cases contractResult? schema context policy with
  | none => rfl
  | some result => exact label_map_snd

/-- The findings of the faults are the findings that the checks make. -/
theorem faults_map_snd :
    (faults schema context policy).map (·.2) = allFindings schema context policy := by
  unfold faults allFindings
  rw [List.map_append, List.map_append, List.map_append, missingFaults, labelOn_map_snd,
    undeclaredFaults, labelOn_map_snd, brokenFaults_map_snd, violatedFaults_map_snd]
  rfl

/-- What a violation is told by, if the check for its clause runs. -/
theorem shows_violated {contract : Contract} {violation : Violation} {severity : Severity}
    (on : policy.Runs (Check.ofClause violation.clause).id severity)
    (selected : schema.contract? (contractName policy context) = some contract)
    (member : violation ∈ (contract.evaluate context.values).violations) :
    Shows schema context policy (.violated violation.key)
      (violationFinding severity contract.name violation) := by
  obtain ⟨key, value, -, found⟩ := Contract.mem_evaluate_violations_iff.mp member
  have matched := Contract.pattern_isSome_of_violation? found
  obtain ⟨key, value, clause, expected, pattern⟩ := violation
  -- Only what is denied matches a pattern.
  cases clause <;> cases pattern
  case allow.none => exact .excluded on selected member
  case allow.some => exact absurd (matched.mp rfl) nofun
  case deny.none => exact absurd (matched.mpr rfl) nofun
  case deny.some => exact .denied on selected member

theorem mem_violatedFaults {contract : Contract} {violation : Violation} {severity : Severity}
    (on : policy.severity? (Check.ofClause violation.clause).id = some severity)
    (selected : schema.contract? (contractName policy context) = some contract)
    (member : violation ∈ (contract.evaluate context.values).violations) :
    (Fault.violated violation.key, violationFinding severity contract.name violation) ∈
      violatedFaults schema context policy := by
  rw [violatedFaults, contractResult?_eq_some_iff.mpr ⟨contract, selected, rfl⟩]
  exact mem_label_iff.mpr ⟨violation, member, rfl, Option.map_eq_some_iff.mpr ⟨severity, on, rfl⟩⟩

/-- The faults of a run are those that it shows. -/
theorem mem_faults_iff :
    (fault, finding) ∈ faults schema context policy ↔
      Shows schema context policy fault finding := by
  unfold faults
  rw [List.mem_append, List.mem_append, List.mem_append]
  constructor
  · rintro (((found | found) | found) | found)
    · obtain ⟨⟨key, decl⟩, declared, rfl, severity, on, made⟩ := mem_labelOn_iff.mp found
      obtain ⟨required, unset, rfl⟩ := missingFinding?_eq_some_iff.mp made
      exact .missing (Policy.severity?_eq_some_iff.mp on) (SortedMap.get?_eq_some_iff.mpr declared)
        required unset
    · obtain ⟨⟨key, decl⟩, declared, rfl, severity, on, made⟩ := mem_labelOn_iff.mp found
      obtain ⟨value, enum, set, other, rfl⟩ := undeclaredFinding?_eq_some_iff.mp made
      exact .undeclared (Policy.severity?_eq_some_iff.mp on)
        (SortedMap.get?_eq_some_iff.mpr declared) enum set other
    · obtain ⟨⟨invariant, position⟩, placed, rfl, severity, on, made⟩ := mem_labelOn_iff.mp found
      obtain ⟨failed, rfl⟩ := brokenFinding?_eq_some_iff.mp made
      exact .broken (Policy.severity?_eq_some_iff.mp on) (List.mem_zipIdx_iff_getElem?.mp placed)
        rfl failed
    · unfold violatedFaults at found
      split at found
      · exact absurd found List.not_mem_nil
      · rename_i result applies
        obtain ⟨contract, selected, rfl⟩ := contractResult?_eq_some_iff.mp applies
        obtain ⟨violation, member, rfl, made⟩ := mem_label_iff.mp found
        obtain ⟨severity, on, rfl⟩ := Option.map_eq_some_iff.mp made
        exact shows_violated (Policy.severity?_eq_some_iff.mp on) selected member
  · intro shows
    cases shows with
    | @missing key decl severity on declared required unset =>
        exact .inl (.inl (.inl (mem_labelOn_iff.mpr ⟨(key, decl),
          SortedMap.get?_eq_some_iff.mp declared, rfl, severity,
          Policy.severity?_eq_some_iff.mpr on,
          missingFinding?_eq_some_iff.mpr ⟨required, unset, rfl⟩⟩)))
    | @undeclared key value decl severity on declared enum set other =>
        exact .inl (.inl (.inr (mem_labelOn_iff.mpr ⟨(key, decl),
          SortedMap.get?_eq_some_iff.mp declared, rfl, severity,
          Policy.severity?_eq_some_iff.mpr on,
          undeclaredFinding?_eq_some_iff.mpr ⟨value, enum, set, other, rfl⟩⟩)))
    | @broken position invariant severity result on placed evaluated failed =>
        subst evaluated
        exact .inl (.inr (mem_labelOn_iff.mpr ⟨(invariant, position),
          List.mem_zipIdx_iff_getElem?.mpr placed, rfl, severity,
          Policy.severity?_eq_some_iff.mpr on,
          brokenFinding?_eq_some_iff.mpr ⟨failed, rfl⟩⟩))
    | @excluded contract key value allowed severity on selected member =>
        exact .inr (mem_violatedFaults (Policy.severity?_eq_some_iff.mpr on) selected member)
    | @denied contract key value pattern denied severity on selected member =>
        exact .inr (mem_violatedFaults (Policy.severity?_eq_some_iff.mpr on) selected member)

/-! ## The order of the faults -/

/-- The checks come on each fault once, and on the faults in their order. -/
theorem faults_ascending :
    (faults schema context policy).Pairwise fun left right => left.1.Before right.1 := by
  have positions : schema.invariants.zipIdx.Pairwise fun left right => left.2 < right.2 := by
    refine List.pairwise_map.mp ?_
    rw [List.zipIdx_map_snd]
    exact List.pairwise_lt_range'
  have declared : Staged 3 (missingFaults schema context policy ++
      undeclaredFaults schema context policy ++ brokenFaults schema context policy) :=
    ((staged_nil.append schema.config.ascending fun _ => rfl).append schema.config.ascending
      fun _ => rfl).append positions fun _ => rfl
  unfold faults violatedFaults
  split
  · rw [List.append_nil]
    exact declared.ascending
  · rename_i result applies
    obtain ⟨contract, -, rfl⟩ := contractResult?_eq_some_iff.mp applies
    exact (declared.append (contract.evaluate_violations_ascending context.values)
      fun _ => rfl).ascending

end Gate

end ConfigGate
