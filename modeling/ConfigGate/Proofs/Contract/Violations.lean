import ConfigGate.Proofs.Contract

/-!
# Which violations a contract gives

`Objects` relates a value to the violation that a contract finds in it, without an order of search.
A denied value is told with the earliest entry that matches it, whether or not that entry holds a
wildcard itself. Only a value that is not denied can be told to be outside the allowed ones, and
allowed values are compared as they are written.

Results:
1. `violation?_eq_some_iff`: what is found in one value is what the contract objects to it;
2. `evaluate_violations_iff_objects`: of a map of values, each key gives its one violation or none,
   in the order of the keys.
-/

namespace ConfigGate

/-- `EarliestMatch entries value entry`: of the entries, taken as patterns, this is the first that
matches the value. -/
def EarliestMatch (entries : List String) (value entry : String) : Prop :=
  ∃ earlier later, entries = earlier ++ entry :: later ∧
    Wildcard.Matches entry.toList value.toList ∧
    ∀ other ∈ earlier, ¬Wildcard.Matches other.toList value.toList

/-- One wildcard among the entries changes how all of them are compared, but not what they match. -/
theorem Clause.deny_firstMatch?_eq_some_iff {values : List String} {value entry : String} :
    (deny values).firstMatch? value = some entry ↔ EarliestMatch values value entry := by
  show values.find? _ = some entry ↔ _
  rw [List.find?_eq_some_iff_append]
  simp only [Bool.not_eq_true', ← Bool.not_eq_true]
  constructor
  · rintro ⟨found, earlier, later, split, passedOver⟩
    have member : entry ∈ values := split ▸ List.mem_append_right earlier List.mem_cons_self
    refine ⟨earlier, later, split, (deny_entry_iff value member).mp found, fun other before => ?_⟩
    have otherMember : other ∈ values := split ▸ List.mem_append_left _ before
    exact fun whole => passedOver other before ((deny_entry_iff value otherMember).mpr whole)
  · rintro ⟨earlier, later, split, whole, passedOver⟩
    have member : entry ∈ values := split ▸ List.mem_append_right earlier List.mem_cons_self
    refine ⟨(deny_entry_iff value member).mpr whole, earlier, later, split, fun other before => ?_⟩
    have otherMember : other ∈ values := split ▸ List.mem_append_left _ before
    exact fun found => passedOver other before ((deny_entry_iff value otherMember).mp found)

namespace Contract

/-- `contract.Objects key value violation`: this is what the contract finds in the value. -/
inductive Objects (contract : Contract) (key value : String) : Violation → Prop
  | denied {clause : Clause} {entry : String} :
      contract.deny.get? key = some clause → EarliestMatch clause.values value entry →
      Objects contract key value ⟨key, value, .deny, clause.values, some entry⟩
  | excluded {clause : Clause} :
      ¬contract.Denies key value → contract.allow.get? key = some clause →
      value ∉ clause.values →
      Objects contract key value ⟨key, value, .allow, clause.values, none⟩

variable {contract : Contract} {key value : String} {violation : Violation}

/-! ## One value -/

theorem denyViolation?_eq_some_iff_earliest (built : contract.Built) :
    contract.denyViolation? key value = some violation ↔
      ∃ clause entry, contract.deny.get? key = some clause ∧
        EarliestMatch clause.values value entry ∧
        violation = ⟨key, value, .deny, clause.values, some entry⟩ := by
  have earliest {clause : Clause} {entry : String} (found : contract.deny.get? key = some clause) :
      clause.firstMatch? value = some entry ↔ EarliestMatch clause.values value entry := by
    rw [built.deny found]
    exact Clause.deny_firstMatch?_eq_some_iff
  rw [denyViolation?_eq_some_iff]
  constructor
  · rintro ⟨clause, entry, found, first, rfl⟩
    exact ⟨clause, entry, found, (earliest found).mp first, rfl⟩
  · rintro ⟨clause, entry, found, first, rfl⟩
    exact ⟨clause, entry, found, (earliest found).mpr first, rfl⟩

/-- The violation found in a value is what the contract objects to it. -/
theorem violation?_eq_some_iff (built : contract.Built) :
    contract.violation? key value = some violation ↔ contract.Objects key value violation := by
  rw [violation?, Option.or_eq_some_iff, denyViolation?_eq_some_iff_earliest built,
    denyViolation?_eq_none_iff built, allowViolation?_eq_some_iff]
  constructor
  · rintro (⟨clause, entry, found, earliest, rfl⟩ | ⟨free, clause, found, unlisted, rfl⟩)
    · exact .denied found earliest
    · exact .excluded free found unlisted
  · intro objects
    cases objects with
    | denied found earliest => exact .inl ⟨_, _, found, earliest, rfl⟩
    | excluded free found unlisted => exact .inr ⟨free, _, found, unlisted, rfl⟩

theorem Objects.key_eq (objects : contract.Objects key value violation) : violation.key = key := by
  cases objects <;> rfl

theorem Objects.deny_iff (objects : contract.Objects key value violation) :
    violation.clause = .deny ↔ contract.Denies key value := by
  cases objects with
  | @denied clause entry found earliest =>
      obtain ⟨earlier, later, split, whole, -⟩ := earliest
      exact ⟨fun _ => ⟨clause, found, entry, by simp [split], whole⟩, fun _ => rfl⟩
  | excluded free _ _ => exact ⟨nofun, fun denies => absurd denies free⟩

theorem Objects.allow_iff (objects : contract.Objects key value violation) :
    violation.clause = .allow ↔ ¬contract.Denies key value ∧ contract.Excludes key value := by
  cases objects with
  | denied found earliest =>
      have denies := (Objects.denied found earliest).deny_iff.mp rfl
      exact ⟨nofun, fun ⟨free, _⟩ => absurd denies free⟩
  | excluded free found unlisted => exact ⟨fun _ => ⟨free, _, found, unlisted⟩, fun _ => rfl⟩

/-- The contract objects to every value that it does not permit. -/
theorem exists_objects (built : contract.Built)
    (refused : contract.Denies key value ∨ contract.Excludes key value) :
    ∃ violation, contract.Objects key value violation := by
  cases found : contract.violation? key value with
  | some violation => exact ⟨violation, (violation?_eq_some_iff built).mp found⟩
  | none =>
      obtain ⟨free, listed⟩ := (violation?_eq_none_iff built).mp found
      exact (refused.elim free listed).elim

/-! ## A map of values -/

variable {values : SortedMap String}

theorem mem_evaluate_violations_iff_objects (built : contract.Built) :
    violation ∈ (contract.evaluate values).violations ↔
      ∃ value, values.get? violation.key = some value ∧
        contract.Objects violation.key value violation := by
  simp only [mem_evaluate_violations_iff, violation?_eq_some_iff built]
  constructor
  · rintro ⟨key, value, set, objects⟩
    obtain rfl := objects.key_eq
    exact ⟨value, set, objects⟩
  · rintro ⟨value, set, objects⟩
    exact ⟨violation.key, value, set, objects⟩

/-- Of the violations of a key that has a value, one is of the deny clause exactly when the value
is denied, and one is of the allow clause exactly when it is excluded without being denied. -/
theorem evaluate_violations_of_key (built : contract.Built) (set : values.get? key = some value) :
    ((∃ violation ∈ (contract.evaluate values).violations,
        violation.key = key ∧ violation.clause = .deny) ↔ contract.Denies key value) ∧
      ((∃ violation ∈ (contract.evaluate values).violations,
        violation.key = key ∧ violation.clause = .allow) ↔
          ¬contract.Denies key value ∧ contract.Excludes key value) := by
  have objects_of_mem {violation : Violation}
      (member : violation ∈ (contract.evaluate values).violations)
      (same : violation.key = key) : contract.Objects key value violation := by
    obtain ⟨other, otherSet, objects⟩ := (mem_evaluate_violations_iff_objects built).mp member
    subst same
    rwa [Option.some.inj (set.symm.trans otherSet)]
  have exists_of_refused (refused : contract.Denies key value ∨ contract.Excludes key value) :
      ∃ violation ∈ (contract.evaluate values).violations, violation.key = key ∧
        contract.Objects key value violation := by
    obtain ⟨violation, objects⟩ := exists_objects built refused
    obtain rfl := objects.key_eq
    exact ⟨violation, (mem_evaluate_violations_iff_objects built).mpr ⟨value, set, objects⟩, rfl,
      objects⟩
  constructor
  · constructor
    · rintro ⟨violation, member, same, deny⟩
      exact (objects_of_mem member same).deny_iff.mp deny
    · intro denies
      obtain ⟨violation, member, same, objects⟩ := exists_of_refused (.inl denies)
      exact ⟨violation, member, same, objects.deny_iff.mpr denies⟩
  · constructor
    · rintro ⟨violation, member, same, allow⟩
      exact (objects_of_mem member same).allow_iff.mp allow
    · rintro ⟨free, excludes⟩
      obtain ⟨violation, member, same, objects⟩ := exists_of_refused (.inr excludes)
      exact ⟨violation, member, same, objects.allow_iff.mpr ⟨free, excludes⟩⟩

/-- Holding values against a contract gives what the contract objects to them and nothing else, in
the order of their keys: a denied value by the earliest entry that matches it, any other value by
the allow clause if that does not list it. -/
theorem evaluate_violations_iff_objects (built : contract.Built) (values : SortedMap String) :
    (contract.evaluate values).violations.Pairwise (fun left right => left.key < right.key) ∧
      (∀ violation, violation ∈ (contract.evaluate values).violations ↔
        ∃ value, values.get? violation.key = some value ∧
          contract.Objects violation.key value violation) ∧
      (∀ key value, values.get? key = some value →
        ((∃ violation ∈ (contract.evaluate values).violations,
            violation.key = key ∧ violation.clause = .deny) ↔ contract.Denies key value) ∧
          ((∃ violation ∈ (contract.evaluate values).violations,
            violation.key = key ∧ violation.clause = .allow) ↔
              ¬contract.Denies key value ∧ contract.Excludes key value)) ∧
      ((contract.evaluate values).passed = true ↔ (contract.evaluate values).violations = []) :=
  ⟨evaluate_violations_ascending contract values,
    fun _ => mem_evaluate_violations_iff_objects built,
    fun _ _ set => evaluate_violations_of_key built set,
    List.isEmpty_iff⟩

/-! ## A contract of both kinds of clause -/

/-- The environment must be `prod` and is denied that, the address must not be a local one, and the
region is allowed to be a text with a star. -/
def mixedContract : Contract :=
  { name := "prod"
    allow := .ofList [("db.env", .allow ["prod"]), ("region", .allow ["eu-*"])]
    deny := .ofList
      [("db.env", .deny ["prod"]), ("db.url", .deny ["localhost", "*localhost*", "*:5432*"])] }

/-- Values each of which is a violation. -/
def mixedValues : SortedMap String :=
  .ofList
    [("db.env", "prod"), ("db.url", "postgres://localhost:5432/app"), ("region", "eu-west-1")]

/-- What is allowed and denied is denied, the second of three entries is the first to match, and a
star in an allow clause matches a star only. -/
theorem mixedContract_objects :
    mixedContract.Built ∧ mixedContract.Denies "db.env" "prod" ∧
      mixedContract.Objects "db.url" "postgres://localhost:5432/app"
        ⟨"db.url", "postgres://localhost:5432/app", .deny,
          ["localhost", "*localhost*", "*:5432*"], some "*localhost*"⟩ ∧
      ¬mixedContract.Denies "region" "eu-west-1" ∧
      mixedContract.Excludes "region" "eu-west-1" := by
  have built : mixedContract.Built := by
    have allow : ∀ entry ∈ mixedContract.allow.entries, entry.2 = .allow entry.2.values := by
      decide
    have deny : ∀ entry ∈ mixedContract.deny.entries, entry.2 = .deny entry.2.values := by
      decide
    exact ⟨fun found => allow _ (SortedMap.get?_eq_some_iff.mp found),
      fun found => deny _ (SortedMap.get?_eq_some_iff.mp found)⟩
  obtain ⟨-, objects, ofKey, -⟩ := evaluate_violations_iff_objects built mixedValues
  have denied := (ofKey "db.env" "prod" (by decide)).1.mp (by decide)
  have excluded := (ofKey "region" "eu-west-1" (by decide)).2.mp (by decide)
  obtain ⟨value, set, matched⟩ := (objects ⟨"db.url", "postgres://localhost:5432/app", .deny,
    ["localhost", "*localhost*", "*:5432*"], some "*localhost*"⟩).mp (by decide)
  obtain rfl : "postgres://localhost:5432/app" = value := Option.some.inj set
  exact ⟨built, denied, matched, excluded⟩

end Contract

end ConfigGate
