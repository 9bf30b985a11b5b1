import ConfigGate.Contract
import ConfigGate.Proofs.Wildcard

/-!
# What contracts permit

`Denies` and `Excludes` say which values a contract does not permit, without the order in which
clauses and entries are tried. A contract with clauses as they are built from lists of values gives
a violation for exactly these values: `violation?_eq_none_iff`.
-/

namespace ConfigGate

namespace Clause

/-- Whether patterns or exact values are compared, an entry of a built deny clause matches what it
matches as a pattern. -/
theorem deny_entry_iff {values : List String} {entry : String} (value : String)
    (member : entry ∈ values) :
    (if (deny values).isGlob then Wildcard.isMatch entry value else entry == value) = true ↔
      Wildcard.Matches entry.toList value.toList := by
  split
  · exact Wildcard.matchChars_eq_true_iff
  · rename_i exact
    have plain : Wildcard.hasWildcard entry = false := by
      cases wild : Wildcard.hasWildcard entry with
      | false => rfl
      | true => exact absurd (List.any_eq_true.mpr ⟨entry, member, wild⟩) exact
    rw [beq_iff_eq, Wildcard.matches_iff_of_not_hasWildcard plain, eq_comm]

theorem deny_firstMatch?_eq_none_iff {values : List String} {value : String} :
    (deny values).firstMatch? value = none ↔
      ¬∃ entry ∈ values, Wildcard.Matches entry.toList value.toList := by
  unfold firstMatch?
  rw [List.find?_eq_none]
  constructor
  · rintro unmatched ⟨entry, member, whole⟩
    exact unmatched entry member ((deny_entry_iff value member).mpr whole)
  · intro unmatched entry member found
    exact unmatched ⟨entry, member, (deny_entry_iff value member).mp found⟩

end Clause

namespace Contract

/-- Some entry of the deny clause of the key matches the value. -/
def Denies (contract : Contract) (key value : String) : Prop :=
  ∃ clause, contract.deny.get? key = some clause ∧
    ∃ entry ∈ clause.values, Wildcard.Matches entry.toList value.toList

/-- The key has an allow clause and the value is not in it. -/
def Excludes (contract : Contract) (key value : String) : Prop :=
  ∃ clause, contract.allow.get? key = some clause ∧ value ∉ clause.values

/-- Every clause is built from a list of values. -/
structure Built (contract : Contract) : Prop where
  allow : ∀ {key clause}, contract.allow.get? key = some clause → clause = .allow clause.values
  deny : ∀ {key clause}, contract.deny.get? key = some clause → clause = .deny clause.values

/-- The keys of a contract are those with a clause of either kind. -/
theorem mem_keys_iff {contract : Contract} {key : String} :
    key ∈ contract.keys ↔
      contract.allow.contains key = true ∨ contract.deny.contains key = true := by
  rw [keys, List.mem_append, List.mem_filter, SortedMap.mem_keys_iff, SortedMap.mem_keys_iff,
    Bool.not_eq_true']
  cases contract.allow.contains key <;> simp

theorem Denies.mem_keys {contract : Contract} {key value : String}
    (denies : contract.Denies key value) : key ∈ contract.keys := by
  obtain ⟨clause, found, -⟩ := denies
  exact mem_keys_iff.mpr (.inr (SortedMap.contains_eq_true_iff.mpr ⟨clause, found⟩))

theorem Excludes.mem_keys {contract : Contract} {key value : String}
    (excludes : contract.Excludes key value) : key ∈ contract.keys := by
  obtain ⟨clause, found, -⟩ := excludes
  exact mem_keys_iff.mpr (.inl (SortedMap.contains_eq_true_iff.mpr ⟨clause, found⟩))

theorem excludes_iff {contract : Contract} {key : String} {clause : Clause} (value : String)
    (found : contract.allow.get? key = some clause) :
    contract.Excludes key value ↔ value ∉ clause.values := by
  simp only [Excludes, found, Option.some.injEq, exists_eq_left']

theorem denies_iff {contract : Contract} {key : String} {clause : Clause} (value : String)
    (found : contract.deny.get? key = some clause) :
    contract.Denies key value ↔
      ∃ entry ∈ clause.values, Wildcard.Matches entry.toList value.toList := by
  simp only [Denies, found, Option.some.injEq, exists_eq_left']

theorem allowViolation?_eq_none_iff {contract : Contract} {key value : String} :
    contract.allowViolation? key value = none ↔ ¬contract.Excludes key value := by
  unfold allowViolation?
  split
  · rename_i free
    refine ⟨?_, fun _ => rfl⟩
    rintro - ⟨clause, found, -⟩
    exact absurd (free.symm.trans found) (by simp)
  · rename_i clause found
    rw [excludes_iff value found, Decidable.not_not, ← List.contains_iff_mem]
    split
    · rename_i listed
      exact ⟨fun _ => listed, fun _ => rfl⟩
    · rename_i unlisted
      exact ⟨nofun, fun listed => absurd listed unlisted⟩

theorem denyViolation?_eq_none_iff {contract : Contract} (built : contract.Built)
    {key value : String} :
    contract.denyViolation? key value = none ↔ ¬contract.Denies key value := by
  unfold denyViolation?
  split
  · rename_i free
    refine ⟨?_, fun _ => rfl⟩
    rintro - ⟨clause, found, -⟩
    exact absurd (free.symm.trans found) (by simp)
  · rename_i clause found
    rw [denies_iff value found, ← Clause.deny_firstMatch?_eq_none_iff, ← built.deny found]
    split
    · rename_i none
      exact ⟨fun _ => none, fun _ => rfl⟩
    · rename_i entry some
      exact ⟨nofun, fun none => absurd (none.symm.trans some) (by simp)⟩

/-- A value is a violation exactly when it is denied or not among those allowed. -/
theorem violation?_eq_none_iff {contract : Contract} (built : contract.Built)
    {key value : String} :
    contract.violation? key value = none ↔
      ¬contract.Denies key value ∧ ¬contract.Excludes key value := by
  rw [violation?, Option.or_eq_none_iff, denyViolation?_eq_none_iff built,
    allowViolation?_eq_none_iff]

theorem mem_evaluate_violations_iff {contract : Contract} {values : SortedMap String}
    {violation : Violation} :
    violation ∈ (contract.evaluate values).violations ↔
      ∃ key value, values.get? key = some value ∧
        contract.violation? key value = some violation := by
  simp only [evaluate, List.mem_filterMap, SortedMap.get?_eq_some_iff, Prod.exists]

theorem denyViolation?_eq_some_iff {contract : Contract} {key value : String}
    {violation : Violation} :
    contract.denyViolation? key value = some violation ↔
      ∃ clause entry, contract.deny.get? key = some clause ∧
        clause.firstMatch? value = some entry ∧
        violation = ⟨key, value, .deny, clause.values, some entry⟩ := by
  unfold denyViolation?
  constructor
  · intro made
    split at made
    · exact absurd made (by simp)
    · rename_i clause found
      split at made
      · exact absurd made (by simp)
      · rename_i entry first
        exact ⟨clause, entry, found, first, (Option.some.inj made).symm⟩
  · rintro ⟨clause, entry, found, first, rfl⟩
    simp only [found, first]

theorem allowViolation?_eq_some_iff {contract : Contract} {key value : String}
    {violation : Violation} :
    contract.allowViolation? key value = some violation ↔
      ∃ clause, contract.allow.get? key = some clause ∧ value ∉ clause.values ∧
        violation = ⟨key, value, .allow, clause.values, none⟩ := by
  unfold allowViolation?
  constructor
  · intro made
    split at made
    · exact absurd made (by simp)
    · rename_i clause found
      split at made
      · exact absurd made (by simp)
      · rename_i unlisted
        exact ⟨clause, found, fun listed => unlisted (List.contains_iff_mem.mpr listed),
          (Option.some.inj made).symm⟩
  · rintro ⟨clause, found, unlisted, rfl⟩
    have notContained : ¬clause.values.contains value = true :=
      fun contained => unlisted (List.contains_iff_mem.mp contained)
    simp only [found, if_neg notContained]

theorem key_eq_of_violation? {contract : Contract} {key value : String} {violation : Violation}
    (found : contract.violation? key value = some violation) : violation.key = key := by
  rcases Option.or_eq_some_iff.mp found with denied | ⟨-, excluded⟩
  · obtain ⟨clause, entry, -, -, rfl⟩ := denyViolation?_eq_some_iff.mp denied
    rfl
  · obtain ⟨clause, -, -, rfl⟩ := allowViolation?_eq_some_iff.mp excluded
    rfl

/-- What is denied matches a pattern, and what is only not allowed matches none. -/
theorem pattern_isSome_of_violation? {contract : Contract} {key value : String}
    {violation : Violation} (found : contract.violation? key value = some violation) :
    violation.pattern.isSome = true ↔ violation.clause = .deny := by
  rcases Option.or_eq_some_iff.mp found with denied | ⟨-, excluded⟩
  · obtain ⟨clause, entry, -, -, rfl⟩ := denyViolation?_eq_some_iff.mp denied
    exact ⟨fun _ => rfl, fun _ => rfl⟩
  · obtain ⟨clause, -, -, rfl⟩ := allowViolation?_eq_some_iff.mp excluded
    exact ⟨nofun, nofun⟩

/-- Only values of keys with a clause can be violations. -/
theorem mem_keys_of_violation? {contract : Contract} {key value : String} {violation : Violation}
    (found : contract.violation? key value = some violation) : key ∈ contract.keys := by
  rcases Option.or_eq_some_iff.mp found with denied | ⟨-, excluded⟩
  · obtain ⟨clause, entry, deny, -⟩ := denyViolation?_eq_some_iff.mp denied
    exact mem_keys_iff.mpr (.inr (SortedMap.contains_eq_true_iff.mpr ⟨clause, deny⟩))
  · obtain ⟨clause, allow, -⟩ := allowViolation?_eq_some_iff.mp excluded
    exact mem_keys_iff.mpr (.inl (SortedMap.contains_eq_true_iff.mpr ⟨clause, allow⟩))

/-- Values are visited in the order of their keys, and each gives one violation at most. -/
theorem evaluate_violations_ascending (contract : Contract) (values : SortedMap String) :
    (contract.evaluate values).violations.Pairwise fun left right => left.key < right.key := by
  refine List.Pairwise.filterMap _ ?_ values.ascending
  intro left right below first firstFound second secondFound
  rwa [key_eq_of_violation? firstFound, key_eq_of_violation? secondFound]

end Contract

end ConfigGate
