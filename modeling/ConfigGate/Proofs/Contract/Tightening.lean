import ConfigGate.Proofs.Contract.Violations

/-!
# Tighter contracts

A contract is tightened by denying more entries, by allowing fewer values, and by clauses for more
keys. This may change how entries are compared, for one wildcard makes patterns of all entries of a
deny clause, and it may change which clause objects to a value. Still every value that was refused
is refused, and a value that was denied is denied.

Results:
1. `Tightens.denies`, `Tightens.excludes`: what the looser contract does not permit, the tighter one
   does not permit for the same reason;
2. `evaluate_violations_of_tightens`: of the same values, every key that violates the looser
   contract violates the tighter one.
-/

namespace ConfigGate

namespace Contract

/-- `tighter.Tightens looser`: every entry that the looser contract denies is denied for the same
key, and where it has an allow clause the tighter one has one that allows no other values. -/
structure Tightens (tighter looser : Contract) : Prop where
  deny : ∀ {key clause}, looser.deny.get? key = some clause → ∀ entry ∈ clause.values,
    ∃ other, tighter.deny.get? key = some other ∧ entry ∈ other.values
  allow : ∀ {key clause}, looser.allow.get? key = some clause →
    ∃ other, tighter.allow.get? key = some other ∧ ∀ value ∈ other.values, value ∈ clause.values

variable {looser tighter : Contract} {key value : String}

theorem Tightens.denies (tightens : tighter.Tightens looser) (denies : looser.Denies key value) :
    tighter.Denies key value := by
  obtain ⟨clause, found, entry, member, whole⟩ := denies
  obtain ⟨other, otherFound, otherMember⟩ := tightens.deny found entry member
  exact ⟨other, otherFound, entry, otherMember, whole⟩

theorem Tightens.excludes (tightens : tighter.Tightens looser)
    (excludes : looser.Excludes key value) : tighter.Excludes key value := by
  obtain ⟨clause, found, unlisted⟩ := excludes
  obtain ⟨other, otherFound, fewer⟩ := tightens.allow found
  exact ⟨other, otherFound, fun listed => unlisted (fewer value listed)⟩

/-- A contract objects to nothing but what it does not permit. -/
theorem Objects.refused {contract : Contract} {violation : Violation}
    (objects : contract.Objects key value violation) :
    contract.Denies key value ∨ contract.Excludes key value := by
  cases clause : violation.clause with
  | deny => exact .inl (objects.deny_iff.mp clause)
  | allow => exact .inr (objects.allow_iff.mp clause).2

/-- Where the looser contract objects to a value, so does the tighter one, and to a denied value as
denied. -/
theorem Tightens.exists_objects (tightens : tighter.Tightens looser) (built : tighter.Built)
    {violation : Violation} (objects : looser.Objects key value violation) :
    ∃ other, tighter.Objects key value other ∧
      (violation.clause = .deny → other.clause = .deny) := by
  have refused : tighter.Denies key value ∨ tighter.Excludes key value :=
    objects.refused.imp tightens.denies tightens.excludes
  obtain ⟨other, objected⟩ := Contract.exists_objects built refused
  refine ⟨other, objected, fun deny => ?_⟩
  exact objected.deny_iff.mpr (tightens.denies (objects.deny_iff.mp deny))

/-- Every key that violates the looser contract violates the tighter one, denied values as denied;
values that the tighter contract passes are passed by the looser one. -/
theorem evaluate_violations_of_tightens (looserBuilt : looser.Built) (tighterBuilt : tighter.Built)
    (tightens : tighter.Tightens looser) (values : SortedMap String) :
    (∀ violation ∈ (looser.evaluate values).violations,
        ∃ other ∈ (tighter.evaluate values).violations,
          other.key = violation.key ∧ (violation.clause = .deny → other.clause = .deny)) ∧
      ((tighter.evaluate values).passed = true → (looser.evaluate values).passed = true) := by
  have violates : ∀ violation ∈ (looser.evaluate values).violations,
      ∃ other ∈ (tighter.evaluate values).violations,
        other.key = violation.key ∧ (violation.clause = .deny → other.clause = .deny) := by
    intro violation member
    obtain ⟨value, set, objects⟩ := (mem_evaluate_violations_iff_objects looserBuilt).mp member
    obtain ⟨other, objected, deny⟩ := tightens.exists_objects tighterBuilt objects
    have same := objected.key_eq
    rw [← same] at set objected
    exact ⟨other, (mem_evaluate_violations_iff_objects tighterBuilt).mpr ⟨value, set, objected⟩,
      same, deny⟩
  refine ⟨violates, fun passed => ?_⟩
  have none : (tighter.evaluate values).violations = [] := List.isEmpty_iff.mp passed
  refine List.isEmpty_iff.mpr (List.eq_nil_iff_forall_not_mem.mpr fun violation member => ?_)
  obtain ⟨other, otherMember, -⟩ := violates violation member
  exact absurd (none ▸ otherMember) List.not_mem_nil

/-! ## A contract and a tighter one -/

/-- A contract is built if each of its entries is. -/
theorem Built.of_entries {contract : Contract}
    (allow : ∀ entry ∈ contract.allow.entries, entry.2 = .allow entry.2.values)
    (deny : ∀ entry ∈ contract.deny.entries, entry.2 = .deny entry.2.values) : contract.Built :=
  ⟨fun found => allow _ (SortedMap.get?_eq_some_iff.mp found),
    fun found => deny _ (SortedMap.get?_eq_some_iff.mp found)⟩

/-- One address is denied, and two regions are allowed. -/
def regionContract : Contract :=
  { name := "prod"
    allow := .ofList [("region", .allow ["eu", "us"])]
    deny := .ofList [("db.url", .deny ["localhost"])] }

/-- More addresses are denied, by patterns before and after the one; of the regions one is left,
others are denied by their first letter, and the level of the log is free no more. -/
def strictRegionContract : Contract :=
  { name := "prod"
    allow := .ofList [("log.level", .allow ["info"]), ("region", .allow ["eu"])]
    deny := .ofList
      [("db.url", .deny ["*127.0.0.1*", "localhost", "*.local"]), ("region", .deny ["a*"])] }

theorem strictRegionContract_tightens : strictRegionContract.Tightens regionContract := by
  constructor
  case deny =>
    intro key clause found entry member
    obtain ⟨rfl, rfl⟩ := Prod.mk.inj (List.mem_singleton.mp (SortedMap.get?_eq_some_iff.mp found))
    obtain rfl := List.mem_singleton.mp member
    exact ⟨.deny ["*127.0.0.1*", "localhost", "*.local"], by decide, by decide⟩
  case allow =>
    intro key clause found
    obtain ⟨rfl, rfl⟩ := Prod.mk.inj (List.mem_singleton.mp (SortedMap.get?_eq_some_iff.mp found))
    exact ⟨.allow ["eu"], by decide, by decide⟩

/-- A denied address and a region that is not allowed. -/
def asiaValues : SortedMap String := .ofList [("db.url", "localhost"), ("region", "asia")]

/-- Of the two violations, the address is now one of several patterns, and the region is denied
where it was not allowed. -/
theorem regionContract_tightened :
    regionContract.Built ∧ strictRegionContract.Built ∧
      strictRegionContract.Tightens regionContract ∧
      (regionContract.evaluate asiaValues).violations.map (fun violation =>
        (violation.key, violation.clause)) = [("db.url", .deny), ("region", .allow)] ∧
      ∀ violation ∈ (regionContract.evaluate asiaValues).violations,
        ∃ other ∈ (strictRegionContract.evaluate asiaValues).violations,
          other.key = violation.key ∧ (violation.clause = .deny → other.clause = .deny) := by
  have looserBuilt : regionContract.Built := .of_entries (by decide) (by decide)
  have tighterBuilt : strictRegionContract.Built := .of_entries (by decide) (by decide)
  have tightens := strictRegionContract_tightens
  obtain ⟨violates, -⟩ :=
    evaluate_violations_of_tightens looserBuilt tighterBuilt tightens asiaValues
  exact ⟨looserBuilt, tighterBuilt, tightens, by decide, violates⟩

end Contract

end ConfigGate
