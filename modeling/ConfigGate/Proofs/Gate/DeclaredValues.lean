import ConfigGate.Proofs.Gate.Identity
import ConfigGate.Proofs.Gate.Verdict
import ConfigGate.Proofs.Schema.Loading
import Mathlib.Data.Fintype.EquivFin

/-!
# Values that are declared but not enforced

The check of declared values looks at the kind of a key, and the loader lets a key of kind string
list values. A loaded schema keeps to the rule that only keys of kind enum list values, and a run
finds every value outside the listed ones, exactly when its document lists values under keys of kind
enum only.

Results:
1. `exists_enum_finding_iff`: which keys an untruncated run finds undeclared values of;
2. `enforcesValues_iff`: when a schema has every list of values enforced;
3. `listsEnums_and_enforces_iff`: both hold of a loaded schema exactly when its document is typed;
4. `levelSchema_unenforced`: a document that loads, and of which neither holds.
-/

namespace ConfigGate

/-- In the document only keys of kind enum list values. -/
def Document.TypesValues (document : Document) : Prop :=
  ∀ key decl, document.config.get? key = some decl → decl.values ≠ [] → decl.kind = .enum

namespace Gate

variable {schema : Schema} {context : Context} {policy : Policy}

theorem mem_findings_iff_of_whole
    (whole : (evaluate schema context policy).data.truncatedReason = none) {finding : Finding} :
    finding ∈ (evaluate schema context policy).findings ↔
      Finds schema context policy finding := by
  rw [findings_of_whole whole, Finding.mem_sort, mem_allFindings_iff]

/-- A run that truncates nothing has a finding of this check about a key exactly when the key is of
kind enum and has a value that it does not list. -/
theorem exists_enum_finding_iff
    (on : ∃ severity, policy.severity? Check.enumValue.id = some severity)
    (whole : (evaluate schema context policy).data.truncatedReason = none) (key : String) :
    (∃ finding ∈ (evaluate schema context policy).findings,
        finding.checkId = Check.enumValue.id ∧ finding.subject? = some key) ↔
      ∃ decl value, schema.config.get? key = some decl ∧ decl.kind = .enum ∧
        context.values.get? key = some value ∧ value ∉ decl.values := by
  simp only [mem_findings_iff_of_whole whole]
  constructor
  · rintro ⟨finding, finds, ofCheck, about⟩
    cases finds with
    | missing _ _ _ _ =>
        have other : Check.required.id ≠ Check.enumValue.id := by decide
        exact absurd ofCheck other
    | broken _ _ _ =>
        have other : Check.invariantRule.id ≠ Check.enumValue.id := by decide
        exact absurd ofCheck other
    | @violated _ _ _ violation _ _ _ _ _ =>
        have other : (Check.ofClause violation.clause).id ≠ Check.enumValue.id := by
          cases violation.clause <;> decide
        exact absurd ofCheck other
    | @undeclared shown value decl severity _ declared enum set unlisted =>
        rw [(undeclaredFinding_identified severity shown value decl).subject?_eq] at about
        obtain rfl := Option.some.inj about
        exact ⟨decl, value, declared, enum, set, unlisted⟩
  · rintro ⟨decl, value, declared, enum, set, unlisted⟩
    obtain ⟨severity, on⟩ := on
    have identified := undeclaredFinding_identified severity key value decl
    exact ⟨_, .undeclared on declared enum set unlisted, identified.checkId, identified.subject?_eq⟩

end Gate

namespace Schema

/-- A key lists values exactly when it is of kind enum. -/
def ListsEnums (schema : Schema) : Prop :=
  ∀ key decl, schema.config.get? key = some decl → (decl.values ≠ [] ↔ decl.kind = .enum)

/-- Whatever the context and the policy, if the check of declared values runs and nothing is
truncated, there is a finding of it about every key that lists values and has another one. -/
def EnforcesValues (schema : Schema) : Prop :=
  ∀ (context : Context) (policy : Policy),
    (∃ severity, policy.severity? Check.enumValue.id = some severity) →
    (Gate.evaluate schema context policy).data.truncatedReason = none →
    ∀ key decl value, schema.config.get? key = some decl → decl.values ≠ [] →
      context.values.get? key = some value → value ∉ decl.values →
      ∃ finding ∈ (Gate.evaluate schema context policy).findings,
        finding.checkId = Check.enumValue.id ∧ finding.subject? = some key

/-- The policy that runs the check of declared values only. -/
def enumPolicy (maxFindings : Nat) : Policy :=
  { profile := "strict"
    failOn := .error
    maxFindings
    environment := none
    checks := .ofList [(Check.enumValue.id, ⟨true, .error⟩)] }

/-- A policy that runs the check can have room for whatever is found. -/
theorem exists_whole (schema : Schema) (context : Context) :
    ∃ maxFindings,
      (Gate.evaluate schema context (enumPolicy maxFindings)).data.truncatedReason = none := by
  refine ⟨(Gate.allFindings schema context (enumPolicy 0)).length, ?_⟩
  exact Gate.truncatedReason_eq_none_iff.mpr (Nat.le_refl _)

/-- Lists of values are enforced exactly when only keys of kind enum have them. -/
theorem enforcesValues_iff {schema : Schema} :
    schema.EnforcesValues ↔
      ∀ key decl, schema.config.get? key = some decl → decl.values ≠ [] → decl.kind = .enum := by
  constructor
  · intro enforces key decl declared listed
    -- Whatever the key lists, there is a value besides, and the run that reads it must find it.
    obtain ⟨value, unlisted⟩ := Infinite.exists_notMem_finset decl.values.toFinset
    rw [List.mem_toFinset] at unlisted
    obtain ⟨maxFindings, whole⟩ := exists_whole schema ⟨.ofList [(key, value)], ""⟩
    have on : ∃ severity,
        (enumPolicy maxFindings).severity? Check.enumValue.id = some severity := ⟨.error, rfl⟩
    have set : (SortedMap.ofList [(key, value)]).get? key = some value := by simp
    have found := enforces _ _ on whole key decl value declared listed set unlisted
    obtain ⟨other, _, otherDeclared, enum, -⟩ := (Gate.exists_enum_finding_iff on whole key).mp found
    rwa [← Option.some.inj (declared.symm.trans otherDeclared)] at enum
  · intro typed context policy on whole key decl value declared listed set unlisted
    exact (Gate.exists_enum_finding_iff on whole key).mpr
      ⟨decl, value, declared, typed key decl declared listed, set, unlisted⟩

variable {document : Document} {schema : Schema}

/-- The loader makes sure that keys of kind enum list values, and of no other key that it does
not. -/
theorem LoadedFrom.listsEnums_iff (loaded : schema.LoadedFrom document) :
    schema.ListsEnums ↔ document.TypesValues := by
  rw [ListsEnums, Document.TypesValues, loaded.config]
  constructor
  · intro lists key decl declared
    exact (lists key decl declared).mp
  · intro typed key decl declared
    have member := SortedMap.get?_eq_some_iff.mp (loaded.config ▸ declared)
    exact ⟨typed key decl declared, (loaded.keys (key, decl) member).inhabited⟩

/-- In a loaded schema the keys that list values are those of kind enum, and all lists of values are
enforced, exactly when the document lists values under keys of kind enum only. -/
theorem listsEnums_and_enforces_iff (loads : ofDocument document = .ok schema) :
    (schema.ListsEnums ↔ document.TypesValues) ∧
      (schema.EnforcesValues ↔ document.TypesValues) := by
  have loaded := ofDocument_eq_ok_iff.mp loads
  refine ⟨loaded.listsEnums_iff, ?_⟩
  rw [enforcesValues_iff, Document.TypesValues, loaded.config]

/-! ## A list of values without a kind -/

/-- The level of the log has a list of values, and whether it is of kind enum is left to say. -/
def levelDocument (kind : KeyKind) : Document :=
  { config := .ofList
      [("db.url", ⟨.string, true, []⟩), ("log.level", ⟨kind, false, ["info", "warn"]⟩)]
    invariants := []
    environments := .empty }

/-- The schema of the document. -/
def levelSchema (kind : KeyKind) : Schema := ⟨(levelDocument kind).config, [], .empty⟩

theorem levelDocument_loads (kind : KeyKind) :
    ofDocument (levelDocument kind) = .ok (levelSchema kind) := by
  refine ofDocument_eq_ok_iff.mpr ⟨rfl, rfl, rfl, ?_, nofun, .nil, nofun⟩
  simp only [← keyFault?_eq_none_iff]
  cases kind <;> decide

/-- Of kind enum, the list of the key is enforced. -/
theorem levelSchema_enforced :
    ofDocument (levelDocument .enum) = .ok (levelSchema .enum) ∧
      (levelDocument .enum).TypesValues ∧ (levelSchema .enum).ListsEnums ∧
      (levelSchema .enum).EnforcesValues := by
  have loads := levelDocument_loads .enum
  obtain ⟨lists, enforces⟩ := listsEnums_and_enforces_iff loads
  have typed : (levelDocument .enum).TypesValues := by
    intro key decl declared listed
    have all : ∀ entry ∈ (levelDocument .enum).config.entries,
        entry.2.values ≠ [] → entry.2.kind = .enum := by decide
    exact all (key, decl) (SortedMap.get?_eq_some_iff.mp declared) listed
  exact ⟨loads, typed, lists.mpr typed, enforces.mpr typed⟩

/-- A level that is not listed. -/
def debugContext : Context := ⟨.ofList [("log.level", "debug")], "prod"⟩

/-- Of kind string, which is what a key is when nothing is said, the key keeps its list, and a value
outside it goes unnoticed. -/
theorem levelSchema_unenforced :
    ofDocument (levelDocument .string) = .ok (levelSchema .string) ∧
      (levelSchema .string).config.get? "log.level" = some ⟨.string, false, ["info", "warn"]⟩ ∧
      (Gate.evaluate (levelSchema .string) debugContext (enumPolicy 200)).data.truncatedReason =
        none ∧
      (Gate.evaluate (levelSchema .string) debugContext (enumPolicy 200)).findings = [] ∧
      ¬(levelSchema .string).ListsEnums ∧ ¬(levelSchema .string).EnforcesValues := by
  have declared : (levelSchema .string).config.get? "log.level" =
      some ⟨.string, false, ["info", "warn"]⟩ := by decide
  have none : Gate.allFindings (levelSchema .string) debugContext (enumPolicy 200) = [] := rfl
  refine ⟨levelDocument_loads .string, declared, ?_, ?_, fun lists => ?_, fun enforces => ?_⟩
  · exact Gate.truncatedReason_eq_none_iff.mpr (none ▸ Nat.zero_le _)
  · show (Finding.sort (Gate.allFindings _ _ _)).take _ = []
    rw [none, Finding.sort, List.mergeSort_nil, List.take_nil]
  · exact absurd ((lists _ _ declared).mp (by decide)) (by decide)
  · exact absurd (enforcesValues_iff.mp enforces _ _ declared (by decide)) (by decide)

end Schema

end ConfigGate
