import ConfigGate.Proofs.Contract
import ConfigGate.Proofs.Rule.References
import ConfigGate.Schema.Document

/-!
# Documents that load

A document loads exactly when nothing in it is at fault, and then the schema is determined:
`ofDocument_eq_ok_iff`. `LoadedFrom` collects what a loaded schema is known to satisfy, so that what
comes after loading never looks at the loader again.
-/

namespace ConfigGate

/-! ## What loading makes sure of -/

/-- A key that rules can refer to, with a declaration that some value meets. -/
structure KeyDecl.Declarable (key : String) (decl : KeyDecl) : Prop where
  path : Text.isDottedPath key = true
  notReserved : key ≠ Rule.executionPath
  inhabited : decl.kind = .enum → decl.values ≠ []

/-- The entry that an invariant was read from. -/
def Invariant.entry (invariant : Invariant) : InvariantEntry := ⟨invariant.name, invariant.rule⟩

/-- An invariant whose expression is that of its rule text and refers to declared keys only. -/
structure Invariant.Loaded (declared : String → Bool) (invariant : Invariant) : Prop where
  name : Text.isPlainName invariant.name = true
  rule : Rule.parse invariant.rule = .ok invariant.expr
  refs : ∀ path ∈ invariant.expr.refs, declared path = true

/-- The schema that a document loads as. -/
structure Schema.LoadedFrom (document : Document) (schema : Schema) : Prop where
  config : schema.config = document.config
  invariants : schema.invariants.map Invariant.entry = document.invariants
  environments : schema.environments = document.environments.mapValues fun name entry =>
    entry.toContract name
  keys : ∀ entry ∈ schema.config.entries, KeyDecl.Declarable entry.1 entry.2
  rules : ∀ invariant ∈ schema.invariants, invariant.Loaded schema.declares
  names : (schema.invariants.map (·.name)).Nodup
  clauses : ∀ entry ∈ schema.environments.entries, ∀ key ∈ entry.2.keys,
    schema.declares key = true

/-! ## The parts of the loader -/

theorem keyFault?_eq_none_iff {key : String} {decl : KeyDecl} :
    keyFault? key decl = none ↔ KeyDecl.Declarable key decl := by
  unfold keyFault?
  split
  · rename_i invalid
    exact ⟨nofun, fun declarable => by simp [declarable.path] at invalid⟩
  · rename_i path
    split
    · rename_i reserved
      exact ⟨nofun, fun declarable => absurd reserved declarable.notReserved⟩
    · rename_i notReserved
      split
      · rename_i vacant
        rw [Bool.and_eq_true, decide_eq_true_eq, List.isEmpty_iff] at vacant
        exact ⟨nofun, fun declarable => absurd vacant.2 (declarable.inhabited vacant.1)⟩
      · rename_i inhabited
        refine ⟨fun _ => ⟨by simpa using path, notReserved, fun enum none => ?_⟩, fun _ => rfl⟩
        exact inhabited (by simp [enum, none])

theorem contractFault?_eq_none_iff {declared : String → Bool} {contract : Contract} :
    contractFault? declared contract = none ↔ ∀ key ∈ contract.keys, declared key = true := by
  simp [contractFault?]

/-- Reading entries gives one invariant per entry, each with the expression of its rule, under
names that differ from each other and from those already seen. -/
theorem loadInvariants_eq_ok_iff {declared : String → Bool} {seen : List String}
    {entries : List InvariantEntry} {invariants : List Invariant} :
    loadInvariants declared seen entries = .ok invariants ↔
      invariants.map Invariant.entry = entries ∧
        (∀ invariant ∈ invariants, invariant.Loaded declared) ∧
        (invariants.map (·.name)).Nodup ∧ ∀ invariant ∈ invariants, invariant.name ∉ seen := by
  constructor
  · intro load
    fun_induction loadInvariants declared seen entries generalizing invariants with
    | case1 => cases load; simp
    | case2 => exact absurd load (by simp)
    | case3 => exact absurd load (by simp)
    | case4 => exact absurd load (by simp)
    | case5 => exact absurd load (by simp)
    | case6 seen entry rest plain fresh expr read others step ih =>
        -- The names behind this one were told apart from it by being told apart from what is seen.
        cases load
        obtain ⟨entries, rules, distinct, unseen⟩ := ih step
        obtain ⟨parsed, refs⟩ := Rule.parseKnown_eq_ok_iff.mp read
        have apart : ∀ invariant ∈ others, invariant.name ≠ entry.name := fun invariant member =>
          List.ne_of_not_mem_cons (unseen invariant member)
        refine ⟨by rw [List.map_cons, entries]; rfl, ?_, ?_, ?_⟩
        · rintro invariant (_ | ⟨_, member⟩)
          · exact ⟨by simpa using plain, parsed, refs⟩
          · exact rules invariant member
        · rw [List.map_cons, List.nodup_cons, List.mem_map]
          refine ⟨?_, distinct⟩
          rintro ⟨invariant, member, same⟩
          exact apart invariant member same
        · rintro invariant (_ | ⟨_, member⟩)
          · simpa using fresh
          · exact List.not_mem_of_not_mem_cons (unseen invariant member)
  · rintro ⟨rfl, rules, distinct, unseen⟩
    induction invariants generalizing seen with
    | nil => rfl
    | cons invariant others ih =>
        obtain ⟨apart, distinct⟩ := List.nodup_cons.mp distinct
        obtain ⟨plain, parsed, refs⟩ := rules invariant (by simp)
        have read := Rule.parseKnown_eq_ok_iff.mpr ⟨parsed, refs⟩
        have fresh : invariant.name ∉ seen := unseen invariant (by simp)
        have unseen : ∀ other ∈ others, other.name ∉ invariant.name :: seen :=
          fun other member => List.not_mem_cons_of_ne_of_not_mem
            (fun same => apart (List.mem_map.mpr ⟨other, member, same⟩))
            (unseen other (by simp [member]))
        have step := ih (fun other member => rules other (by simp [member])) distinct unseen
        simp [loadInvariants, Invariant.entry, plain, fresh, read, step]

namespace Schema

/-- A document loads as a schema exactly when nothing in it is at fault and the schema is the one
it describes. -/
theorem ofDocument_eq_ok_iff {document : Document} {schema : Schema} :
    ofDocument document = .ok schema ↔ schema.LoadedFrom document := by
  unfold ofDocument
  constructor
  · intro load
    split at load
    · exact absurd load (by simp)
    · rename_i keys
      simp only at load
      split at load
      · exact absurd load (by simp)
      · rename_i invariants step
        split at load
        · exact absurd load (by simp)
        · rename_i clauses
          cases load
          obtain ⟨entries, rules, names, -⟩ := loadInvariants_eq_ok_iff.mp step
          rw [List.findSome?_eq_none_iff] at keys clauses
          refine ⟨rfl, entries, rfl, fun entry member => ?_, rules, names, fun entry member => ?_⟩
          · exact keyFault?_eq_none_iff.mp (keys entry member)
          · exact contractFault?_eq_none_iff.mp (clauses entry member)
  · obtain ⟨config, invariants, environments⟩ := schema
    rintro ⟨rfl, entries, rfl, keys, rules, names, clauses⟩
    have noKeyFault : (document.config.entries.findSome? fun entry => keyFault? entry.1 entry.2) =
        none :=
      List.findSome?_eq_none_iff.mpr fun entry member =>
        keyFault?_eq_none_iff.mpr (keys entry member)
    have step : loadInvariants document.config.contains [] document.invariants = .ok invariants :=
      loadInvariants_eq_ok_iff.mpr ⟨entries, rules, names, fun _ _ => List.not_mem_nil⟩
    have noClauseFault : ((document.environments.mapValues fun name entry =>
        entry.toContract name).entries.findSome? fun entry =>
          contractFault? document.config.contains entry.2) = none :=
      List.findSome?_eq_none_iff.mpr fun entry member =>
        contractFault?_eq_none_iff.mpr (clauses entry member)
    simp only [noKeyFault, step, noClauseFault]

/-! ## What comes after loading -/

variable {document : Document} {schema : Schema}

/-- A loaded contract bears the name of its environment and has built clauses. -/
theorem LoadedFrom.contract_built (loaded : schema.LoadedFrom document) {environment : String}
    {contract : Contract} (found : schema.contract? environment = some contract) :
    contract.name = environment ∧ contract.Built := by
  rw [contract?, loaded.environments, SortedMap.get?_mapValues, Option.map_eq_some_iff] at found
  obtain ⟨entry, -, rfl⟩ := found
  refine ⟨rfl, ⟨fun found => ?_, fun found => ?_⟩⟩
  · rw [ContractEntry.toContract, SortedMap.get?_mapValues, Option.map_eq_some_iff] at found
    obtain ⟨values, -, rfl⟩ := found
    rfl
  · rw [ContractEntry.toContract, SortedMap.get?_mapValues, Option.map_eq_some_iff] at found
    obtain ⟨values, -, rfl⟩ := found
    rfl

theorem LoadedFrom.contract_declared (loaded : schema.LoadedFrom document) {environment : String}
    {contract : Contract} (found : schema.contract? environment = some contract) {key : String}
    (member : key ∈ contract.keys) : schema.declares key = true :=
  loaded.clauses (environment, contract) (SortedMap.get?_eq_some_iff.mp found) key member

end Schema

end ConfigGate
