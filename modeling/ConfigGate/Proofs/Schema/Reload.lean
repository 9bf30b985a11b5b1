import ConfigGate.Proofs.Rule.RoundTrip
import ConfigGate.Proofs.Schema.Loading
import ConfigGate.Schema.Yaml

/-!
# Saving a schema and loading it again

Writing a schema checks that its rules refer to declared keys. What loading enforces beyond that is
not checked, so a file may be written that is refused, or that loads as another schema.
`Reloadable` is what a schema must satisfy for its file to load as the schema that was written.

Results:
1. `write_eq_ok_iff`: which schemas are written, and as what;
2. `reloads_iff_reloadable`: which of them load again;
3. `quoteSchema_changed`: a file that loads as another schema.
-/

namespace ConfigGate

/-! ## Contracts -/

/-- Clauses that `build` makes are made again of their values. -/
theorem mapValues_build {build : List String → Clause} {clauses : SortedMap Clause}
    (built : ∀ {key clause}, clauses.get? key = some clause → clause = build clause.values) :
    (clauses.mapValues fun _ clause => ClauseValues.list clause.values).mapValues
      (fun _ values => build values.toList) = clauses := by
  refine SortedMap.ext_get? fun key => ?_
  rw [SortedMap.get?_mapValues, SortedMap.get?_mapValues]
  cases found : clauses.get? key with
  | none => rfl
  | some clause => exact congrArg some (built found).symm

/-- Of a contract with built clauses nothing is lost in its entry. -/
theorem Contract.Built.toContract_contractEntry {contract : Contract} (built : contract.Built) :
    (Schema.contractEntry contract).toContract contract.name = contract := by
  rw [Schema.contractEntry, ContractEntry.toContract, mapValues_build built.allow,
    mapValues_build built.deny]

namespace Schema

variable {schema reloaded : Schema} {text : String}

/-! ## Writing -/

theorem referenceFault?_eq_none_iff {invariant : Invariant} :
    schema.referenceFault? invariant = none ↔
      ∀ path ∈ invariant.expr.refs, schema.declares path = true := by
  unfold referenceFault?
  rw [← Rule.validateRefs_eq_ok_iff]
  split
  · rename_i accepted
    exact ⟨fun _ => accepted, fun _ => rfl⟩
  · rename_i cause refused
    exact ⟨nofun, fun accepted => absurd (refused.symm.trans accepted) (by simp)⟩

theorem toDocument?_eq_ok_iff {document : Document} :
    schema.toDocument? = .ok document ↔
      document = schema.toDocument ∧
        ∀ invariant ∈ schema.invariants, ∀ path ∈ invariant.expr.refs,
          schema.declares path = true := by
  simp only [← referenceFault?_eq_none_iff, ← List.findSome?_eq_none_iff]
  unfold toDocument?
  split
  · rename_i error fault
    exact ⟨nofun, fun ⟨_, clean⟩ => absurd (fault.symm.trans clean) (by simp)⟩
  · rename_i clean
    rw [Except.ok.injEq, eq_comm]
    exact ⟨fun same => ⟨same, clean⟩, And.left⟩

/-- A schema is written exactly when its rules refer to declared keys only. -/
theorem write_eq_ok_iff :
    schema.write = .ok text ↔
      text = schema.toDocument.write ∧
        ∀ invariant ∈ schema.invariants, ∀ path ∈ invariant.expr.refs,
          schema.declares path = true := by
  unfold write
  split
  · rename_i error refused
    refine ⟨nofun, fun ⟨_, refs⟩ => ?_⟩
    exact absurd (refused.symm.trans (toDocument?_eq_ok_iff.mpr ⟨rfl, refs⟩)) (by simp)
  · rename_i document accepted
    obtain ⟨rfl, refs⟩ := toDocument?_eq_ok_iff.mp accepted
    rw [Except.ok.injEq, eq_comm]
    exact ⟨fun same => ⟨same, refs⟩, And.left⟩

/-- A text loads as the document in it does. -/
theorem read_eq_ofDocument {document : Document} (wording : Wording)
    (found : Document.read text = some document) :
    Schema.read wording text = ofDocument document := by
  unfold Schema.read
  rw [found]

/-! ## Loading again -/

/-- A schema that its written form loads as. -/
structure Reloadable (schema : Schema) : Prop where
  keys : ∀ entry ∈ schema.config.entries, KeyDecl.Declarable entry.1 entry.2
  names : ∀ invariant ∈ schema.invariants, Text.isPlainName invariant.name = true
  distinct : (schema.invariants.map (·.name)).Nodup
  rules : ∀ invariant ∈ schema.invariants, invariant.expr.WellFormed
  contracts : ∀ environment contract, schema.contract? environment = some contract →
    contract.name = environment ∧ contract.Built
  clauses : ∀ environment contract, schema.contract? environment = some contract →
    ∀ key ∈ contract.keys, schema.declares key = true

/-- `SameAs schema reloaded`: the schemas agree but for the texts of their rules. -/
structure SameAs (schema reloaded : Schema) : Prop where
  config : reloaded.config = schema.config
  environments : reloaded.environments = schema.environments
  invariants : (reloaded.invariants.map fun invariant => (invariant.name, invariant.expr)) =
    schema.invariants.map fun invariant => (invariant.name, invariant.expr)

/-- The schema with the text of every rule in canonical form. -/
def canonical (schema : Schema) : Schema :=
  { schema with invariants := schema.invariants.map fun invariant =>
      { invariant with rule := invariant.expr.format } }

theorem sameAs_canonical (schema : Schema) : schema.SameAs schema.canonical := by
  refine ⟨rfl, rfl, ?_⟩
  rw [canonical, List.map_map]
  rfl

theorem SameAs.names (same : schema.SameAs reloaded) :
    reloaded.invariants.map (·.name) = schema.invariants.map (·.name) := by
  have names := congrArg (List.map Prod.fst) same.invariants
  rwa [List.map_map, List.map_map] at names

/-- Every invariant has its counterpart. -/
theorem SameAs.counterpart (same : schema.SameAs reloaded) {invariant : Invariant}
    (member : invariant ∈ schema.invariants) :
    ∃ other ∈ reloaded.invariants, other.name = invariant.name ∧ other.expr = invariant.expr := by
  have pair : (invariant.name, invariant.expr) ∈
      reloaded.invariants.map fun invariant => (invariant.name, invariant.expr) := by
    rw [same.invariants]
    exact List.mem_map_of_mem member
  obtain ⟨other, member, equal⟩ := List.mem_map.mp pair
  exact ⟨other, member, congrArg Prod.fst equal, congrArg Prod.snd equal⟩

/-- Whatever loads as a schema has the properties of loaded schemas. -/
theorem reloadable_of_loadedFrom {document : Document} (loaded : reloaded.LoadedFrom document)
    (same : schema.SameAs reloaded) : schema.Reloadable := by
  have contractsSame (environment : String) :
      schema.contract? environment = reloaded.contract? environment := by
    rw [contract?, contract?, same.environments]
  have declaresSame (key : String) : schema.declares key = reloaded.declares key := by
    rw [declares, declares, same.config]
  constructor
  case keys =>
    rw [← same.config]
    exact loaded.keys
  case names =>
    -- The loader knows the counterparts of the invariants, which differ from them in their texts.
    intro invariant member
    obtain ⟨other, otherMember, name, -⟩ := same.counterpart member
    exact name ▸ (loaded.rules other otherMember).name
  case distinct =>
    rw [← same.names]
    exact loaded.names
  case rules =>
    intro invariant member
    obtain ⟨other, otherMember, -, expr⟩ := same.counterpart member
    exact expr ▸ Rule.wellFormed_of_parse (loaded.rules other otherMember).rule
  case contracts =>
    intro environment contract found
    exact loaded.contract_built ((contractsSame environment).symm.trans found)
  case clauses =>
    intro environment contract found key member
    rw [declaresSame]
    exact loaded.contract_declared ((contractsSame environment).symm.trans found) member

/-- The document of a reloadable schema whose rules refer to declared keys loads as its canonical
form. -/
theorem Reloadable.loadedFrom (reloadable : schema.Reloadable)
    (refs : ∀ invariant ∈ schema.invariants, ∀ path ∈ invariant.expr.refs,
      schema.declares path = true) :
    schema.canonical.LoadedFrom schema.toDocument := by
  constructor
  case config => rfl
  case invariants =>
    rw [canonical, List.map_map]
    rfl
  case environments =>
    -- A contract takes its name from its environment when it is loaded, not from its entry.
    refine SortedMap.ext_get? fun environment => ?_
    show schema.environments.get? environment = _
    rw [SortedMap.get?_mapValues, toDocument, SortedMap.get?_mapValues]
    cases found : schema.environments.get? environment with
    | none => rfl
    | some contract =>
        obtain ⟨rfl, built⟩ := reloadable.contracts environment contract found
        exact congrArg some built.toContract_contractEntry.symm
  case keys => exact reloadable.keys
  case rules =>
    intro invariant member
    obtain ⟨original, originalMember, rfl⟩ := List.mem_map.mp member
    exact ⟨reloadable.names original originalMember,
      Rule.parse_format (reloadable.rules original originalMember), refs original originalMember⟩
  case names =>
    rw [(sameAs_canonical schema).names]
    exact reloadable.distinct
  case clauses =>
    rintro ⟨environment, contract⟩ member
    exact reloadable.clauses environment contract (SortedMap.get?_eq_some_iff.mpr member)

/-- A file that was written loads as the schema it was written for exactly when the schema is
reloadable. -/
theorem reloads_iff_reloadable (wording : Wording) (written : schema.write = .ok text)
    (faithful : Document.read text = some schema.toDocument) :
    (∃ reloaded, Schema.read wording text = .ok reloaded ∧ schema.SameAs reloaded) ↔
      schema.Reloadable := by
  have refs := (write_eq_ok_iff.mp written).2
  simp only [read_eq_ofDocument wording faithful, ofDocument_eq_ok_iff]
  constructor
  · rintro ⟨reloaded, loaded, same⟩
    exact reloadable_of_loadedFrom loaded same
  · intro reloadable
    exact ⟨schema.canonical, reloadable.loadedFrom refs, sameAs_canonical schema⟩

/-! ## Two schemas with one rule -/

/-- One required key, and the rule that it is not empty. -/
def keySchema : Schema :=
  { config := .ofList [("a", ⟨.string, true, []⟩)]
    invariants := [⟨"n", "a", .configRef "a"⟩]
    environments := .empty }

/-- No keys, and a rule that is a literal with quotes in it. -/
def quoteSchema : Schema :=
  { config := .empty
    invariants := [⟨"n", "", .literal "a\" == \"b"⟩]
    environments := .empty }

/-- No keys, and a rule that compares two literals. -/
def compareSchema : Schema :=
  { config := .empty
    invariants := [⟨"n", "\"a\" == \"b\"", .comparison (.literal "a") .equal (.literal "b")⟩]
    environments := .empty }

/-- The first schema is saved and loads again. -/
theorem keySchema_reloads :
    ∃ text, keySchema.write = .ok text ∧ Document.read text = some keySchema.toDocument ∧
      ∃ reloaded, Schema.read .plain text = .ok reloaded ∧ keySchema.SameAs reloaded := by
  have written : keySchema.write = .ok keySchema.toDocument.write :=
    write_eq_ok_iff.mpr ⟨rfl, by decide⟩
  have faithful : Document.read keySchema.toDocument.write = some keySchema.toDocument := by
    decide +kernel
  refine ⟨_, written, faithful, (reloads_iff_reloadable .plain written faithful).mpr ?_⟩
  refine ⟨?_, by decide, by decide, ?_, nofun, nofun⟩
  · simp only [← keyFault?_eq_none_iff]
    decide
  · intro invariant member
    obtain rfl := List.mem_singleton.mp member
    exact ⟨⟨["a"], by decide, by decide, rfl⟩, by decide⟩

theorem compareSchema_reloadable : compareSchema.Reloadable := by
  refine ⟨nofun, by decide, by decide, ?_, nofun, nofun⟩
  intro invariant member
  obtain rfl := List.mem_singleton.mp member
  refine ⟨?_, ?_⟩
  · show '"' ∉ "a".toList
    decide
  · show '"' ∉ "b".toList
    decide

/-- The second schema is saved and loads as the third: a rule that always holds has become one that
never does. -/
theorem quoteSchema_changed :
    ∃ text reloaded, quoteSchema.write = .ok text ∧
      Document.read text = some quoteSchema.toDocument ∧
      Schema.read .plain text = .ok reloaded ∧ ¬quoteSchema.SameAs reloaded := by
  have faithful : Document.read quoteSchema.toDocument.write = some quoteSchema.toDocument := by
    decide +kernel
  refine ⟨_, compareSchema, write_eq_ok_iff.mpr ⟨rfl, by decide⟩, faithful, ?_, ?_⟩
  · rw [read_eq_ofDocument .plain faithful]
    exact ofDocument_eq_ok_iff.mpr (compareSchema_reloadable.loadedFrom (by decide))
  · intro same
    exact absurd same.invariants (by decide)

end Schema

end ConfigGate
