import ConfigGate.Proofs.Schema.Faults
import ConfigGate.Proofs.Schema.Loading

/-!
# Valid documents

The loader goes through the keys of a document, then through the invariants, then through the
contracts, and stops at the first fault. So it accepts the documents that have none, and what it
gives for one of them is the schema that the document describes.

Results:
1. `firstFault_of_ofDocument`: a document that does not load is refused for its first fault;
2. `Schema.LoadedFrom.describes`, `Schema.Describes.unique`: what a document loads as;
3. `ofDocument_decides_validity`: the loader as a whole.
-/

namespace ConfigGate

/-! ## Parts of documents -/

namespace ValidationLemmas

variable {declared : String → Bool} {key environment : String} {decl : KeyDecl}
  {entry : InvariantEntry} {earlier seen : List String} {error : SchemaError}

/-- The fault of a key is the first of those it has. -/
theorem firstFault_of_keyFault? (found : keyFault? key decl = some error) :
    FirstFault (fun left right => left.rank < right.rank) (decl.FaultyIn key) error := by
  unfold keyFault? at found
  split at found
  · rename_i invalid
    cases found
    have invalid : ¬Rule.IsChain key := by
      rw [← Rule.isDottedPath_iff_isChain]
      simpa using invalid
    refine ⟨.path, .path invalid, fun other another fault => ?_⟩
    cases fault with
    | path => exact .inl rfl
    | reserved => exact .inr (by decide)
    | values => exact .inr (by decide)
  · rename_i path
    have chain : Rule.IsChain key := Rule.isDottedPath_iff_isChain.mp (by simpa using path)
    split at found
    · rename_i reserved
      cases found
      refine ⟨.reserved, .reserved reserved, fun other another fault => ?_⟩
      cases fault with
      | path invalid => exact absurd chain invalid
      | reserved => exact .inl rfl
      | values => exact .inr (by decide)
    · rename_i notReserved
      split at found
      · rename_i vacant
        cases found
        rw [Bool.and_eq_true, decide_eq_true_eq, List.isEmpty_iff] at vacant
        refine ⟨.values, .values vacant.1 vacant.2, fun other another fault => ?_⟩
        cases fault with
        | path invalid => exact absurd chain invalid
        | reserved reserved => exact absurd reserved notReserved
        | values => exact .inl rfl
      · exact absurd found (by simp)

theorem not_faultyIn_of_declarable (declarable : KeyDecl.Declarable key decl) {flaw : KeyFlaw} :
    ¬decl.FaultyIn key flaw error := by
  rintro (invalid | reserved | ⟨enum, none⟩)
  · exact invalid (Rule.isDottedPath_iff_isChain.mp declarable.path)
  · exact declarable.notReserved reserved
  · exact declarable.inhabited enum none

/-- It does not matter in which order the names before an invariant are given. -/
theorem faultyIn_congr (same : ∀ name, name ∈ earlier ↔ name ∈ seen) {flaw : InvariantFlaw} :
    entry.FaultyIn declared earlier flaw error ↔ entry.FaultyIn declared seen flaw error := by
  constructor
  · rintro (name | repeated | cause)
    · exact .name name
    · exact .repetition ((same _).mp repeated)
    · exact .rule cause
  · rintro (name | repeated | cause)
    · exact .name name
    · exact .repetition ((same _).mpr repeated)
    · exact .rule cause

/-- An invariant that reads well behind others has no flaw. -/
theorem not_faultyIn_of_parseKnown {expr : Rule.Expr} (plain : Text.isPlainName entry.name = true)
    (fresh : entry.name ∉ seen) (read : Rule.parseKnown declared entry.rule = .ok expr)
    {flaw : InvariantFlaw} : ¬entry.FaultyIn declared seen flaw error := by
  rintro (unplain | repeated | cause)
  · exact unplain (isPlainName_iff_isPlain.mp plain)
  · exact fresh repeated
  · exact nomatch read.symm.trans (Rule.parseKnown_eq_error_iff.mpr cause)

theorem mem_names_succ {entries : List InvariantEntry} {count : Nat} (name : String) :
    name ∈ ((entry :: entries).take (count + 1)).map (·.name) ++ seen ↔
      name ∈ (entries.take count).map (·.name) ++ entry.name :: seen := by
  simp only [List.take_succ_cons, List.map_cons, List.mem_append, List.mem_cons]
  tauto

/-- Invariants that are read have no flaws. -/
theorem not_faultyIn_of_loadInvariants {entries : List InvariantEntry}
    {invariants : List Invariant} (load : loadInvariants declared seen entries = .ok invariants)
    {position : Nat} (found : entries[position]? = some entry) {flaw : InvariantFlaw} :
    ¬entry.FaultyIn declared ((entries.take position).map (·.name) ++ seen) flaw error := by
  fun_induction loadInvariants declared seen entries generalizing invariants position with
  | case1 => exact absurd found (by simp)
  | case2 => exact absurd load (by simp)
  | case3 => exact absurd load (by simp)
  | case4 => exact absurd load (by simp)
  | case5 => exact absurd load (by simp)
  | case6 seen first rest plain fresh expr read others step ih =>
      cases position with
      | zero =>
          obtain rfl := Option.some.inj found
          exact not_faultyIn_of_parseKnown (by simpa using plain) (by simpa using fresh) read
      | succ before => exact fun fault => ih step found ((faultyIn_congr mem_names_succ).mp fault)

section Flaws

/-! Of the flaws of an invariant the name comes first, then a repetition, then the rule. -/

theorem firstFault_name (unplain : ¬IsPlain entry.name) :
    FirstFault (fun left right => left.rank < right.rank) (entry.FaultyIn declared seen)
      (.invalidInvariantName entry.name) := by
  refine ⟨.name, .name unplain, fun flaw another fault => ?_⟩
  cases fault with
  | name => exact .inl rfl
  | repetition => exact .inr (by decide)
  | rule => exact .inr (by decide)

variable (plain : IsPlain entry.name)
include plain

theorem firstFault_repetition (repeated : entry.name ∈ seen) :
    FirstFault (fun left right => left.rank < right.rank) (entry.FaultyIn declared seen)
      (.duplicateInvariant entry.name) := by
  refine ⟨.repetition, .repetition repeated, fun flaw another fault => ?_⟩
  cases fault with
  | name unplain => exact absurd plain unplain
  | repetition => exact .inl rfl
  | rule => exact .inr (by decide)

theorem firstFault_rule (fresh : entry.name ∉ seen) {cause : Rule.RuleError}
    (refused : Rule.parseKnown declared entry.rule = .error cause) :
    FirstFault (fun left right => left.rank < right.rank) (entry.FaultyIn declared seen)
      (.rule entry.name cause) := by
  refine ⟨.rule, .rule (Rule.parseKnown_eq_error_iff.mp refused), fun flaw another fault => ?_⟩
  cases fault with
  | name unplain => exact absurd plain unplain
  | repetition repeated => exact absurd repeated fresh
  | rule => exact .inl rfl

end Flaws

/-- Invariants are refused for the first flaw of the first one that has a flaw. -/
theorem firstFault_of_loadInvariants {entries : List InvariantEntry}
    (failed : loadInvariants declared seen entries = .error error) :
    ∃ (position : Nat) (entry : InvariantEntry), entries[position]? = some entry ∧
      FirstFault (fun left right => left.rank < right.rank)
        (entry.FaultyIn declared ((entries.take position).map (·.name) ++ seen)) error ∧
      ∀ before < position, ∀ other : InvariantEntry, entries[before]? = some other →
        ∀ flaw another,
          ¬other.FaultyIn declared ((entries.take before).map (·.name) ++ seen) flaw another := by
  fun_induction loadInvariants declared seen entries with
  | case1 => exact absurd failed (by simp)
  | case2 seen entry rest unplain =>
      cases failed
      have unplain : ¬IsPlain entry.name := by
        rw [← isPlainName_iff_isPlain]
        simpa using unplain
      exact ⟨0, entry, rfl, firstFault_name unplain, by simp⟩
  | case3 seen entry rest plain repeated =>
      cases failed
      have plain : IsPlain entry.name := isPlainName_iff_isPlain.mp (by simpa using plain)
      exact ⟨0, entry, rfl, firstFault_repetition plain (by simpa using repeated), by simp⟩
  | case4 seen entry rest plain fresh cause refused =>
      cases failed
      have plain : IsPlain entry.name := isPlainName_iff_isPlain.mp (by simpa using plain)
      exact ⟨0, entry, rfl, firstFault_rule plain (by simpa using fresh) refused, by simp⟩
  | case5 seen entry rest plain fresh expr read inner step ih =>
      -- The first invariant reads well, and its name is one that those behind it must not have.
      cases failed
      obtain ⟨position, refused, found, ⟨flaw, here, least⟩, clean⟩ := ih step
      refine ⟨position + 1, refused, found, ⟨flaw, ?_, fun other another fault => ?_⟩, ?_⟩
      · exact (faultyIn_congr mem_names_succ).mpr here
      · exact least other another ((faultyIn_congr mem_names_succ).mp fault)
      · rintro (_ | before) below other there flaw another fault
        · obtain rfl := Option.some.inj there
          exact not_faultyIn_of_parseKnown (by simpa using plain) (by simpa using fresh) read fault
        · exact clean before (Nat.lt_of_succ_lt_succ below) other there flaw another
            ((faultyIn_congr mem_names_succ).mp fault)
  | case6 => exact absurd failed (by simp)

/-- A contract is refused for its first key that is not declared; keys that are allowed something
come before those that are only denied something. -/
theorem clauseFault_of_contractFault? {contract : ContractEntry}
    (found : contractFault? declared (contract.toContract environment) = some error) :
    ∃ kind key, contract.FaultyIn declared environment kind key error ∧
      ∀ other path another, contract.FaultyIn declared environment other path another →
        other = kind ∧ path = key ∨ kind.rank < other.rank ∨ kind = other ∧ key < path := by
  rw [contractFault?, Option.map_eq_some_iff] at found
  obtain ⟨key, found, rfl⟩ := found
  simp only [Contract.keys, ContractEntry.toContract, SortedMap.keys_mapValues,
    SortedMap.contains_mapValues, List.find?_append, Option.or_eq_some_iff] at found
  rcases found with inAllow | ⟨noneAllowed, inDeny⟩
  · obtain ⟨member, unknown, least⟩ := first_of_find? contract.allow.keys_ascending inAllow
    refine ⟨.allow, key, .allow (SortedMap.mem_keys_iff.mp member) (by simpa using unknown),
      fun other path another fault => ?_⟩
    cases fault with
    | allow has undeclared =>
        have place := least path (SortedMap.mem_keys_iff.mpr has) (by simpa using undeclared)
        exact place.imp (⟨rfl, ·⟩) fun behind => .inr ⟨rfl, behind⟩
    | deny => exact .inr (.inl (by decide))
  · obtain ⟨member, unknown, least⟩ :=
      first_of_find? (contract.deny.keys_ascending.filter _) inDeny
    obtain ⟨member, apart⟩ := List.mem_filter.mp member
    refine ⟨.deny, key, .deny (SortedMap.mem_keys_iff.mp member) (by simpa using apart)
      (by simpa using unknown), fun other path another fault => ?_⟩
    cases fault with
    | allow has undeclared =>
        rw [List.find?_eq_none] at noneAllowed
        exact absurd (by simpa using undeclared) (noneAllowed path (SortedMap.mem_keys_iff.mpr has))
    | deny has notAllowed undeclared =>
        have inKeys := SortedMap.mem_keys_iff.mpr has
        have place := least path (List.mem_filter.mpr ⟨inKeys, by simpa using notAllowed⟩)
          (by simpa using undeclared)
        exact place.imp (⟨rfl, ·⟩) fun behind => .inr ⟨rfl, behind⟩

theorem not_faultyIn_of_contract {contract : ContractEntry}
    (clean : contractFault? declared (contract.toContract environment) = none)
    {kind : ClauseKind} : ¬contract.FaultyIn declared environment kind key error := by
  rw [contractFault?_eq_none_iff] at clean
  simp only [Contract.keys, ContractEntry.toContract, SortedMap.keys_mapValues,
    SortedMap.contains_mapValues, List.mem_append, List.mem_filter, SortedMap.mem_keys_iff] at clean
  rintro (⟨has, undeclared⟩ | ⟨has, notAllowed, undeclared⟩)
  · exact absurd (clean key (.inl has)) (by simp [undeclared])
  · exact absurd (clean key (.inr ⟨has, by simp [notAllowed]⟩)) (by simp [undeclared])

end ValidationLemmas

open ValidationLemmas

/-! ## The first fault -/

namespace Document

variable {document : Document} {schema : Schema} {error : SchemaError}

section Stages

variable {invariants : List Invariant}

theorem keys_clean
    (keys : (document.config.entries.findSome? fun entry => keyFault? entry.1 entry.2) = none)
    {name : String} {decl : KeyDecl} (found : document.config.get? name = some decl)
    {flaw : KeyFlaw} : ¬decl.FaultyIn name flaw error := by
  have clean := List.findSome?_eq_none_iff.mp keys _ (SortedMap.get?_eq_some_iff.mp found)
  exact not_faultyIn_of_declarable (keyFault?_eq_none_iff.mp clean)

theorem invariants_clean
    (step : loadInvariants document.config.contains [] document.invariants = .ok invariants)
    {position : Nat} {entry : InvariantEntry}
    (found : document.invariants[position]? = some entry) {flaw : InvariantFlaw} :
    ¬entry.FaultyIn document.config.contains ((document.invariants.take position).map (·.name))
      flaw error :=
  fun fault => not_faultyIn_of_loadInvariants step found ((faultyIn_congr (by simp)).mp fault)

/-- The contracts that are built are those of the entries. -/
theorem mem_contracts {environment : String} {contract : Contract} :
    (environment, contract) ∈
        (document.environments.mapValues fun name entry => entry.toContract name).entries ↔
      ∃ entry, document.environments.get? environment = some entry ∧
        entry.toContract environment = contract := by
  rw [← SortedMap.get?_eq_some_iff, SortedMap.get?_mapValues, Option.map_eq_some_iff]

theorem contracts_clean
    (contracts : ((document.environments.mapValues fun name entry =>
      entry.toContract name).entries.findSome? fun entry =>
        contractFault? document.config.contains entry.2) = none)
    {environment key : String} {entry : ContractEntry}
    (found : document.environments.get? environment = some entry) {kind : ClauseKind} :
    ¬entry.FaultyIn document.config.contains environment kind key error := by
  have member := mem_contracts.mpr ⟨entry, found, rfl⟩
  exact not_faultyIn_of_contract (List.findSome?_eq_none_iff.mp contracts _ member)

theorem keys_firstFault
    (keys : (document.config.entries.findSome? fun entry => keyFault? entry.1 entry.2) =
      some error) :
    FirstFault Place.Before document.FaultyAt error := by
  obtain ⟨⟨name, decl⟩, member, found, least⟩ := first_of_findSome? document.config.ascending keys
  obtain ⟨flaw, here, flaws⟩ := firstFault_of_keyFault? found
  refine ⟨.key name flaw, .key (SortedMap.get?_eq_some_iff.mpr member) here, ?_⟩
  intro place another fault
  cases fault with
  | @key other otherDecl otherFlaw _ there fault =>
      have flawed : keyFault? other otherDecl ≠ none := fun clean =>
        not_faultyIn_of_declarable (keyFault?_eq_none_iff.mp clean) fault
      rcases least _ (SortedMap.get?_eq_some_iff.mp there) flawed with same | behind
      · cases same
        exact (flaws _ _ fault).imp (congrArg _) fun worse => .inr ⟨rfl, worse⟩
      · exact .inr (.inl behind)
  | invariant => exact .inr Nat.zero_lt_one
  | clause => exact .inr Nat.zero_lt_two

theorem invariants_firstFault
    (keys : (document.config.entries.findSome? fun entry => keyFault? entry.1 entry.2) = none)
    (step : loadInvariants document.config.contains [] document.invariants = .error error) :
    FirstFault Place.Before document.FaultyAt error := by
  obtain ⟨position, entry, found, ⟨flaw, here, flaws⟩, least⟩ := firstFault_of_loadInvariants step
  simp only [List.append_nil] at here flaws least
  refine ⟨.invariant position flaw, .invariant found here, ?_⟩
  intro place another fault
  cases fault with
  | key there fault => exact absurd fault (keys_clean keys there)
  | @invariant other otherEntry otherFlaw _ there fault =>
      rcases Nat.lt_trichotomy other position with above | rfl | behind
      · exact absurd fault (least _ above _ there _ _)
      · obtain rfl := Option.some.inj (found.symm.trans there)
        exact (flaws _ _ fault).imp (congrArg _) fun worse => .inr ⟨rfl, worse⟩
      · exact .inr (.inl behind)
  | clause => exact .inr Nat.one_lt_two

theorem contracts_firstFault
    (keys : (document.config.entries.findSome? fun entry => keyFault? entry.1 entry.2) = none)
    (step : loadInvariants document.config.contains [] document.invariants = .ok invariants)
    (contracts : ((document.environments.mapValues fun name entry =>
      entry.toContract name).entries.findSome? fun entry =>
        contractFault? document.config.contains entry.2) = some error) :
    FirstFault Place.Before document.FaultyAt error := by
  obtain ⟨⟨environment, contract⟩, member, found, least⟩ :=
    first_of_findSome? (SortedMap.ascending _) contracts
  obtain ⟨entry, inDocument, rfl⟩ := mem_contracts.mp member
  obtain ⟨kind, key, here, clauses⟩ := clauseFault_of_contractFault? found
  refine ⟨.clause environment kind key, .clause inDocument here, ?_⟩
  intro place another fault
  cases fault with
  | key there fault => exact absurd fault (keys_clean keys there)
  | invariant there fault => exact absurd fault (invariants_clean step there)
  | @clause other path otherEntry otherKind _ there fault =>
      have flawed : contractFault? document.config.contains (otherEntry.toContract other) ≠ none :=
        fun clean => not_faultyIn_of_contract clean fault
      rcases least _ (mem_contracts.mpr ⟨otherEntry, there, rfl⟩) flawed with same | behind
      · obtain rfl : other = environment := congrArg Prod.fst same
        obtain rfl := Option.some.inj (inDocument.symm.trans there)
        rcases clauses _ _ _ fault with ⟨rfl, rfl⟩ | later
        · exact .inl rfl
        · exact .inr (.inr ⟨rfl, later⟩)
      · exact .inr (.inl behind)

end Stages

/-- A document that loads has no faults. -/
theorem not_faultyAt_of_ofDocument (load : Schema.ofDocument document = .ok schema) (place : Place)
    (error : SchemaError) : ¬document.FaultyAt place error := by
  unfold Schema.ofDocument at load
  split at load
  · exact absurd load (by simp)
  · rename_i keys
    simp only at load
    split at load
    · exact absurd load (by simp)
    · rename_i step
      split at load
      · exact absurd load (by simp)
      · rename_i contracts
        rintro (⟨found, fault⟩ | ⟨found, fault⟩ | ⟨found, fault⟩)
        · exact keys_clean keys found fault
        · exact invariants_clean step found fault
        · exact contracts_clean contracts found fault

/-- A document that does not load is refused for its first fault. -/
theorem firstFault_of_ofDocument (failed : Schema.ofDocument document = .error error) :
    FirstFault Place.Before document.FaultyAt error := by
  unfold Schema.ofDocument at failed
  split at failed
  · rename_i keys
    cases failed
    exact keys_firstFault keys
  · rename_i keys
    simp only at failed
    split at failed
    · rename_i step
      cases failed
      exact invariants_firstFault keys step
    · rename_i step
      split at failed
      · rename_i contracts
        cases failed
        exact contracts_firstFault keys step contracts
      · exact absurd failed (by simp)

end Document

/-! ## The schema of a document -/

/-- A contract says what its entry says: the values stay as they are, those that are allowed are
exact, and those that are denied are patterns if any of them holds a wildcard. -/
structure Contract.Transcribes (environment : String) (entry : ContractEntry)
    (contract : Contract) : Prop where
  name : contract.name = environment
  allow : ∀ key clause, contract.allow.get? key = some clause ↔
    ∃ values, entry.allow.get? key = some values ∧ clause.values = values.toList ∧
      clause.isGlob = false
  deny : ∀ key clause, contract.deny.get? key = some clause ↔
    ∃ values, entry.deny.get? key = some values ∧ clause.values = values.toList ∧
      (clause.isGlob = true ↔ ∃ value ∈ values.toList, '*' ∈ value.toList)

/-- An invariant has the name and the rule of its entry, and the expression that the rule reads
as. -/
structure Invariant.Transcribes (entry : InvariantEntry) (invariant : Invariant) : Prop where
  name : invariant.name = entry.name
  rule : invariant.rule = entry.rule
  expr : Rule.parse entry.rule = .ok invariant.expr

namespace Schema

/-- A schema says what a document says. -/
structure Describes (document : Document) (schema : Schema) : Prop where
  config : schema.config = document.config
  invariants : List.Forall₂ Invariant.Transcribes document.invariants schema.invariants
  contracts : ∀ environment contract, schema.contract? environment = some contract ↔
    ∃ entry, document.environments.get? environment = some entry ∧
      contract.Transcribes environment entry

end Schema

namespace ValidationLemmas

variable {clause : Clause} {values : List String}

theorem eq_allow_iff :
    clause = .allow values ↔ clause.values = values ∧ clause.isGlob = false := by
  cases clause
  simp [Clause.allow]

theorem eq_deny_iff :
    clause = .deny values ↔ clause.values = values ∧
      (clause.isGlob = true ↔ ∃ value ∈ values, '*' ∈ value.toList) := by
  have wild : values.any Wildcard.hasWildcard = true ↔ ∃ value ∈ values, '*' ∈ value.toList := by
    simp [Wildcard.hasWildcard]
  obtain ⟨held, isGlob⟩ := clause
  rw [Clause.deny, Clause.mk.injEq, ← wild, Bool.eq_iff_iff]

theorem transcribes_iff {entry : ContractEntry} {contract : Contract} :
    contract.Transcribes environment entry ↔ contract = entry.toContract environment := by
  obtain ⟨name, allow, deny⟩ := contract
  rw [ContractEntry.toContract, Contract.mk.injEq, SortedMap.eq_mapValues_iff,
    SortedMap.eq_mapValues_iff]
  simp only [eq_allow_iff, eq_deny_iff]
  constructor
  · intro transcribes
    exact ⟨transcribes.name, transcribes.allow, transcribes.deny⟩
  · rintro ⟨name, allow, deny⟩
    exact ⟨name, allow, deny⟩

end ValidationLemmas

namespace Schema

variable {document : Document} {schema : Schema}

/-- A schema that was loaded says what the document says. -/
theorem LoadedFrom.describes (loaded : schema.LoadedFrom document) :
    schema.Describes document := by
  refine ⟨loaded.config, ?_, fun environment contract => ?_⟩
  · rw [← loaded.invariants, List.forall₂_map_left_iff, List.forall₂_same]
    exact fun invariant member => ⟨rfl, rfl, (loaded.rules invariant member).rule⟩
  · rw [contract?, loaded.environments, SortedMap.get?_mapValues, Option.map_eq_some_iff]
    simp only [transcribes_iff, eq_comm]

/-- A document leaves nothing open about the schema. -/
theorem Describes.unique {other : Schema} (first : schema.Describes document)
    (second : other.Describes document) : schema = other := by
  obtain ⟨config, invariants, environments⟩ := schema
  obtain ⟨otherConfig, otherInvariants, otherEnvironments⟩ := other
  rw [mk.injEq]
  refine ⟨first.config.trans second.config.symm, ?_, ?_⟩
  · refine List.right_unique_forall₂' ?_ first.invariants second.invariants
    rintro entry ⟨name, rule, expr⟩ ⟨otherName, otherRule, otherExpr⟩ left right
    rw [Invariant.mk.injEq]
    exact ⟨left.name.trans right.name.symm, left.rule.trans right.rule.symm,
      Except.ok.inj (left.expr.symm.trans right.expr)⟩
  · refine SortedMap.ext_get? fun environment => Option.ext fun contract => ?_
    exact (first.contracts environment contract).trans (second.contracts environment contract).symm

/-- A document loads exactly when it is valid, and then as the schema that it describes; otherwise
the error is its first fault. -/
theorem ofDocument_decides_validity (document : Document) :
    (∀ schema, ofDocument document = .ok schema ↔ document.Valid ∧ schema.Describes document) ∧
      ((∃ schema, ofDocument document = .ok schema) ↔ document.Valid) ∧
      ∀ error, ofDocument document = .error error ↔
        FirstFault Document.Place.Before document.FaultyAt error := by
  refine document.faultOrder.determines
    (fun failed => Document.firstFault_of_ofDocument failed)
    (fun load => Document.not_faultyAt_of_ofDocument load)
    Document.valid_iff_forall_not_faultyAt (fun load => ?_) Describes.unique
  exact (ofDocument_eq_ok_iff.mp load).describes

end Schema

end ConfigGate
