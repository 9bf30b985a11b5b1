import ConfigGate.Proofs.FirstFault
import ConfigGate.Proofs.Rule.References
import ConfigGate.Schema.Document

/-!
# The faults of documents

A document is valid when none of its keys, invariants and contracts is at fault. `FaultyAt` says
what is at fault where, without regard to what else is, and `Place.Before` says in which order the
places of a document are looked at.

Results:
1. `faultOrder`: the first fault of a document is well-defined;
2. `valid_iff_forall_not_faultyAt`: valid documents are those without faults.
-/

namespace ConfigGate

/-! ## Flaws -/

/-- What can be wrong with a key. -/
inductive KeyFlaw where
  | path
  | reserved
  | values

/-- The place of a flaw among those of a key. -/
def KeyFlaw.rank : KeyFlaw → Nat
  | path => 0
  | reserved => 1
  | values => 2

/-- What can be wrong with an invariant. -/
inductive InvariantFlaw where
  | name
  | repetition
  | rule

/-- The place of a flaw among those of an invariant. -/
def InvariantFlaw.rank : InvariantFlaw → Nat
  | name => 0
  | repetition => 1
  | rule => 2

/-- The place of a kind of clause in a contract. -/
def ClauseKind.rank : ClauseKind → Nat
  | allow => 0
  | deny => 1

/-- The text is a non-empty run of letters, digits, underscores and dashes. -/
def IsPlain (text : String) : Prop :=
  text ≠ "" ∧ ∀ c ∈ text.toList, c.isAlphanum = true ∨ c = '_' ∨ c = '-'

theorem isPlainName_iff_isPlain {text : String} : Text.isPlainName text = true ↔ IsPlain text := by
  rw [Text.isPlainName, Bool.and_eq_true, List.all_eq_true, IsPlain]
  simp [Text.isIdentChar, or_assoc]

/-- What is wrong with the declaration of a key. -/
inductive KeyDecl.FaultyIn (key : String) (decl : KeyDecl) : KeyFlaw → SchemaError → Prop
  | path : ¬Rule.IsChain key → FaultyIn key decl .path (.invalidKey key)
  | reserved : key = Rule.executionPath → FaultyIn key decl .reserved (.reservedKey key)
  | values : decl.kind = .enum → decl.values = [] → FaultyIn key decl .values (.emptyEnum key)

/-- What is wrong with an invariant behind others of the names `earlier`. -/
inductive InvariantEntry.FaultyIn (declared : String → Bool) (earlier : List String)
    (entry : InvariantEntry) : InvariantFlaw → SchemaError → Prop
  | name : ¬IsPlain entry.name →
      FaultyIn declared earlier entry .name (.invalidInvariantName entry.name)
  | repetition : entry.name ∈ earlier →
      FaultyIn declared earlier entry .repetition (.duplicateInvariant entry.name)
  | rule {cause : Rule.RuleError} : Rule.Faulty declared entry.rule cause →
      FaultyIn declared earlier entry .rule (.rule entry.name cause)

/-- What is wrong with a clause of a contract. A key with clauses of both kinds counts as one that
is allowed something. -/
inductive ContractEntry.FaultyIn (declared : String → Bool) (environment : String)
    (entry : ContractEntry) : ClauseKind → String → SchemaError → Prop
  | allow {key : String} : entry.allow.contains key = true → declared key = false →
      FaultyIn declared environment entry .allow key (.unknownContractKey environment key)
  | deny {key : String} : entry.deny.contains key = true → entry.allow.contains key = false →
      declared key = false →
      FaultyIn declared environment entry .deny key (.unknownContractKey environment key)

/-! ## Places -/

namespace Document

/-- A place in a document: a flaw of a key, a flaw of the invariant at some position, or a clause of
the contract of an environment. -/
inductive Place where
  | key (name : String) (flaw : KeyFlaw)
  | invariant (position : Nat) (flaw : InvariantFlaw)
  | clause (environment : String) (kind : ClauseKind) (key : String)

namespace Place

/-- The part of the document that a place is in. -/
def part : Place → Nat
  | key .. => 0
  | invariant .. => 1
  | clause .. => 2

/-- `left.Before right`: the left place is looked at first. -/
def Before : Place → Place → Prop
  | key left flaw, key right other => left < right ∨ left = right ∧ flaw.rank < other.rank
  | invariant left flaw, invariant right other =>
      left < right ∨ left = right ∧ flaw.rank < other.rank
  | clause left kind path, clause right other another =>
      left < right ∨ left = right ∧ (kind.rank < other.rank ∨ kind = other ∧ path < another)
  | left, right => left.part < right.part

/-- What is compared by one part and then by another one is in order one way only. -/
theorem lex_asymm {α : Type} (less : α → α → Prop)
    (asymm : ∀ {left right}, less left right → ¬less right left) {left right : α}
    {inner back : Prop} (innerAsymm : inner → ¬back)
    (before : less left right ∨ left = right ∧ inner) :
    ¬(less right left ∨ right = left ∧ back) := by
  rintro (below | ⟨same, behind⟩)
  · rcases before with above | ⟨same, -⟩
    · exact asymm above below
    · subst same
      exact asymm below below
  · subst same
    rcases before with above | ⟨-, ahead⟩
    · exact asymm above above
    · exact innerAsymm ahead behind

theorem Before.asymm {left right : Place} (before : left.Before right) : ¬right.Before left := by
  cases left <;> cases right
  case key.key =>
    exact lex_asymm (· < ·) String.lt_asymm Nat.lt_asymm before
  case invariant.invariant =>
    exact lex_asymm (· < ·) Nat.lt_asymm Nat.lt_asymm before
  case clause.clause =>
    have kinds := lex_asymm fun (left right : ClauseKind) => left.rank < right.rank
    exact lex_asymm (· < ·) String.lt_asymm (kinds Nat.lt_asymm String.lt_asymm) before
  -- Elsewhere the parts of the document decide.
  all_goals exact Nat.lt_asymm before

end Place

/-- `document.FaultyAt place error`: the document is at fault there, and the error says so. -/
inductive FaultyAt (document : Document) : Place → SchemaError → Prop
  | key {name : String} {decl : KeyDecl} {flaw : KeyFlaw} {error : SchemaError} :
      document.config.get? name = some decl → decl.FaultyIn name flaw error →
      FaultyAt document (.key name flaw) error
  | invariant {position : Nat} {entry : InvariantEntry} {flaw : InvariantFlaw}
      {error : SchemaError} :
      document.invariants[position]? = some entry →
      entry.FaultyIn document.config.contains
        ((document.invariants.take position).map (·.name)) flaw error →
      FaultyAt document (.invariant position flaw) error
  | clause {environment key : String} {entry : ContractEntry} {kind : ClauseKind}
      {error : SchemaError} :
      document.environments.get? environment = some entry →
      entry.FaultyIn document.config.contains environment kind key error →
      FaultyAt document (.clause environment kind key) error

/-- A document without faults. -/
structure Valid (document : Document) : Prop where
  keys : ∀ key ∈ document.config.keys, Rule.IsChain key ∧ key ≠ Rule.executionPath
  values : ∀ key decl, document.config.get? key = some decl → decl.kind = .enum →
    decl.values ≠ []
  names : ∀ entry ∈ document.invariants, IsPlain entry.name
  distinct : (document.invariants.map (·.name)).Nodup
  rules : ∀ entry ∈ document.invariants, ∃ expr, Rule.parse entry.rule = .ok expr ∧
    ∀ path ∈ expr.refs, document.config.contains path = true
  clauses : ∀ environment entry, document.environments.get? environment = some entry →
    ∀ key, entry.allow.contains key = true ∨ entry.deny.contains key = true →
      document.config.contains key = true

end Document

/-! ## Single faults -/

namespace DocumentFaultLemmas

variable {declared : String → Bool} {key environment : String} {decl : KeyDecl}
  {entry : InvariantEntry} {earlier : List String} {left right : SchemaError}

theorem keyDecl_single {flaw : KeyFlaw} (here : decl.FaultyIn key flaw left)
    (there : decl.FaultyIn key flaw right) : left = right := by
  cases here <;> cases there <;> rfl

theorem invariantEntry_single {flaw : InvariantFlaw}
    (here : entry.FaultyIn declared earlier flaw left)
    (there : entry.FaultyIn declared earlier flaw right) : left = right := by
  cases here with
  | name => cases there; rfl
  | repetition => cases there; rfl
  | rule cause =>
      cases there with
      | rule another =>
          have first := Rule.parseKnown_eq_error_iff.mpr cause
          have second := Rule.parseKnown_eq_error_iff.mpr another
          rw [Except.error.inj (first.symm.trans second)]

theorem contractEntry_single {contract : ContractEntry} {kind : ClauseKind}
    (here : contract.FaultyIn declared environment kind key left)
    (there : contract.FaultyIn declared environment kind key right) : left = right := by
  cases here <;> cases there <;> rfl

/-- Nothing occurs twice exactly when nothing occurs in front of itself. -/
theorem nodup_iff_not_mem_take {α : Type u} {items : List α} :
    items.Nodup ↔ ∀ position item, items[position]? = some item → item ∉ items.take position := by
  rw [List.Nodup, List.pairwise_iff_getElem]
  constructor
  · intro distinct position item found member
    obtain ⟨before, bounds, same⟩ := List.mem_take_iff_getElem.mp member
    obtain ⟨inside, here⟩ := List.getElem?_eq_some_iff.mp found
    exact distinct before position (by omega) inside (by omega) (same.trans here.symm)
  · intro apart before position beforeInside inside below same
    exact apart position _ (List.getElem?_eq_getElem inside)
      (List.mem_take_iff_getElem.mpr ⟨before, by omega, same⟩)

end DocumentFaultLemmas

open DocumentFaultLemmas

namespace Document

/-- Which fault of a document is the first one is well-defined. -/
theorem faultOrder (document : Document) : FaultOrder Place.Before document.FaultyAt := by
  refine ⟨Place.Before.asymm, ?_⟩
  rintro _ left right (⟨found, here⟩ | ⟨found, here⟩ | ⟨found, here⟩) there
  · cases there with
    | key again there =>
        obtain rfl := Option.some.inj (found.symm.trans again)
        exact keyDecl_single here there
  · cases there with
    | invariant again there =>
        obtain rfl := Option.some.inj (found.symm.trans again)
        exact invariantEntry_single here there
  · cases there with
    | clause again there =>
        obtain rfl := Option.some.inj (found.symm.trans again)
        exact contractEntry_single here there

/-! ## Documents without faults -/

variable {document : Document}

theorem Valid.not_faultyAt (valid : document.Valid) {place : Place} {error : SchemaError} :
    ¬document.FaultyAt place error := by
  rintro (⟨found, fault⟩ | ⟨found, fault⟩ | ⟨found, fault⟩)
  · have declared := SortedMap.mem_keys_iff.mpr (SortedMap.contains_eq_true_iff.mpr ⟨_, found⟩)
    obtain ⟨chain, notReserved⟩ := valid.keys _ declared
    rcases fault with invalid | reserved | ⟨enum, none⟩
    · exact invalid chain
    · exact notReserved reserved
    · exact valid.values _ _ found enum none
  · have member := List.mem_of_getElem? found
    rcases fault with unplain | repeated | cause
    · exact unplain (valid.names _ member)
    · rw [List.map_take] at repeated
      refine nodup_iff_not_mem_take.mp valid.distinct _ _ ?_ repeated
      rw [List.getElem?_map, found, Option.map_some]
    · obtain ⟨expr, read, refs⟩ := valid.rules _ member
      have accepted := Rule.parseKnown_eq_ok_iff.mpr ⟨read, refs⟩
      exact nomatch accepted.symm.trans (Rule.parseKnown_eq_error_iff.mpr cause)
  · rcases fault with ⟨has, undeclared⟩ | ⟨has, -, undeclared⟩
    · exact absurd (valid.clauses _ _ found _ (.inl has)) (by simp [undeclared])
    · exact absurd (valid.clauses _ _ found _ (.inr has)) (by simp [undeclared])

theorem valid_of_forall_not_faultyAt (clean : ∀ place error, ¬document.FaultyAt place error) :
    document.Valid where
  keys key member := by
    obtain ⟨decl, found⟩ := SortedMap.contains_eq_true_iff.mp (SortedMap.mem_keys_iff.mp member)
    refine ⟨by_contra fun invalid => ?_, fun reserved => ?_⟩
    · exact clean _ _ (.key found (.path invalid))
    · exact clean _ _ (.key found (.reserved reserved))
  values key decl found enum none := clean _ _ (.key found (.values enum none))
  names entry member := by
    obtain ⟨position, found⟩ := List.mem_iff_getElem?.mp member
    exact by_contra fun unplain => clean _ _ (.invariant found (.name unplain))
  distinct := by
    refine nodup_iff_not_mem_take.mpr fun position name found repeated => ?_
    rw [List.getElem?_map, Option.map_eq_some_iff] at found
    obtain ⟨entry, found, rfl⟩ := found
    rw [← List.map_take] at repeated
    exact clean _ _ (.invariant found (.repetition repeated))
  rules entry member := by
    obtain ⟨position, found⟩ := List.mem_iff_getElem?.mp member
    cases read : Rule.parseKnown document.config.contains entry.rule with
    | error cause =>
        have fault := Rule.parseKnown_eq_error_iff.mp read
        exact absurd (.invariant found (.rule fault)) (clean _ _)
    | ok expr => exact ⟨expr, Rule.parseKnown_eq_ok_iff.mp read⟩
  clauses environment entry found key has := by
    by_contra undeclared
    rw [Bool.not_eq_true] at undeclared
    cases allowed : entry.allow.contains key with
    | true => exact clean _ _ (.clause found (.allow allowed undeclared))
    | false =>
        have denied := has.resolve_left (by simp [allowed])
        exact clean _ _ (.clause found (.deny denied allowed undeclared))

/-- A document is valid exactly when nothing in it is at fault. -/
theorem valid_iff_forall_not_faultyAt :
    document.Valid ↔ ∀ place error, ¬document.FaultyAt place error :=
  ⟨fun valid _ _ => valid.not_faultyAt, valid_of_forall_not_faultyAt⟩

end Document

end ConfigGate
