import ConfigGate.SortedMap
import ConfigGate.Wildcard

/-!
# Contracts

A contract says which values the keys may have in one environment. A key may have an allow clause,
a deny clause, or both: a denied value is a violation whatever is allowed, and any other value must
be among the allowed ones if there is an allow clause.
-/

namespace ConfigGate

/-- Values for one key. In a deny clause with `isGlob` the values are patterns. -/
structure Clause where
  values : List String
  isGlob : Bool
deriving DecidableEq, Repr

namespace Clause

/-- A clause of exact values. -/
def allow (values : List String) : Clause := ⟨values, false⟩

/-- A clause of patterns if any value holds a wildcard, else of exact values. -/
def deny (values : List String) : Clause := ⟨values, values.any Wildcard.hasWildcard⟩

/-- The first entry that matches the value. -/
def firstMatch? (clause : Clause) (value : String) : Option String :=
  clause.values.find? fun entry =>
    if clause.isGlob then Wildcard.isMatch entry value else entry == value

end Clause

/-- The allow and deny clauses of one environment. -/
structure Contract where
  name : String
  allow : SortedMap Clause
  deny : SortedMap Clause
deriving DecidableEq

/-- The keys that have a clause: first those with an allow clause, then the others. -/
def Contract.keys (contract : Contract) : List String :=
  contract.allow.keys ++ contract.deny.keys.filter fun key => !contract.allow.contains key

/-- Which kind of clause a value violates. -/
inductive ClauseKind where
  | allow
  | deny
deriving DecidableEq, Repr

/-- The word for a kind of clause. -/
def ClauseKind.word : ClauseKind → String
  | allow => "allow"
  | deny => "deny"

/-- The kind of clause a word stands for. -/
def ClauseKind.ofWord? : String → Option ClauseKind
  | "allow" => some allow
  | "deny" => some deny
  | _ => none

/-- A value that a contract does not permit. -/
structure Violation where
  key : String
  actualValue : String
  clause : ClauseKind
  expectedValues : List String
  pattern : Option String
deriving DecidableEq, Repr

/-- What holding the values against a contract gave. -/
structure ContractResult where
  environment : String
  passed : Bool
  violations : List Violation
deriving DecidableEq, Repr

namespace Contract

/-- The violation of the allow clause of `key`. -/
def allowViolation? (contract : Contract) (key value : String) : Option Violation :=
  match contract.allow.get? key with
  | none => none
  | some clause =>
      if clause.values.contains value then none
      else some ⟨key, value, .allow, clause.values, none⟩

/-- The violation of the deny clause of `key`. -/
def denyViolation? (contract : Contract) (key value : String) : Option Violation :=
  match contract.deny.get? key with
  | none => none
  | some clause =>
      match clause.firstMatch? value with
      | none => none
      | some entry => some ⟨key, value, .deny, clause.values, some entry⟩

/-- The violation of one value; denial comes first. -/
def violation? (contract : Contract) (key value : String) : Option Violation :=
  (contract.denyViolation? key value).or (contract.allowViolation? key value)

/-- Holds every value against the contract. Keys without a clause are free. -/
def evaluate (contract : Contract) (values : SortedMap String) : ContractResult :=
  let violations := values.entries.filterMap fun entry => contract.violation? entry.1 entry.2
  ⟨contract.name, violations.isEmpty, violations⟩

end Contract

end ConfigGate
