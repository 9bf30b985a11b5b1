import ConfigGate.Rule.Parser
import ConfigGate.Schema.Basic

/-!
# Schema documents

A document is what a schema file holds, before anything is checked. `Schema.ofDocument` checks it
and builds the schema, `Schema.toDocument` writes a schema back with every rule in canonical form.

The first fault is reported: keys in ascending order, then invariants in document order, then
environments in ascending order, each with the keys of its contract.
-/

namespace ConfigGate

/-- The values of a clause as written: one text or a list. -/
inductive ClauseValues where
  | single (value : String)
  | list (values : List String)
deriving DecidableEq, Repr

/-- The values as a list. -/
def ClauseValues.toList : ClauseValues → List String
  | single value => [value]
  | list values => values

/-- An invariant as written. -/
structure InvariantEntry where
  name : String
  rule : String
deriving DecidableEq, Repr

/-- A contract as written. -/
structure ContractEntry where
  allow : SortedMap ClauseValues
  deny : SortedMap ClauseValues
deriving DecidableEq

/-- What a schema file holds. -/
structure Document where
  config : SortedMap KeyDecl
  invariants : List InvariantEntry
  environments : SortedMap ContractEntry
deriving DecidableEq

/-- Why a schema cannot be loaded or written. -/
inductive SchemaError where
  | unreadable (path cause : String)
  | notYaml (cause : String)
  | invalidKey (key : String)
  | reservedKey (key : String)
  | emptyEnum (key : String)
  | invalidInvariantName (name : String)
  | duplicateInvariant (name : String)
  | rule (name : String) (cause : Rule.RuleError)
  | unknownContractKey (environment key : String)
deriving DecidableEq, Repr

namespace SchemaError

/-- The text shown for an error. -/
def message : SchemaError → String
  | unreadable path cause => "failed to read schema " ++ path ++ ": " ++ cause
  | notYaml cause => "invalid schema YAML: " ++ cause
  | invalidKey key => "invalid config key '" ++ key ++ "': expected dot-separated identifiers"
  | reservedKey key => "config key '" ++ key ++ "' is reserved for the execution environment"
  | emptyEnum key => "enum key '" ++ key ++ "' declares no values"
  | invalidInvariantName name => "invalid invariant name '" ++ name ++ "': expected [A-Za-z0-9_-]+"
  | duplicateInvariant name => "duplicate invariant name '" ++ name ++ "'"
  | rule name cause => "invariant '" ++ name ++ "': " ++ cause.message
  | unknownContractKey environment key =>
      "environment '" ++ environment ++ "' constrains undeclared key '" ++ key ++ "'"

/-- The error and what it rests on, outermost first. -/
def chain : SchemaError → List String
  | unreadable path cause => [(unreadable path cause).message, cause]
  | notYaml cause => [(notYaml cause).message, cause]
  | rule name cause => [(rule name cause).message, cause.message]
  | error => [error.message]

end SchemaError

/-! ## Checking -/

/-- The fault of a key's declaration. -/
def keyFault? (key : String) (decl : KeyDecl) : Option SchemaError :=
  if !Text.isDottedPath key then some (.invalidKey key)
  else if key = Rule.executionPath then some (.reservedKey key)
  else if decl.kind = .enum && decl.values.isEmpty then some (.emptyEnum key)
  else none

/-- Reads invariants whose names differ from each other and from those `seen`. -/
def loadInvariants (declared : String → Bool) :
    List String → List InvariantEntry → Except SchemaError (List Invariant)
  | _, [] => .ok []
  | seen, entry :: rest =>
      if !Text.isPlainName entry.name then .error (.invalidInvariantName entry.name)
      else if seen.contains entry.name then .error (.duplicateInvariant entry.name)
      else
        match Rule.parseKnown declared entry.rule with
        | .error cause => .error (.rule entry.name cause)
        | .ok expr =>
            match loadInvariants declared (entry.name :: seen) rest with
            | .error error => .error error
            | .ok invariants => .ok (⟨entry.name, entry.rule, expr⟩ :: invariants)

/-- The contract of an environment. -/
def ContractEntry.toContract (name : String) (entry : ContractEntry) : Contract :=
  { name
    allow := entry.allow.mapValues fun _ values => .allow values.toList
    deny := entry.deny.mapValues fun _ values => .deny values.toList }

/-- The fault of a contract: its first key that is not declared. -/
def contractFault? (declared : String → Bool) (contract : Contract) : Option SchemaError :=
  (contract.keys.find? fun key => !declared key).map fun key =>
    .unknownContractKey contract.name key

namespace Schema

/-- The schema of a document, or the document's first fault. -/
def ofDocument (document : Document) : Except SchemaError Schema :=
  match document.config.entries.findSome? fun entry => keyFault? entry.1 entry.2 with
  | some error => .error error
  | none =>
      let declared := document.config.contains
      match loadInvariants declared [] document.invariants with
      | .error error => .error error
      | .ok invariants =>
          let environments := document.environments.mapValues fun name entry =>
            entry.toContract name
          match environments.entries.findSome? fun entry => contractFault? declared entry.2 with
          | some error => .error error
          | none => .ok ⟨document.config, invariants, environments⟩

/-! ## Writing -/

/-- A contract as it is written: every clause is a list. -/
def contractEntry (contract : Contract) : ContractEntry :=
  { allow := contract.allow.mapValues fun _ clause => .list clause.values
    deny := contract.deny.mapValues fun _ clause => .list clause.values }

/-- The document of a schema, with every rule in canonical form. -/
def toDocument (schema : Schema) : Document :=
  { config := schema.config
    invariants := schema.invariants.map fun invariant => ⟨invariant.name, invariant.expr.format⟩
    environments := schema.environments.mapValues fun _ contract => contractEntry contract }

/-- The fault of an invariant that refers to undeclared keys. -/
def referenceFault? (schema : Schema) (invariant : Invariant) : Option SchemaError :=
  match Rule.validateRefs schema.declares invariant.expr with
  | .ok () => none
  | .error cause => some (.rule invariant.name cause)

/-- The document of a schema whose invariants refer to declared keys only. -/
def toDocument? (schema : Schema) : Except SchemaError Document :=
  match schema.invariants.findSome? schema.referenceFault? with
  | some error => .error error
  | none => .ok schema.toDocument

end Schema

end ConfigGate
