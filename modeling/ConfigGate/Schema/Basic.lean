import ConfigGate.Invariant
import ConfigGate.Contract

/-!
# Schemas

A schema declares the configuration keys of a program, the invariants that relate them, and one
contract per environment.
-/

namespace ConfigGate

/-- What values a key takes. -/
inductive KeyKind where
  | string
  | enum
deriving DecidableEq, Repr

/-- The word for a kind of key. -/
def KeyKind.word : KeyKind → String
  | string => "string"
  | enum => "enum"

/-- The kind of key a word stands for. -/
def KeyKind.ofWord? : String → Option KeyKind
  | "string" => some string
  | "enum" => some enum
  | _ => none

/-- The declaration of one key. -/
structure KeyDecl where
  kind : KeyKind
  required : Bool
  values : List String
deriving DecidableEq, Repr

/-- Declared keys, invariants in their order of declaration, and contracts by environment. -/
structure Schema where
  config : SortedMap KeyDecl
  invariants : List Invariant
  environments : SortedMap Contract
deriving DecidableEq

namespace Schema

/-- The schema that declares nothing. -/
def empty : Schema := ⟨.empty, [], .empty⟩

/-- Whether a key is declared. -/
def declares (schema : Schema) (key : String) : Bool := schema.config.contains key

/-- The contract of an environment. -/
def contract? (schema : Schema) (environment : String) : Option Contract :=
  schema.environments.get? environment

/-- The first invariant with this name. -/
def invariant? (schema : Schema) (name : String) : Option Invariant :=
  schema.invariants.find? fun invariant => invariant.name == name

end Schema

end ConfigGate
