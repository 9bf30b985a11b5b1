import ConfigGate.Decimal.Power
import ConfigGate.Json.Basic

/-!
# Records in JSON

A record is given as an object, in which unknown members are ignored, or as the array of its members
in their order. An array may end early when only members that may be left out are missing.

The readers in this file give nothing for a value of another kind.
-/

namespace ConfigGate.Json

/-- The members of a record: what is there under each name. -/
abbrev Record := String → Option Json

/-- The item that stands at the place of a name. -/
def itemAt (name : String) : List String → List Json → Option Json
  | known :: names, item :: items => if known = name then some item else itemAt name names items
  | _, _ => none

/-- Opens a record with these members, of which the first `required` must be there in an array. -/
def record? (names : List String) (required : Nat) : Json → Option Record
  | .object members => some fun name => lookupEntry name members
  | .array items =>
      if required ≤ items.length && items.length ≤ names.length then
        some fun name => itemAt name names items
      else none
  | _ => none

namespace Record

/-- Reads a member that must be there. -/
def field {α : Type} (record : Record) (name : String) (read : Json → Option α) : Option α :=
  (record name).bind read

/-- Reads a member that may be left out but not be null. -/
def fieldOr {α : Type} (record : Record) (name : String) (fallback : α)
    (read : Json → Option α) : Option α :=
  match record name with
  | none => some fallback
  | some value => read value

/-- Reads a member that may be left out or null. -/
def field? {α : Type} (record : Record) (name : String) (read : Json → Option α) :
    Option (Option α) :=
  match record name with
  | none | some .null => some none
  | some value => (read value).map some

end Record

/-- The number of a count of at most 32 bits. -/
def count? : Json → Option UInt32
  | .int value => Decimal.count32? value
  | _ => none

/-- The word of a choice without content. -/
def word? : Json → Option String
  | .text word => some word
  | .object [(word, .null)] => some word
  | _ => none

/-- The items of an array, each read. -/
def list? {α : Type} (read : Json → Option α) (value : Json) : Option (List α) :=
  value.items?.bind fun items => items.mapM read

end ConfigGate.Json
