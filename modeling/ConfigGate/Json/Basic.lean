import ConfigGate.SortedMap
import ConfigGate.Decimal.Binary64

/-!
# JSON values

The values of JSON. A number is an integer of at most 64 bits or a double-precision number, and the
two are told apart by how they are written. An object is its members in the order in which they are
written; objects that were read have their members in ascending order, each name once.
-/

namespace ConfigGate

/-- A JSON value. -/
inductive Json where
  | null
  | bool (value : Bool)
  | int (value : Int)
  | float (value : Decimal.Binary64)
  | text (value : String)
  | array (items : List Json)
  | object (members : List (String × Json))
deriving Inhabited

namespace Json

/-- An object with sorted members; of a repeated name the last member counts. -/
def sortedObject (members : List (String × Json)) : Json :=
  .object (SortedMap.ofList members).entries

/-- The array of some texts. -/
def texts (values : List String) : Json := .array (values.map .text)

/-- The member `name` of an object. -/
def member? (name : String) : Json → Option Json
  | .object members => lookupEntry name members
  | _ => none

/-- The text of a text value. -/
def text? : Json → Option String
  | .text value => some value
  | _ => none

/-- The integer of an integer value. -/
def int? : Json → Option Int
  | .int value => some value
  | _ => none

/-- The truth value of a boolean. -/
def bool? : Json → Option Bool
  | .bool value => some value
  | _ => none

/-- The items of an array. -/
def items? : Json → Option (List Json)
  | .array items => some items
  | _ => none

/-- The members of an object. -/
def members? : Json → Option (List (String × Json))
  | .object members => some members
  | _ => none

mutual

/-- Whether two values are the same, member by member. -/
def same : Json → Json → Bool
  | .null, .null => true
  | .bool left, .bool right => left == right
  | .int left, .int right => left == right
  | .float left, .float right => left == right
  | .text left, .text right => left == right
  | .array left, .array right => sameItems left right
  | .object left, .object right => sameMembers left right
  | _, _ => false

/-- Whether two lists of values are the same. -/
def sameItems : List Json → List Json → Bool
  | [], [] => true
  | left :: lefts, right :: rights => same left right && sameItems lefts rights
  | _, _ => false

/-- Whether two lists of members are the same. -/
def sameMembers : List (String × Json) → List (String × Json) → Bool
  | [], [] => true
  | (name, left) :: lefts, (name', right) :: rights =>
      name == name' && same left right && sameMembers lefts rights
  | _, _ => false

end

instance : BEq Json := ⟨same⟩

end Json

end ConfigGate
