import ConfigGate.Json.Reader

/-!
# What can be written and what is read

A value that was read is in a form of its own: nested no deeper than the reader allows, with
integers of 64 bits, and with the members of every object in ascending order (`Stored`). A value
that can be read back from its text need not be in that form (`Legible`): its members may stand in
any order, and reading puts them in order (`sorted`). What is stored stays as it is.

Results:
1. `Stored.sorted_eq`: a value that was read is in order;
2. `Stored.legible`: without floating-point numbers it can be read back.
-/

namespace ConfigGate.Json

/-- The integers that have 64 bits, with or without a sign. -/
def FitsWord (value : Int) : Prop :=
  -(Decimal.twoTo 63 : Int) ≤ value ∧ value < (Decimal.twoTo 64 : Int)

instance (value : Int) : Decidable (FitsWord value) := inferInstanceAs (Decidable (_ ∧ _))

/-- No number in the value is a floating-point number. -/
inductive FloatFree : Json → Prop
  | null : FloatFree .null
  | bool (value : Bool) : FloatFree (.bool value)
  | int (value : Int) : FloatFree (.int value)
  | text (value : String) : FloatFree (.text value)
  | array {items : List Json} : (∀ item ∈ items, FloatFree item) → FloatFree (.array items)
  | object {members : List (String × Json)} : (∀ member ∈ members, FloatFree member.2) →
      FloatFree (.object members)

/-- `value.Stored depth`: the value is as the reader gives it, with at most `depth` levels of
nesting. -/
inductive Stored : Nat → Json → Prop
  | null {depth : Nat} : Stored depth .null
  | bool {depth : Nat} (value : Bool) : Stored depth (.bool value)
  | int {depth : Nat} {value : Int} : FitsWord value → Stored depth (.int value)
  | float {depth : Nat} (value : Decimal.Binary64) : Stored depth (.float value)
  | text {depth : Nat} (value : String) : Stored depth (.text value)
  | array {depth : Nat} {items : List Json} : (∀ item ∈ items, Stored depth item) →
      Stored (depth + 1) (.array items)
  | object {depth : Nat} {members : SortedMap Json} :
      (∀ member ∈ members.entries, Stored depth member.2) →
      Stored (depth + 1) (.object members.entries)

/-- `value.Legible depth`: the text of the value can be read back with `depth` levels of nesting. -/
inductive Legible : Nat → Json → Prop
  | null {depth : Nat} : Legible depth .null
  | bool {depth : Nat} (value : Bool) : Legible depth (.bool value)
  | int {depth : Nat} {value : Int} : FitsWord value → Legible depth (.int value)
  | text {depth : Nat} (value : String) : Legible depth (.text value)
  | array {depth : Nat} {items : List Json} : (∀ item ∈ items, Legible depth item) →
      Legible (depth + 1) (.array items)
  | object {depth : Nat} {members : List (String × Json)} :
      (∀ member ∈ members, Legible depth member.2) → Legible (depth + 1) (.object members)

mutual

/-- The value with the members of every object in order; of a repeated name the last counts. -/
def sorted : Json → Json
  | .null => .null
  | .bool value => .bool value
  | .int value => .int value
  | .float value => .float value
  | .text value => .text value
  | .array items => .array (sortedItems items)
  | .object members => sortedObject (sortedMembers members)

/-- The items, each in order. -/
def sortedItems : List Json → List Json
  | [] => []
  | item :: rest => sorted item :: sortedItems rest

/-- The members as they stand, the value of each in order. -/
def sortedMembers : List (String × Json) → List (String × Json)
  | [] => []
  | (name, value) :: rest => (name, sorted value) :: sortedMembers rest

end

theorem sortedItems_eq_map (items : List Json) : sortedItems items = items.map sorted := by
  induction items with
  | nil => rfl
  | cons item rest ih => rw [sortedItems, ih, List.map_cons]

theorem sortedMembers_eq_map (members : List (String × Json)) :
    sortedMembers members = members.map fun member => (member.1, member.2.sorted) := by
  induction members with
  | nil => rfl
  | cons member rest ih => rw [sortedMembers, ih, List.map_cons]

@[simp] theorem sorted_text (value : String) : sorted (.text value) = .text value := by
  rw [sorted]

@[simp] theorem sorted_bool (value : Bool) : sorted (.bool value) = .bool value := by
  rw [sorted]

@[simp] theorem sorted_int (value : Int) : sorted (.int value) = .int value := by
  rw [sorted]

@[simp] theorem sorted_array (items : List Json) :
    sorted (.array items) = .array (items.map sorted) := by
  rw [sorted, sortedItems_eq_map]

theorem sorted_object (members : List (String × Json)) :
    sorted (.object members) =
      sortedObject (members.map fun member => (member.1, member.2.sorted)) := by
  rw [sorted, sortedMembers_eq_map]

/-! ## Values that were read -/

/-- A value that was read is in order. -/
theorem Stored.sorted_eq {depth : Nat} {value : Json} (stored : value.Stored depth) :
    value.sorted = value := by
  induction stored with
  | null => rw [sorted]
  | bool value => rw [sorted]
  | int _ => rw [sorted]
  | float value => rw [sorted]
  | text value => rw [sorted]
  | array _ ih => rw [sorted_array, List.map_congr_left (g := id) ih, List.map_id]
  | @object depth members _ ih =>
      have values : (members.entries.map fun member => (member.1, member.2.sorted)) =
          members.entries := by
        rw [List.map_congr_left (g := id) fun member inside => by rw [ih member inside]; rfl,
          List.map_id]
      rw [sorted_object, values, sortedObject, SortedMap.ofList_entries]

theorem Stored.legible {depth : Nat} {value : Json} (stored : value.Stored depth)
    (free : value.FloatFree) : value.Legible depth := by
  induction stored with
  | null => exact .null
  | bool value => exact .bool value
  | int fits => exact .int fits
  | float value => exact absurd free nofun
  | text value => exact .text value
  | array _ ih =>
      cases free with
      | array itemsFree => exact .array fun item inside => ih item inside (itemsFree item inside)
  | object _ ih =>
      cases free with
      | object membersFree =>
          exact .object fun member inside => ih member inside (membersFree member inside)

end ConfigGate.Json
