import ConfigGate.Json.Basic

/-!
# Places in JSON values

A place in a value is told by the steps that lead to it, each to an item of an array or to a member
of an object. What stands there is known by its label, which says all about a value but what is
inside it: the names of the members of an object, or the number of items of an array. A value is
known by the labels at all its places.

Results:
1. `childInduction`: what holds of a value if it holds of those inside it, holds of all values;
2. `isSome_child?`: the label tells which steps go on from a value;
3. `eq_of_labelAt?`: values with the same labels everywhere are the same.
-/

namespace ConfigGate.Json

/-- A step into a value: to the item at a position of an array, or to the member at a position of an
object, with its name. -/
inductive Step where
  | item (position : Nat)
  | member (position : Nat) (name : String)
deriving DecidableEq, Repr

/-- The name of the member that a step leads to. An item has none. -/
def Step.name? : Step → Option String
  | item _ => none
  | member _ name => some name

/-- What a value is, apart from the values inside it. -/
inductive Label where
  | null
  | bool (value : Bool)
  | int (value : Int)
  | float (value : Decimal.Binary64)
  | text (value : String)
  | array (size : Nat)
  | object (names : List String)

/-- The label of a value. -/
def label : Json → Label
  | .null => .null
  | .bool value => .bool value
  | .int value => .int value
  | .float value => .float value
  | .text value => .text value
  | .array items => .array items.length
  | .object members => .object (members.map (·.1))

/-- The value a step leads to, if the value has the item or the member. -/
def child? : Step → Json → Option Json
  | .item position, .array items => items[position]?
  | .member position name, .object members =>
      members[position]?.bind fun member => if member.1 = name then some member.2 else none
  | _, _ => none

/-- The value at a place. -/
def at? : List Step → Json → Option Json
  | [], value => some value
  | step :: rest, value => (value.child? step).bind (at? rest)

/-- The label at a place. -/
def labelAt? (path : List Step) (value : Json) : Option Label := (value.at? path).map label

variable {value left right child : Json} {step : Step} {path : List Step}

theorem labelAt?_cons (step : Step) (path : List Step) (value : Json) :
    value.labelAt? (step :: path) = (value.child? step).bind (labelAt? path) := by
  rw [labelAt?, at?]
  cases value.child? step <;> rfl

theorem at?_append (front back : List Step) (value : Json) :
    value.at? (front ++ back) = (value.at? front).bind (at? back) := by
  induction front generalizing value with
  | nil => rfl
  | cons step rest ih =>
      rw [List.cons_append, at?, at?]
      cases value.child? step with
      | none => rfl
      | some child => exact ih child

theorem at?_singleton (step : Step) (value : Json) : value.at? [step] = value.child? step := by
  rw [at?]
  cases value.child? step <;> rfl

theorem isSome_labelAt? (path : List Step) (value : Json) :
    (value.labelAt? path).isSome = (value.at? path).isSome :=
  Option.isSome_map

theorem child?_member_eq_some_iff {members : List (String × Json)} {position : Nat}
    {name : String} :
    (object members).child? (.member position name) = some child ↔
      members[position]? = some (name, child) := by
  rw [child?, Option.bind_eq_some_iff]
  constructor
  · rintro ⟨⟨other, value⟩, found, named⟩
    split at named
    · rename_i same
      obtain rfl := Option.some.inj named
      exact same ▸ found
    · exact absurd named nofun
  · intro found
    exact ⟨(name, child), found, if_pos rfl⟩

/-- Where the values of members are changed by their names, a step finds the changed value. -/
theorem child?_object_map (change : String → Json → Json) (members : List (String × Json))
    (position : Nat) (name : String) :
    (object (members.map fun member => (member.1, change member.1 member.2))).child?
        (.member position name) =
      ((object members).child? (.member position name)).map (change name) := by
  rw [child?, child?, List.getElem?_map]
  cases members[position]? with
  | none => rfl
  | some member =>
      by_cases same : member.1 = name
      · simp [same]
      · simp [same]

theorem label_object_map (change : String → Json → Json) (members : List (String × Json)) :
    (object (members.map fun member => (member.1, change member.1 member.2))).label =
      (object members).label := by
  rw [label, label, List.map_map]
  rfl

/-! ## Values inside a value -/

/-- What is inside a value is smaller. -/
theorem sizeOf_lt_of_child? (found : value.child? step = some child) :
    sizeOf child < sizeOf value := by
  cases value with
  | array items =>
      cases step with
      | item position =>
          have smaller := List.sizeOf_lt_of_mem (List.mem_of_getElem? found)
          simp only [array.sizeOf_spec]
          omega
      | member position name => exact absurd found nofun
  | object members =>
      cases step with
      | item position => exact absurd found nofun
      | member position name =>
          have smaller := List.sizeOf_lt_of_mem
            (List.mem_of_getElem? (child?_member_eq_some_iff.mp found))
          simp only [object.sizeOf_spec, Prod.mk.sizeOf_spec] at smaller ⊢
          omega
  | null | bool | int | float | text => cases step <;> exact absurd found nofun

/-- Induction along the steps into a value. -/
@[elab_as_elim]
theorem childInduction {motive : Json → Prop}
    (inside : ∀ value, (∀ step child, value.child? step = some child → motive child) →
      motive value) (value : Json) : motive value :=
  inside value fun _ child _ => childInduction inside child
termination_by sizeOf value
decreasing_by exact sizeOf_lt_of_child? ‹_›

/-! ## Labels -/

/-- Whether a value with this label has the item or the member that a step leads to. -/
def Label.has : Step → Label → Bool
  | .item position, .array size => decide (position < size)
  | .member position name, .object names => names[position]? == some name
  | _, _ => false

/-- The label tells which steps go on from a value. -/
theorem isSome_child? (step : Step) (value : Json) :
    (value.child? step).isSome = value.label.has step := by
  cases value with
  | array items =>
      cases step with
      | item position =>
          rw [label, Label.has, child?, Bool.eq_iff_iff, Option.isSome_iff_ne_none,
            decide_eq_true_eq, ne_eq, List.getElem?_eq_none_iff, Nat.not_le]
      | member position name => rfl
  | object members =>
      cases step with
      | item position => rfl
      | member position name =>
          rw [label, Label.has, child?, List.getElem?_map]
          cases members[position]? with
          | none => rfl
          | some member => by_cases same : member.1 = name <;> simp [same]
  | null | bool | int | float | text => cases step <;> rfl

/-- Values of one label with the same values inside are the same. -/
theorem eq_of_child? (same : left.label = right.label)
    (inside : ∀ step, left.child? step = right.child? step) : left = right := by
  cases left with
  | null =>
      cases right with
      | null => rfl
      | _ => exact absurd same nofun
  | bool truth =>
      cases right with
      | bool other => exact congrArg bool (Label.bool.inj same)
      | _ => exact absurd same nofun
  | int number =>
      cases right with
      | int other => exact congrArg int (Label.int.inj same)
      | _ => exact absurd same nofun
  | float number =>
      cases right with
      | float other => exact congrArg float (Label.float.inj same)
      | _ => exact absurd same nofun
  | text letters =>
      cases right with
      | text other => exact congrArg text (Label.text.inj same)
      | _ => exact absurd same nofun
  | array items =>
      cases right with
      | array others =>
          exact congrArg array (List.ext_getElem? fun position => inside (.item position))
      | _ => exact absurd same nofun
  | object members =>
      cases right with
      | object others =>
          refine congrArg object (List.ext_getElem? fun position => Option.ext ?_)
          rintro ⟨name, child⟩
          rw [← child?_member_eq_some_iff, ← child?_member_eq_some_iff, inside]
      | _ => exact absurd same nofun

/-- Values with the same labels everywhere are the same. -/
theorem eq_of_labelAt? (same : ∀ path, left.labelAt? path = right.labelAt? path) :
    left = right := by
  induction left using childInduction generalizing right with
  | inside left ih =>
      have rootSame : left.label = right.label := Option.some.inj (same [])
      refine eq_of_child? rootSame fun step => ?_
      have present : (left.child? step).isSome = (right.child? step).isSome := by
        rw [isSome_child?, isSome_child?, rootSame]
      cases leftFound : left.child? step with
      | none =>
          rw [leftFound, Option.isSome_none, eq_comm, Option.isSome_eq_false_iff,
            Option.isNone_iff_eq_none] at present
          exact present.symm
      | some leftChild =>
          rw [leftFound, Option.isSome_some, eq_comm, Option.isSome_iff_exists] at present
          obtain ⟨rightChild, rightFound⟩ := present
          refine rightFound ▸ congrArg some (ih step leftChild leftFound fun path => ?_)
          have below := same (step :: path)
          rw [labelAt?_cons, labelAt?_cons, leftFound, rightFound] at below
          exact below

end ConfigGate.Json
