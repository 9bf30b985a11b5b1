/-!
# The first of several faults

A check that goes through what it is given and stops at the first fault has to be told which fault
is the first. Faults lie at places, places stand in an order, and the first fault is the one at the
place in front of all others that are at fault.

Results:
1. `FaultOrder.decides`, `FaultOrder.determines`: what never fails but with the first fault, and
   never succeeds where there is one, fails exactly with the first fault and succeeds exactly where
   there is none;
2. `first_of_findSome?`, `first_of_find?`: a search through an ordered list finds what comes first.
-/

namespace ConfigGate

variable {π : Type u} {ε : Type v} {before : π → π → Prop} {faulty : π → ε → Prop}

/-- `FirstFault before faulty error`: the error is the fault at some place, and all other places at
fault are behind it. -/
def FirstFault (before : π → π → Prop) (faulty : π → ε → Prop) (error : ε) : Prop :=
  ∃ place, faulty place error ∧
    ∀ other another, faulty other another → other = place ∨ before place other

/-- Of two places only one is in front of the other, and a place has one fault at most. -/
structure FaultOrder (before : π → π → Prop) (faulty : π → ε → Prop) : Prop where
  asymm : ∀ {left right}, before left right → ¬before right left
  single : ∀ {place left right}, faulty place left → faulty place right → left = right

namespace FaultOrder

variable (order : FaultOrder before faulty)
include order

theorem unique {left right : ε} (first : FirstFault before faulty left)
    (second : FirstFault before faulty right) : left = right := by
  obtain ⟨place, here, least⟩ := first
  obtain ⟨other, there, otherLeast⟩ := second
  rcases least other right there with rfl | below
  · exact order.single here there
  · rcases otherLeast place left here with rfl | above
    · exact order.single here there
    · exact absurd above (order.asymm below)

/-- A result that is the first fault whenever it is an error, and that is none only where nothing is
at fault, is the first fault exactly when there is one. -/
theorem decides {α : Type w} {result : Except ε α}
    (sound : ∀ {error}, result = .error error → FirstFault before faulty error)
    (clean : ∀ {value}, result = .ok value → ∀ place error, ¬faulty place error) :
    ((∃ value, result = .ok value) ↔ ∀ place error, ¬faulty place error) ∧
      ∀ error, result = .error error ↔ FirstFault before faulty error := by
  cases result with
  | ok value =>
      refine ⟨⟨fun _ => clean rfl, fun _ => ⟨value, rfl⟩⟩, fun error => ⟨nofun, ?_⟩⟩
      rintro ⟨place, here, -⟩
      exact absurd here (clean rfl place error)
  | error found =>
      obtain ⟨place, here, least⟩ := sound rfl
      refine ⟨⟨nofun, fun none => absurd here (none place found)⟩, fun error => ⟨sound, ?_⟩⟩
      exact fun first => congrArg _ (order.unique ⟨place, here, least⟩ first)

/-- The same where the results are known: of what is valid there is one description, and that is
the result. -/
theorem determines {α : Type w} {result : Except ε α} {valid : Prop} {describes : α → Prop}
    (sound : ∀ {error}, result = .error error → FirstFault before faulty error)
    (clean : ∀ {value}, result = .ok value → ∀ place error, ¬faulty place error)
    (valid_iff : valid ↔ ∀ place error, ¬faulty place error)
    (described : ∀ {value}, result = .ok value → describes value)
    (unique : ∀ {left right}, describes left → describes right → left = right) :
    (∀ value, result = .ok value ↔ valid ∧ describes value) ∧
      ((∃ value, result = .ok value) ↔ valid) ∧
      ∀ error, result = .error error ↔ FirstFault before faulty error := by
  obtain ⟨accepts, refuses⟩ := order.decides sound clean
  rw [← valid_iff] at accepts
  refine ⟨fun value => ⟨fun found => ⟨accepts.mp ⟨value, found⟩, described found⟩, ?_⟩, accepts,
    refuses⟩
  rintro ⟨isValid, describesValue⟩
  obtain ⟨other, found⟩ := accepts.mpr isValid
  rw [found, unique (described found) describesValue]

end FaultOrder

/-- A search through a list that stands in some order finds what comes first in that order. -/
theorem first_of_findSome? {α : Type u} {β : Type v} {order : α → α → Prop} {items : List α}
    (ordered : items.Pairwise order) {find : α → Option β} {result : β}
    (found : items.findSome? find = some result) :
    ∃ item ∈ items, find item = some result ∧
      ∀ other ∈ items, find other ≠ none → other = item ∨ order item other := by
  obtain ⟨front, item, back, rfl, here, none⟩ := List.findSome?_eq_some_iff.mp found
  obtain ⟨-, behind, -⟩ := List.pairwise_append.mp ordered
  refine ⟨item, List.mem_append_right _ List.mem_cons_self, here, fun other member some => ?_⟩
  rcases List.mem_append.mp member with inFront | inBack
  · exact absurd (none other inFront) some
  · rcases List.mem_cons.mp inBack with same | after
    · exact .inl same
    · exact .inr ((List.pairwise_cons.mp behind).1 other after)

/-- The same of a search that gives the item itself. -/
theorem first_of_find? {α : Type u} {order : α → α → Prop} {items : List α}
    (ordered : items.Pairwise order) {test : α → Bool} {item : α}
    (found : items.find? test = some item) :
    item ∈ items ∧ test item = true ∧
      ∀ other ∈ items, test other = true → other = item ∨ order item other := by
  rw [List.find?_eq_findSome?_guard] at found
  obtain ⟨first, member, here, least⟩ := first_of_findSome? ordered found
  obtain ⟨rfl, passes⟩ := Option.guard_eq_some_iff.mp here
  refine ⟨member, passes, fun other inItems passesToo => least other inItems ?_⟩
  rw [Option.guard_eq_some_iff.mpr ⟨rfl, passesToo⟩]
  exact Option.some_ne_none other

end ConfigGate
