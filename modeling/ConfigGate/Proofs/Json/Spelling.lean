import ConfigGate.Json.Writer
import ConfigGate.Proofs.Digits
import ConfigGate.Proofs.Json.Values

/-!
# How values are spelled

Both writers spell a value in the same way but for the white space before items and members, behind
colons and before closing brackets. `Spells` leaves that white space open. Floating-point numbers
have no spelling here.

Results: `spells_compact`, `spells_pretty`: both writers spell the value they are given.
-/

namespace ConfigGate.Json

/-- White space between tokens. -/
def Spaces (cs : List Char) : Prop := ∀ c ∈ cs, isSpace c = true

theorem spaces_nil : Spaces [] := fun _ member => absurd member List.not_mem_nil

mutual

/-- `Spells value cs`: the characters `cs` spell the value. -/
inductive Spells : Json → List Char → Prop
  | null : Spells .null "null".toList
  | bool (value : Bool) : Spells (.bool value) (if value then "true" else "false").toList
  | int (value : Int) : Spells (.int value) (toString value).toList
  | text (value : String) : Spells (.text value) (quoteChars value.toList)
  | noItems : Spells (.array []) ['[', ']']
  | array {items : List Json} {cs : List Char} : SpellsItems items cs →
      Spells (.array items) ('[' :: (cs ++ [']']))
  | noMembers : Spells (.object []) ['\x7b', '\x7d']
  | object {members : List (String × Json)} {cs : List Char} : SpellsMembers members cs →
      Spells (.object members) ('\x7b' :: (cs ++ ['\x7d']))

/-- `SpellsItems items cs`: the characters `cs` spell the items of an array that is not empty. -/
inductive SpellsItems : List Json → List Char → Prop
  | last {item : Json} {before cs after : List Char} : Spaces before → Spells item cs →
      Spaces after → SpellsItems [item] (before ++ (cs ++ after))
  | more {item : Json} {rest : List Json} {before cs others : List Char} : Spaces before →
      Spells item cs → SpellsItems rest others →
      SpellsItems (item :: rest) (before ++ (cs ++ ',' :: others))

/-- `SpellsMembers members cs`: the characters `cs` spell the members of an object that is not
empty. -/
inductive SpellsMembers : List (String × Json) → List Char → Prop
  | last {name : String} {value : Json} {before gap cs after : List Char} : Spaces before →
      Spaces gap → Spells value cs → Spaces after →
      SpellsMembers [(name, value)]
        (before ++ (quoteChars name.toList ++ ':' :: (gap ++ (cs ++ after))))
  | more {name : String} {value : Json} {rest : List (String × Json)}
      {before gap cs others : List Char} : Spaces before → Spaces gap → Spells value cs →
      SpellsMembers rest others →
      SpellsMembers ((name, value) :: rest)
        (before ++ (quoteChars name.toList ++ ':' :: (gap ++ (cs ++ ',' :: others))))

end

theorem toList_quote (value : String) : (quote value).toList = quoteChars value.toList := by
  rw [quote, String.toList_ofList]

/-! ## Compact texts -/

theorem spellsItems_compactItems {items : List Json} (nonempty : items ≠ [])
    (spells : ∀ item ∈ items, Spells item item.compact.toList) :
    SpellsItems items (compactItems items).toList := by
  induction items with
  | nil => exact absurd rfl nonempty
  | cons item rest ih =>
      have here := spells item List.mem_cons_self
      cases rest with
      | nil =>
          rw [compactItems, ← List.append_nil item.compact.toList]
          exact .last spaces_nil here spaces_nil
      | cons next more =>
          have others := ih (List.cons_ne_nil next more) fun other member =>
            spells other (List.mem_cons_of_mem item member)
          have text : (compactItems (item :: next :: more)).toList =
              item.compact.toList ++ ',' :: (compactItems (next :: more)).toList := by
            simp [compactItems]
          rw [text]
          exact .more spaces_nil here others

theorem spellsMembers_compactMembers {members : List (String × Json)} (nonempty : members ≠ [])
    (spells : ∀ member ∈ members, Spells member.2 member.2.compact.toList) :
    SpellsMembers members (compactMembers members).toList := by
  induction members with
  | nil => exact absurd rfl nonempty
  | cons member rest ih =>
      obtain ⟨name, value⟩ := member
      have here := spells (name, value) List.mem_cons_self
      cases rest with
      | nil =>
          have text : (compactMembers [(name, value)]).toList =
              quoteChars name.toList ++ ':' :: (value.compact.toList ++ []) := by
            simp [compactMembers, toList_quote]
          rw [text]
          exact .last spaces_nil spaces_nil here spaces_nil
      | cons next more =>
          have others := ih (List.cons_ne_nil next more) fun other member =>
            spells other (List.mem_cons_of_mem (name, value) member)
          have text : (compactMembers ((name, value) :: next :: more)).toList =
              quoteChars name.toList ++
                ':' :: (value.compact.toList ++ ',' :: (compactMembers (next :: more)).toList) := by
            simp [compactMembers, toList_quote]
          rw [text]
          exact .more spaces_nil spaces_nil here others

/-- The compact text spells the value. -/
theorem spells_compact {depth : Nat} {value : Json} (legible : value.Legible depth) :
    Spells value value.compact.toList := by
  induction legible with
  | null => exact .null
  | bool value => rw [compact]; exact .bool value
  | @int _ value _ => rw [compact]; exact .int value
  | text value => rw [compact, toList_quote]; exact .text value
  | @array _ items _ ih =>
      cases items with
      | nil => exact .noItems
      | cons item rest =>
          have text : (compact (.array (item :: rest))).toList =
              '[' :: ((compactItems (item :: rest)).toList ++ [']']) := by
            simp [compact]
          rw [text]
          exact .array (spellsItems_compactItems (List.cons_ne_nil item rest) ih)
  | @object _ members _ ih =>
      cases members with
      | nil => exact .noMembers
      | cons member rest =>
          have text : (compact (.object (member :: rest))).toList =
              '\x7b' :: ((compactMembers (member :: rest)).toList ++ ['\x7d']) := by
            simp [compact]
          rw [text]
          exact .object (spellsMembers_compactMembers (List.cons_ne_nil member rest) ih)

/-! ## Indented texts -/

theorem spaces_newLine (indent : Nat) : Spaces (newLine indent).toList := by
  have text : (newLine indent).toList = '\n' :: List.replicate (2 * indent) ' ' := by
    rw [newLine, String.toList_append, Decimal.toList_pushn]
    rfl
  intro c member
  rw [text] at member
  rcases List.mem_cons.mp member with rfl | blank
  · rfl
  · rw [List.eq_of_mem_replicate blank]
    rfl

theorem spellsItems_prettyItems {indent : Nat} {items : List Json} {after : List Char}
    (nonempty : items ≠ []) (spells : ∀ item ∈ items, Spells item (prettyAt indent item).toList)
    (spaces : Spaces after) : SpellsItems items ((prettyItems indent items).toList ++ after) := by
  induction items with
  | nil => exact absurd rfl nonempty
  | cons item rest ih =>
      have here := spells item List.mem_cons_self
      cases rest with
      | nil =>
          rw [prettyItems, String.toList_append, List.append_assoc]
          exact .last (spaces_newLine indent) here spaces
      | cons next more =>
          have others := ih (List.cons_ne_nil next more) fun other member =>
            spells other (List.mem_cons_of_mem item member)
          have text : (prettyItems indent (item :: next :: more)).toList ++ after =
              (newLine indent).toList ++ ((prettyAt indent item).toList ++
                ',' :: ((prettyItems indent (next :: more)).toList ++ after)) := by
            simp [prettyItems]
          rw [text]
          exact .more (spaces_newLine indent) here others

theorem spellsMembers_prettyMembers {indent : Nat} {members : List (String × Json)}
    {after : List Char} (nonempty : members ≠ [])
    (spells : ∀ member ∈ members, Spells member.2 (prettyAt indent member.2).toList)
    (spaces : Spaces after) :
    SpellsMembers members ((prettyMembers indent members).toList ++ after) := by
  have blank : Spaces [' '] := by
    intro c member
    rw [List.mem_singleton.mp member]
    rfl
  induction members with
  | nil => exact absurd rfl nonempty
  | cons member rest ih =>
      obtain ⟨name, value⟩ := member
      have here := spells (name, value) List.mem_cons_self
      cases rest with
      | nil =>
          have text : (prettyMembers indent [(name, value)]).toList ++ after =
              (newLine indent).toList ++ (quoteChars name.toList ++
                ':' :: ([' '] ++ ((prettyAt indent value).toList ++ after))) := by
            simp [prettyMembers, toList_quote]
          rw [text]
          exact .last (spaces_newLine indent) blank here spaces
      | cons next more =>
          have others := ih (List.cons_ne_nil next more) fun other member =>
            spells other (List.mem_cons_of_mem (name, value) member)
          have text : (prettyMembers indent ((name, value) :: next :: more)).toList ++ after =
              (newLine indent).toList ++ (quoteChars name.toList ++
                ':' :: ([' '] ++ ((prettyAt indent value).toList ++
                  ',' :: ((prettyMembers indent (next :: more)).toList ++ after)))) := by
            simp [prettyMembers, toList_quote]
          rw [text]
          exact .more (spaces_newLine indent) blank here others

/-- The indented text spells the value, at whatever indentation. -/
theorem spells_prettyAt {depth : Nat} {value : Json} (legible : value.Legible depth)
    (indent : Nat) : Spells value (prettyAt indent value).toList := by
  induction legible generalizing indent with
  | null => rw [prettyAt]; exact .null
  | bool value => rw [prettyAt]; exact .bool value
  | @int _ value _ => rw [prettyAt]; exact .int value
  | text value => rw [prettyAt, toList_quote]; exact .text value
  | @array _ items _ ih =>
      cases items with
      | nil => rw [prettyAt]; exact .noItems
      | cons item rest =>
          have text : (prettyAt indent (.array (item :: rest))).toList =
              '[' :: (((prettyItems (indent + 1) (item :: rest)).toList ++
                (newLine indent).toList) ++ [']']) := by
            simp [prettyAt]
          rw [text]
          exact .array (spellsItems_prettyItems (List.cons_ne_nil item rest)
            (fun other member => ih other member (indent + 1)) (spaces_newLine indent))
  | @object _ members _ ih =>
      cases members with
      | nil => rw [prettyAt]; exact .noMembers
      | cons member rest =>
          have text : (prettyAt indent (.object (member :: rest))).toList =
              '\x7b' :: (((prettyMembers (indent + 1) (member :: rest)).toList ++
                (newLine indent).toList) ++ ['\x7d']) := by
            simp [prettyAt]
          rw [text]
          exact .object (spellsMembers_prettyMembers (List.cons_ne_nil member rest)
            (fun other member => ih other member (indent + 1)) (spaces_newLine indent))

/-- The indented text spells the value. -/
theorem spells_pretty {depth : Nat} {value : Json} (legible : value.Legible depth) :
    Spells value value.pretty.toList :=
  spells_prettyAt legible 0

end ConfigGate.Json
