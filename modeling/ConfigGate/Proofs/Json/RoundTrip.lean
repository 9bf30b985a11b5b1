import ConfigGate.Proofs.Json.Spelling
import ConfigGate.Proofs.Json.Tokens

/-!
# Values read back

The reader takes the spelling of a legible value off the front of a text, and gives the value in
order. It has a step for every character, and no value takes more.

Results:
1. `readsBack_of_legible`: a legible value is read back, whatever its spelling;
2. `read_pretty`, `read_compact`: what is written is read back.
-/

namespace ConfigGate.Json

/-! ## White space -/

theorem skipSpace_spaces {before : List Char} (spaces : Spaces before) (cs : List Char) :
    skipSpace (before ++ cs) = skipSpace cs := by
  rw [skipSpace, skipSpace, List.dropWhile_append_of_pos spaces]

theorem readValue_spaces {before : List Char} (spaces : Spaces before) (fuel depth : Nat)
    (cs : List Char) : readValue fuel depth (before ++ cs) = readValue fuel depth cs := by
  cases fuel with
  | zero => rw [readValue, readValue]
  | succ fuel => rw [readValue, readValue, skipSpace_spaces spaces]

/-! ## Where spellings begin and end -/

/-- What is spelled begins with a character that is neither white space nor a closing bracket. -/
theorem spells_first {value : Json} {cs : List Char} (spells : Spells value cs) :
    ∃ c more, cs = c :: more ∧ isSpace c = false ∧ c ≠ ']' := by
  cases spells with
  | null => exact ⟨'n', _, rfl, by decide, by decide⟩
  | bool value => cases value <;> exact ⟨_, _, rfl, by decide, by decide⟩
  | int value =>
      rw [Decimal.toList_toString_int]
      split
      · obtain ⟨c, more, digits, digit, -⟩ := Decimal.toDigits_eq_cons value.toNat
        refine ⟨c, more, digits, isSpace_of_isDigit digit, ?_⟩
        rintro rfl
        exact absurd digit (by decide)
      · exact ⟨'-', _, rfl, by decide, by decide⟩
  | text value => exact ⟨'"', _, rfl, by decide, by decide⟩
  | noItems => exact ⟨'[', _, rfl, by decide, by decide⟩
  | array _ => exact ⟨'[', _, rfl, by decide, by decide⟩
  | noMembers => exact ⟨'\x7b', _, rfl, by decide, by decide⟩
  | object _ => exact ⟨'\x7b', _, rfl, by decide, by decide⟩

theorem spellsItems_first {items : List Json} {cs : List Char} (spells : SpellsItems items cs)
    (rest : List Char) : ∃ c more, skipSpace (cs ++ rest) = c :: more ∧ c ≠ ']' := by
  cases spells with
  | @last _ before text after spaces spelled behind =>
      obtain ⟨c, more, rfl, solid, other⟩ := spells_first spelled
      refine ⟨c, more ++ (after ++ rest), ?_, other⟩
      rw [List.append_assoc, List.append_assoc, skipSpace_spaces spaces, List.cons_append,
        skipSpace_cons solid]
  | @more _ _ before text further spaces spelled _ =>
      obtain ⟨c, more, rfl, solid, other⟩ := spells_first spelled
      refine ⟨c, more ++ (',' :: further ++ rest), ?_, other⟩
      rw [List.append_assoc, List.append_assoc, skipSpace_spaces spaces, List.cons_append,
        skipSpace_cons solid]

theorem spellsMembers_first {members : List (String × Json)} {cs : List Char}
    (spells : SpellsMembers members cs) (rest : List Char) :
    ∃ more, skipSpace (cs ++ rest) = '"' :: more := by
  cases spells with
  | last spaces _ _ _ =>
      rw [List.append_assoc, skipSpace_spaces spaces, quoteChars, List.cons_append,
        List.cons_append, skipSpace_cons (by decide)]
      exact ⟨_, rfl⟩
  | more spaces _ _ _ =>
      rw [List.append_assoc, skipSpace_spaces spaces, quoteChars, List.cons_append,
        List.cons_append, skipSpace_cons (by decide)]
      exact ⟨_, rfl⟩

theorem endsNumber_spaces {after : List Char} (spaces : Spaces after) {c : Char}
    (mark : c = ',' ∨ c = ']' ∨ c = '\x7d') (rest : List Char) :
    EndsNumber (after ++ c :: rest) := by
  intro first more same
  have among : isSpace first = true ∨ first = c := by
    cases after with
    | nil => exact .inr (List.cons.inj same).1.symm
    | cons head tail =>
        rw [← (List.cons.inj same).1]
        exact .inl (spaces head List.mem_cons_self)
  simp only [isSpace, Bool.or_eq_true, beq_iff_eq] at among
  rcases among with (((rfl | rfl) | rfl) | rfl) | rfl
  case inr =>
    rcases mark with rfl | rfl | rfl <;> decide
  all_goals decide

/-! ## Items and members -/

/-- `ReadsBack depth value`: the reader takes a spelling of the value off the front of a text. -/
def ReadsBack (depth : Nat) (value : Json) : Prop :=
  ∀ cs, Spells value cs → ∀ fuel rest, cs.length ≤ fuel → EndsNumber rest →
    readValue fuel depth (cs ++ rest) = some (value.sorted, rest)

theorem readItems_spells {depth : Nat} {items : List Json}
    (readsBack : ∀ item ∈ items, ReadsBack depth item) {cs : List Char}
    (spells : SpellsItems items cs) (fuel : Nat) (enough : cs.length < fuel) (rest : List Char) :
    readItems fuel depth (cs ++ ']' :: rest) = some (items.map sorted, rest) := by
  induction items generalizing cs fuel with
  | nil => exact absurd spells nofun
  | cons item others ih =>
      have here := readsBack item List.mem_cons_self
      -- There is a step more than characters, as the closing bracket is not among them.
      obtain ⟨fuel, rfl⟩ := Nat.exists_eq_succ_of_ne_zero (Nat.ne_zero_of_lt enough)
      cases spells with
      | @last _ before text after spaces spelled behind =>
          have inside : text.length ≤ fuel := by
            simp only [List.length_append] at enough
            omega
          have ends := endsNumber_spaces behind (.inr (.inl rfl)) rest
          rw [readItems, List.append_assoc, List.append_assoc, readValue_spaces spaces,
            here text spelled fuel _ inside ends]
          simp only
          rw [skipSpace_spaces behind, skipSpace_cons (by decide)]
          rfl
      | @more _ _ before text further spaces spelled more =>
          simp only [List.length_append, List.length_cons] at enough
          have ends : EndsNumber (',' :: (further ++ ']' :: rest)) :=
            endsNumber_spaces spaces_nil (.inl rfl) _
          have read := ih (fun other member => readsBack other (List.mem_cons_of_mem item member))
            more fuel (by omega)
          rw [readItems, List.append_assoc, List.append_assoc, readValue_spaces spaces,
            List.cons_append, here text spelled fuel _ (by omega) ends]
          simp only
          rw [skipSpace_cons (by decide)]
          simp only
          rw [read]
          rfl

theorem readName_spells {before : List Char} (spaces : Spaces before) (name : String)
    (rest : List Char) :
    readName (before ++ (quoteChars name.toList ++ ':' :: rest)) = some (name, rest) := by
  rw [readName, skipSpace_spaces spaces, quoteChars, List.cons_append, skipSpace_cons (by decide)]
  simp only [List.append_assoc, List.singleton_append]
  rw [readTextBody_escaped]
  simp only
  rw [skipSpace_cons (by decide)]
  simp only [String.ofList_toList]

theorem readMembers_spells {depth : Nat} {members : List (String × Json)}
    (readsBack : ∀ member ∈ members, ReadsBack depth member.2) {cs : List Char}
    (spells : SpellsMembers members cs) (fuel : Nat) (enough : cs.length < fuel)
    (rest : List Char) :
    readMembers fuel depth (cs ++ '\x7d' :: rest) =
      some (members.map fun member => (member.1, member.2.sorted), rest) := by
  induction members generalizing cs fuel with
  | nil => exact absurd spells nofun
  | cons member others ih =>
      have here := readsBack member List.mem_cons_self
      obtain ⟨fuel, rfl⟩ := Nat.exists_eq_succ_of_ne_zero (Nat.ne_zero_of_lt enough)
      cases spells with
      | @last name value before gap text after spaces gapSpaces spelled behind =>
          simp only [List.length_append, List.length_cons] at enough
          have ends := endsNumber_spaces behind (.inr (.inr rfl)) rest
          have named := readName_spells spaces name (gap ++ (text ++ (after ++ '\x7d' :: rest)))
          simp only [List.append_assoc, List.cons_append] at named ⊢
          rw [readMembers, named]
          simp only
          rw [readValue_spaces gapSpaces, here text spelled fuel _ (by omega) ends]
          simp only
          rw [skipSpace_spaces behind, skipSpace_cons (by decide)]
          rfl
      | @more name value _ before gap text further spaces gapSpaces spelled more =>
          simp only [List.length_append, List.length_cons] at enough
          have ends : EndsNumber (',' :: (further ++ '\x7d' :: rest)) :=
            endsNumber_spaces spaces_nil (.inl rfl) _
          have read := ih (fun other member => readsBack other (List.mem_cons_of_mem _ member))
            more fuel (by omega)
          have named := readName_spells spaces name
            (gap ++ (text ++ ',' :: (further ++ '\x7d' :: rest)))
          simp only [List.append_assoc, List.cons_append] at named ⊢
          rw [readMembers, named]
          simp only
          rw [readValue_spaces gapSpaces, here text spelled fuel _ (by omega) ends]
          simp only
          rw [skipSpace_cons (by decide)]
          simp only
          rw [read]
          rfl

/-! ## Values -/

/-- A spelling is not empty, so there is a step to read it with. -/
theorem readsBack_of_succ {depth : Nat} {value : Json}
    (reads : ∀ cs, Spells value cs → ∀ fuel rest, cs.length ≤ fuel + 1 → EndsNumber rest →
      readValue (fuel + 1) depth (cs ++ rest) = some (value.sorted, rest)) :
    ReadsBack depth value := by
  intro cs spells fuel rest enough ends
  obtain ⟨c, more, rfl, -⟩ := spells_first spells
  obtain ⟨fuel, rfl⟩ := Nat.exists_eq_succ_of_ne_zero (Nat.ne_zero_of_lt enough)
  exact reads _ spells fuel rest enough ends

theorem readsBack_array {depth : Nat} {items : List Json}
    (readsBack : ∀ item ∈ items, ReadsBack depth item) :
    ReadsBack (depth + 1) (.array items) := by
  refine readsBack_of_succ fun text spells fuel rest enough _ => ?_
  cases spells with
  | noItems => rfl
  | @array _ cs spelled =>
      simp only [List.length_cons, List.length_append, List.length_nil] at enough
      -- No item begins with the bracket by which the reader tells an empty array.
      obtain ⟨c, more, first, other⟩ := spellsItems_first spelled (']' :: rest)
      have read := readItems_spells readsBack spelled fuel (by omega) rest
      rw [List.cons_append, List.append_assoc, readValue, skipSpace_cons (by decide)]
      simp only [List.singleton_append]
      rw [first]
      split
      · rename_i closing
        exact absurd (List.cons.inj closing).1 other
      · rw [read, sorted_array]
        rfl

theorem readsBack_object {depth : Nat} {members : List (String × Json)}
    (readsBack : ∀ member ∈ members, ReadsBack depth member.2) :
    ReadsBack (depth + 1) (.object members) := by
  refine readsBack_of_succ fun text spells fuel rest enough _ => ?_
  cases spells with
  | noMembers => rfl
  | @object _ cs spelled =>
      simp only [List.length_cons, List.length_append, List.length_nil] at enough
      obtain ⟨more, first⟩ := spellsMembers_first spelled ('\x7d' :: rest)
      have read := readMembers_spells readsBack spelled fuel (by omega) rest
      rw [List.cons_append, List.append_assoc, readValue, skipSpace_cons (by decide)]
      simp only [List.singleton_append]
      rw [first, read, sorted_object]
      rfl

/-- A legible value is read back, whatever its spelling. -/
theorem readsBack_of_legible {depth : Nat} {value : Json} (legible : value.Legible depth) :
    ReadsBack depth value := by
  induction legible with
  | null =>
      refine readsBack_of_succ fun text spells fuel rest _ _ => ?_
      cases spells
      rfl
  | bool value =>
      refine readsBack_of_succ fun text spells fuel rest _ _ => ?_
      cases spells
      cases value <;> rfl
  | int fits =>
      refine readsBack_of_succ fun text spells fuel rest _ ends => ?_
      cases spells
      rw [sorted_int]
      exact readValue_int fits fuel _ ends
  | text value =>
      refine readsBack_of_succ fun text spells fuel rest _ _ => ?_
      cases spells
      rw [quoteChars, List.cons_append, readValue, skipSpace_cons (by decide), List.append_assoc]
      simp only [List.singleton_append]
      rw [readTextBody_escaped, sorted_text]
      simp only [Option.map_some, String.ofList_toList]
  | array _ ih => exact readsBack_array ih
  | object _ ih => exact readsBack_object ih

/-! ## Texts of values -/

/-- A legible value is read from its spelling. -/
theorem read_of_spells {value : Json} (legible : value.Legible maxDepth) {text : String}
    (spells : Spells value text.toList) : read text = some value.sorted := by
  have ends : EndsNumber [] := fun _ _ same => absurd same nofun
  have whole := readsBack_of_legible legible text.toList spells (text.toList.length + 1) []
    (Nat.le_succ _) ends
  rw [List.append_nil] at whole
  simp only [read]
  rw [whole]
  rfl

/-- What is written with indentation is read back, in order. -/
theorem read_pretty {value : Json} (legible : value.Legible maxDepth) :
    read value.pretty = some value.sorted :=
  read_of_spells legible (spells_pretty legible)

/-- What is written without white space is read back, in order. -/
theorem read_compact {value : Json} (legible : value.Legible maxDepth) :
    read value.compact = some value.sorted :=
  read_of_spells legible (spells_compact legible)

end ConfigGate.Json
