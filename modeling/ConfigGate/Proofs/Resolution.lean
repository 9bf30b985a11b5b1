import ConfigGate.Resolution

/-!
# What is read from the environment

A key has a value after reading exactly when it is declared and its variable is set, and the value
is that of the variable: `read_get?`. As a consequence what a rule reads of a declared key is the
text of its variable, or nothing: `read_value`.
-/

namespace ConfigGate.Resolution

variable {schema : Schema} {vars : Variables} {naming : Naming}

/-- What is read of some keys depends on no other key and not on their order. -/
theorem readKeys_get? (naming : Naming) (vars : Variables) (keys : List String) (key : String) :
    (readKeys naming vars keys).1.get? key =
      if key ∈ keys then vars (variableName naming.lead key) else none := by
  induction keys with
  | nil => rfl
  | cons first others ih =>
      unfold readKeys
      simp only
      by_cases same : first = key
      · subst same
        rw [if_pos List.mem_cons_self]
        split
        · rename_i value set
          rw [SortedMap.get?_insert_self, set]
        · rename_i unset
          rw [ih, unset, ite_self]
      · have elsewhere : key ∈ first :: others ↔ key ∈ others := by
          rw [List.mem_cons]
          exact or_iff_right (Ne.symm same)
        simp only [elsewhere]
        split
        · rw [SortedMap.get?_insert_ne _ _ same, ih]
        · exact ih

/-- A declared key has the value of its variable, any other key has none. -/
theorem read_get? (schema : Schema) (vars : Variables) (naming : Naming) (key : String) :
    (read schema vars naming).values.get? key =
      if schema.declares key then vars (variableName naming.lead key) else none := by
  show (readKeys naming vars schema.config.keys).1.get? key = _
  rw [readKeys_get?]
  simp only [SortedMap.mem_keys_iff]
  rfl

theorem read_get?_of_declared (vars : Variables) (naming : Naming) {key : String}
    (declared : schema.declares key = true) :
    (read schema vars naming).values.get? key = vars (variableName naming.lead key) := by
  rw [read_get?, if_pos declared]

theorem read_get?_eq_some_iff {key value : String} :
    (read schema vars naming).values.get? key = some value ↔
      schema.declares key = true ∧ vars (variableName naming.lead key) = some value := by
  rw [read_get?]
  split
  · rename_i declared
    exact ⟨fun set => ⟨declared, set⟩, And.right⟩
  · rename_i undeclared
    exact ⟨nofun, fun ⟨declared, _⟩ => absurd declared undeclared⟩

/-- What a rule reads of a declared key. -/
theorem read_value {key : String} (declared : schema.declares key = true) :
    (read schema vars naming).context.value key =
      (vars (variableName naming.lead key)).getD "" := by
  show ((read schema vars naming).values.get? key).getD "" = _
  rw [read_get?_of_declared vars naming declared]

end ConfigGate.Resolution
