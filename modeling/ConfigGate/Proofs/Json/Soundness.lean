import ConfigGate.Proofs.Json.Values

/-!
# What reading gives

Results: `stored_of_read`: a value that was read is stored in the form of the reader.
-/

namespace ConfigGate.Json

variable {depth : Nat} {value : Json} {rest cs : List Char}

/-! ## Numbers -/

theorem takeDigits_lt (acc taken : Nat) (fits : acc < Decimal.twoTo 64) (cs : List Char) :
    (takeDigits acc taken cs).1 < Decimal.twoTo 64 := by
  induction cs generalizing acc taken with
  | nil => exact fits
  | cons c cs ih =>
      rw [takeDigits]
      split
      · rename_i more
        rw [Bool.and_eq_true, decide_eq_true_eq] at more
        exact ih _ _ more.2
      · exact fits

theorem stored_of_float? {negative : Bool} {significand : Nat} {exponent : Int}
    (made : float? negative significand exponent = some value) : value.Stored depth := by
  obtain ⟨magnitude, -, rfl⟩ := Option.map_eq_some_iff.mp made
  exact .float _

/-- A number that is scaled and nothing more is stored. -/
theorem stored_of_scaled {negative : Bool} {significand : Nat} {exponent : Int}
    (made : ((float? negative significand exponent).bind fun number => some (number, cs)) =
      some (value, rest)) : value.Stored depth := by
  obtain ⟨number, scaled, made⟩ := Option.bind_eq_some_iff.mp made
  obtain ⟨rfl, -⟩ := Prod.mk.inj (Option.some.inj made)
  exact stored_of_float? scaled

theorem stored_of_readScaled {negative : Bool} {significand : Nat} {exponent : Int}
    (made : readScaled negative significand exponent cs = some (value, rest)) :
    value.Stored depth := by
  unfold readScaled at made
  split at made
  · split at made
    · obtain ⟨⟨shift, remaining⟩, -, made⟩ := Option.bind_eq_some_iff.mp made
      exact stored_of_scaled made
    · exact stored_of_scaled made
  · exact stored_of_scaled made

theorem stored_of_readFraction {negative : Bool} {significand : Nat} {exponent : Int}
    (made : readFraction negative significand exponent cs = some (value, rest)) :
    value.Stored depth := by
  unfold readFraction at made
  split at made
  · exact absurd made nofun
  · split at made
    · exact stored_of_readScaled made
    · exact absurd made nofun

theorem stored_integer (negative : Bool) {magnitude : Nat} (fits : magnitude < Decimal.twoTo 64) :
    (integer negative magnitude).Stored depth := by
  unfold integer
  split
  · exact .int ⟨by omega, by omega⟩
  · split
    · exact .float _
    · rename_i narrow
      rw [Bool.or_eq_true, decide_eq_true_eq, decide_eq_true_eq, not_or, Nat.not_lt] at narrow
      exact .int ⟨by omega, by omega⟩

theorem stored_of_readMagnitude {negative : Bool}
    (made : readMagnitude negative cs = some (value, rest)) : value.Stored depth := by
  have zero : 0 < Decimal.twoTo 64 := by decide
  unfold readMagnitude at made
  split at made
  · exact absurd made nofun
  · split at made
    · exact absurd made nofun
    · split at made
      · exact absurd made nofun
      · rename_i c after _ _
        have fits := takeDigits_lt 0 0 zero (c :: after)
        simp only at made
        split at made
        · exact stored_of_readFraction made
        · split at made
          · exact stored_of_readScaled made
          · obtain ⟨rfl, -⟩ := Prod.mk.inj (Option.some.inj made)
            exact stored_integer negative fits
        · split at made
          · exact stored_of_readScaled made
          · obtain ⟨rfl, -⟩ := Prod.mk.inj (Option.some.inj made)
            exact stored_integer negative fits

/-! ## Values -/

theorem stored_sortedObject {members : List (String × Json)}
    (stored : ∀ member ∈ members, member.2.Stored depth) :
    (sortedObject members).Stored (depth + 1) := by
  refine .object fun (name, value) inside => ?_
  exact stored (name, value) (SortedMap.mem_of_get?_ofList (SortedMap.get?_eq_some_iff.mpr inside))

/-- With so many steps the three readers give stored values. -/
structure ReadersSound (fuel : Nat) : Prop where
  value {depth : Nat} {cs rest : List Char} {value : Json} :
    readValue fuel depth cs = some (value, rest) → value.Stored depth
  items {depth : Nat} {cs rest : List Char} {items : List Json} :
    readItems fuel depth cs = some (items, rest) → ∀ item ∈ items, item.Stored depth
  members {depth : Nat} {cs rest : List Char} {members : List (String × Json)} :
    readMembers fuel depth cs = some (members, rest) → ∀ member ∈ members, member.2.Stored depth

namespace ReadersSound

variable {fuel : Nat}

theorem readValue_succ (sound : ReadersSound fuel)
    (made : readValue (fuel + 1) depth cs = some (value, rest)) : value.Stored depth := by
  rw [readValue] at made
  split at made
  · exact absurd made nofun
  · obtain ⟨⟨body, after⟩, -, equal⟩ := Option.map_eq_some_iff.mp made
    cases equal
    exact .text _
  · exact stored_of_readMagnitude made
  · split at made
    · exact absurd made nofun
    · split at made
      · cases made
        exact .array nofun
      · obtain ⟨⟨items, after⟩, read, equal⟩ := Option.map_eq_some_iff.mp made
        cases equal
        exact .array (sound.items read)
  · split at made
    · exact absurd made nofun
    · split at made
      · cases made
        show (sortedObject []).Stored _
        exact stored_sortedObject fun _ inside => absurd inside List.not_mem_nil
      · obtain ⟨⟨members, after⟩, read, equal⟩ := Option.map_eq_some_iff.mp made
        cases equal
        exact stored_sortedObject (sound.members read)
  · obtain ⟨after, -, equal⟩ := Option.map_eq_some_iff.mp made
    cases equal
    exact .null
  · obtain ⟨after, -, equal⟩ := Option.map_eq_some_iff.mp made
    cases equal
    exact .bool true
  · obtain ⟨after, -, equal⟩ := Option.map_eq_some_iff.mp made
    cases equal
    exact .bool false
  · exact stored_of_readMagnitude made

theorem readItems_succ (sound : ReadersSound fuel) {items : List Json}
    (made : readItems (fuel + 1) depth cs = some (items, rest)) :
    ∀ item ∈ items, item.Stored depth := by
  rw [readItems] at made
  split at made
  · exact absurd made nofun
  · rename_i first behind read
    have here := sound.value read
    split at made
    · obtain ⟨⟨others, after⟩, more, equal⟩ := Option.map_eq_some_iff.mp made
      cases equal
      exact List.forall_mem_cons.mpr ⟨here, sound.items more⟩
    · cases made
      exact List.forall_mem_singleton.mpr here
    · exact absurd made nofun

theorem readMembers_succ (sound : ReadersSound fuel) {members : List (String × Json)}
    (made : readMembers (fuel + 1) depth cs = some (members, rest)) :
    ∀ member ∈ members, member.2.Stored depth := by
  rw [readMembers] at made
  split at made
  · exact absurd made nofun
  · split at made
    · exact absurd made nofun
    · rename_i first behind read
      have here := sound.value read
      split at made
      · obtain ⟨⟨others, after⟩, more, equal⟩ := Option.map_eq_some_iff.mp made
        cases equal
        exact List.forall_mem_cons.mpr ⟨here, sound.members more⟩
      · cases made
        exact List.forall_mem_singleton.mpr here
      · exact absurd made nofun

end ReadersSound

theorem readersSound (fuel : Nat) : ReadersSound fuel := by
  induction fuel with
  | zero => exact ⟨nofun, nofun, nofun⟩
  | succ fuel ih => exact ⟨ih.readValue_succ, ih.readItems_succ, ih.readMembers_succ⟩

/-- A value that was read is stored. -/
theorem stored_of_read {text : String} (made : read text = some value) :
    value.Stored maxDepth := by
  simp only [read] at made
  split at made
  · exact absurd made nofun
  · rename_i whole behind read
    split at made
    · obtain rfl := Option.some.inj made
      exact (readersSound _).value read
    · exact absurd made nofun

end ConfigGate.Json
