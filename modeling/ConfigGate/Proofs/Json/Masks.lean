import ConfigGate.Proofs.Json.Places

/-!
# Masked values

A mask gives texts for some places of a value. Masking puts them there, each in place of all that
stood there, and leaves every other place as it is, so that values are the same after masking
exactly when they are the same but for what is masked. Nothing more is needed to see that masking
twice does no more than masking once.

Results:
1. `Masks.of_children`: a value is masked step by step;
2. `Masks.eq_iff`: what masking makes the same, and what it does not;
3. `Masks.unique`, `Masks.again`: there is one masked value, and it is its own masked value;
4. `Masks.trans`: masks one after the other are one mask.
-/

namespace ConfigGate.Json

/-- The texts for the places of a value, where it is to have others. -/
abbrev Mask := List Step → Option String

namespace Mask

/-- The place is inside one that is masked. -/
def Inside (mask : Mask) (path : List Step) : Prop :=
  ∃ front step back, path = front ++ step :: back ∧ (mask front).isSome

/-- The mask of what a step leads to. -/
def behind (mask : Mask) (step : Step) : Mask := fun path => mask (step :: path)

/-- A mask and another one after it. -/
def followedBy (first second : Mask) : Mask := fun path => (second path).or (first path)

/-- Values that have the same label at every place that is neither masked nor inside a masked
one. -/
def Agree (mask : Mask) (left right : Json) : Prop :=
  ∀ path, mask path = none → ¬mask.Inside path → left.labelAt? path = right.labelAt? path

end Mask

/-- `Masks mask value result`: the result has the texts of the mask where the value has something in
their places, nothing inside these places, and everywhere else what the value has. -/
structure Masks (mask : Mask) (value result : Json) : Prop where
  masked : ∀ path text, mask path = some text → ¬mask.Inside path →
    result.labelAt? path = (value.at? path).map fun _ => .text text
  inside : ∀ path, mask.Inside path → result.labelAt? path = none
  elsewhere : ∀ path, mask path = none → ¬mask.Inside path →
    result.labelAt? path = value.labelAt? path

variable {mask first second : Mask} {value result left right leftResult rightResult : Json}
  {step : Step} {path : List Step} {text : String}

/-! ## Places inside masked ones -/

namespace Mask

theorem not_inside_nil (mask : Mask) : ¬mask.Inside [] := by
  rintro ⟨front, step, back, split, -⟩
  exact absurd split.symm (by simp)

theorem inside_cons_iff (root : mask [] = none) :
    mask.Inside (step :: path) ↔ (mask.behind step).Inside path := by
  constructor
  · rintro ⟨front, next, back, split, masked⟩
    cases front with
    | nil => exact absurd masked (by simp [root])
    | cons first rest =>
        obtain ⟨rfl, rfl⟩ := List.cons.inj split
        exact ⟨rest, next, back, rfl, masked⟩
  · rintro ⟨front, next, back, rfl, masked⟩
    exact ⟨step :: front, next, back, rfl, masked⟩

/-- The way from a place inside a masked one stays inside it. -/
theorem Inside.append (inside : mask.Inside path) (back : List Step) :
    mask.Inside (path ++ back) := by
  obtain ⟨front, next, rest, rfl, masked⟩ := inside
  exact ⟨front, next, rest ++ back, by simp, masked⟩

theorem followedBy_inside_iff :
    (first.followedBy second).Inside path ↔ first.Inside path ∨ second.Inside path := by
  constructor
  · rintro ⟨front, next, rest, rfl, masked⟩
    rw [followedBy, Option.isSome_or, Bool.or_eq_true] at masked
    rcases masked with masked | masked
    · exact .inr ⟨front, next, rest, rfl, masked⟩
    · exact .inl ⟨front, next, rest, rfl, masked⟩
  · rintro (⟨front, next, rest, rfl, masked⟩ | ⟨front, next, rest, rfl, masked⟩)
    · exact ⟨front, next, rest, rfl, by simp [followedBy, masked]⟩
    · exact ⟨front, next, rest, rfl, by simp [followedBy, masked]⟩

end Mask

/-- Where values agree, the same places are there to be masked. -/
theorem Mask.Agree.isSome_at? (agree : mask.Agree left right) (outside : ¬mask.Inside path) :
    (left.at? path).isSome = (right.at? path).isSome := by
  rcases List.eq_nil_or_concat path with rfl | ⟨front, step, rfl⟩
  · rfl
  · -- The label of what holds the place tells whether it is there.
    rw [List.concat_eq_append] at outside ⊢
    have free : mask front = none := by
      rw [← Option.not_isSome_iff_eq_none]
      exact fun masked => outside ⟨front, step, [], rfl, masked⟩
    have same := agree front free fun inside => outside (inside.append [step])
    rw [at?_append, at?_append]
    rw [labelAt?, labelAt?] at same
    generalize left.at? front = old, right.at? front = new at same
    cases old with
    | none => rw [Option.map_eq_none_iff.mp same.symm]
    | some leftHolder =>
        obtain ⟨rightHolder, rfl, labels⟩ := Option.map_eq_some_iff.mp same.symm
        rw [Option.bind_some, Option.bind_some, at?_singleton, at?_singleton, isSome_child?,
          isSome_child?, labels]

/-! ## Masked values -/

theorem map_const_of_isSome {α β : Type} {old new : Option α} (same : old.isSome = new.isSome)
    (entry : β) : old.map (fun _ => entry) = new.map fun _ => entry := by
  cases old <;> cases new <;> simp_all

namespace Masks

/-- A mask of no place changes nothing. -/
theorem refl (none : ∀ path, mask path = none) (value : Json) : Masks mask value value where
  masked path text masked := absurd masked (by simp [none])
  inside := by
    rintro path ⟨front, next, back, -, masked⟩
    exact absurd masked (by simp [none])
  elsewhere _ _ _ := rfl

/-- Masking the whole value leaves the text only. -/
theorem root (masked : mask [] = some text) (value : Json) : Masks mask value (.text text) where
  masked := by
    intro path other found outside
    cases path with
    | nil =>
        obtain rfl := Option.some.inj (masked.symm.trans found)
        rfl
    | cons step rest => exact absurd ⟨[], step, rest, rfl, by simp [masked]⟩ outside
  inside := by
    intro path inside
    cases path with
    | nil => exact absurd inside mask.not_inside_nil
    | cons step rest =>
        rw [labelAt?_cons]
        cases step <;> rfl
  elsewhere := by
    intro path free outside
    cases path with
    | nil => exact absurd (masked.symm.trans free) nofun
    | cons step rest => exact absurd ⟨[], step, rest, rfl, by simp [masked]⟩ outside

/-- A value is masked if its label stays and the values inside it are masked. -/
theorem of_children (root : mask [] = none) (label : result.label = value.label)
    (children : ∀ step,
      Option.Rel (Masks (mask.behind step)) (value.child? step) (result.child? step)) :
    Masks mask value result where
  masked := by
    intro path text found outside
    cases path with
    | nil => exact absurd (root.symm.trans found) nofun
    | cons step rest =>
        have below := children step
        rw [Mask.inside_cons_iff root] at outside
        rw [labelAt?_cons, at?]
        generalize value.child? step = old, result.child? step = new at below
        cases below with
        | none => rfl
        | some masks => exact masks.masked rest text found outside
  inside := by
    intro path inside
    cases path with
    | nil => exact absurd inside mask.not_inside_nil
    | cons step rest =>
        have below := children step
        rw [Mask.inside_cons_iff root] at inside
        rw [labelAt?_cons]
        generalize value.child? step = old, result.child? step = new at below
        cases below with
        | none => rfl
        | some masks => exact masks.inside rest inside
  elsewhere := by
    intro path free outside
    cases path with
    | nil => exact congrArg some label
    | cons step rest =>
        have below := children step
        rw [Mask.inside_cons_iff root] at outside
        rw [labelAt?_cons, labelAt?_cons]
        generalize value.child? step = old, result.child? step = new at below
        cases below with
        | none => rfl
        | some masks => exact masks.elsewhere rest free outside

/-- Outside masked places there is something exactly where there was something. -/
theorem isSome_at? (masks : Masks mask value result) (outside : ¬mask.Inside path) :
    (result.at? path).isSome = (value.at? path).isSome := by
  rw [← isSome_labelAt?]
  cases found : mask path with
  | none => rw [masks.elsewhere path found outside, isSome_labelAt?]
  | some text => rw [masks.masked path text found outside, Option.isSome_map]

/-- Masked values are the same exactly when the values agree outside of what is masked. -/
theorem eq_iff (leftMasks : Masks mask left leftResult) (rightMasks : Masks mask right rightResult) :
    leftResult = rightResult ↔ mask.Agree left right := by
  constructor
  · rintro rfl path found outside
    rw [← leftMasks.elsewhere path found outside, rightMasks.elsewhere path found outside]
  · intro agree
    refine eq_of_labelAt? fun path => ?_
    by_cases inside : mask.Inside path
    · rw [leftMasks.inside path inside, rightMasks.inside path inside]
    · cases found : mask path with
      | none =>
          rw [leftMasks.elsewhere path found inside, rightMasks.elsewhere path found inside,
            agree path found inside]
      | some text =>
          rw [leftMasks.masked path text found inside, rightMasks.masked path text found inside]
          exact map_const_of_isSome (agree.isSome_at? inside) _

/-- There is one masked value. -/
theorem unique (left : Masks mask value leftResult) (right : Masks mask value rightResult) :
    leftResult = rightResult :=
  (left.eq_iff right).mpr fun _ _ _ => rfl

/-- A masked value is masked already. -/
theorem again (masks : Masks mask value result) : Masks mask result result where
  masked := by
    intro path text found outside
    rw [masks.masked path text found outside]
    exact map_const_of_isSome (masks.isSome_at? outside).symm _
  inside := masks.inside
  elsewhere _ _ _ := rfl

/-- One mask after another masks the places of both. Where both have a text, that of the second is
put. -/
theorem trans (firstMasks : Masks first value left) (secondMasks : Masks second left right) :
    Masks (first.followedBy second) value right where
  masked := by
    intro path text found outside
    rw [Mask.followedBy_inside_iff, not_or] at outside
    obtain ⟨firstOutside, secondOutside⟩ := outside
    cases secondFound : second path with
    | some other =>
        rw [Mask.followedBy, secondFound, Option.some_or] at found
        obtain rfl := Option.some.inj found
        rw [secondMasks.masked path other secondFound secondOutside]
        exact map_const_of_isSome (firstMasks.isSome_at? firstOutside) _
    | none =>
        rw [Mask.followedBy, secondFound, Option.none_or] at found
        rw [secondMasks.elsewhere path secondFound secondOutside]
        exact firstMasks.masked path text found firstOutside
  inside := by
    intro path inside
    by_cases secondInside : second.Inside path
    · exact secondMasks.inside path secondInside
    · have gone : left.labelAt? path = none :=
        firstMasks.inside path
          ((Mask.followedBy_inside_iff.mp inside).resolve_right secondInside)
      cases secondFound : second path with
      | some text =>
          rw [secondMasks.masked path text secondFound secondInside, Option.map_eq_none_iff.mp gone]
          rfl
      | none => rw [secondMasks.elsewhere path secondFound secondInside, gone]
  elsewhere := by
    intro path free outside
    rw [Mask.followedBy_inside_iff, not_or] at outside
    obtain ⟨firstOutside, secondOutside⟩ := outside
    obtain ⟨secondFree, firstFree⟩ := Option.or_eq_none_iff.mp free
    rw [secondMasks.elsewhere path secondFree secondOutside,
      firstMasks.elsewhere path firstFree firstOutside]

end Masks

end ConfigGate.Json
