import ConfigGate.Proofs.Host.Saving
import ConfigGate.Run

/-!
# Running the checks in a world

A run of the checks only reads the world. It comes to something if its settings can be settled and
its schema can be loaded, and then this is what is concluded from the variables of the world.

Results:
1. `attempt_check`: what a run comes to, and that the world stays as it is;
2. `check_eq_ok_iff`: when a run works, and what is concluded then.
-/

namespace ConfigGate.World

variable {world : World} {schemaPath settingsText : String} {overrides : Overrides}

/-- The schema that is read from a path in a world. -/
def schemaAt (world : World) (path : String) : Except SchemaError Schema :=
  match world.files.read world.directory path with
  | .error fault => .error (.unreadable path fault.message)
  | .ok text => Schema.read world.wording text

/-- What a run of the checks in a world comes to. -/
def checked (world : World) (schemaPath settingsText : String) (overrides : Overrides) :
    Except RunError RunOutcome := do
  let resolved ← Run.resolveText world.wording settingsText overrides
  let schema ← (world.schemaAt schemaPath).mapError RunError.schema
  pure (Run.conclude schemaPath schema resolved world.vars world.now world.now)

theorem attempt_loadSchema (world : World) (path : String) :
    attempt (World.host.loadSchema path) world = (world.schemaAt path, world) := by
  have file : (World.host.read path world).1 = world.files.read world.directory path := rfl
  unfold Host.loadSchema attempt schemaAt
  rw [ExceptT.run_mk, bind_apply, file]
  cases world.files.read world.directory path <;> rfl

theorem attempt_lift {ε α : Type} (result : Except ε α) (world : World) :
    attempt (ExceptT.mk (pure result)) world = (result, world) :=
  rfl

theorem attempt_check (world : World) (schemaPath settingsText : String) (overrides : Overrides) :
    attempt (World.host.check schemaPath settingsText overrides) world =
      (world.checked schemaPath settingsText overrides, world) := by
  have start : attempt (liftM World.host.now : ExceptT RunError (StateM World) Timestamp) world =
      (.ok world.now, world) := rfl
  have words : attempt (liftM World.host.wording : ExceptT RunError (StateM World) Wording) world =
      (.ok world.wording, world) := rfl
  unfold Host.check checked
  rw [attempt_bind]
  simp only [start]
  rw [attempt_bind]
  simp only [words]
  rw [attempt_bind, attempt_lift]
  cases Run.resolveText world.wording settingsText overrides with
  | error cause => rfl
  | ok resolved =>
      simp only
      rw [attempt_bind, attempt_adapt, attempt_loadSchema]
      cases world.schemaAt schemaPath <;> rfl

/-- A run works exactly if its settings are settled and its schema is loaded. -/
theorem check_eq_ok_iff {outcome : RunOutcome} :
    (attempt (World.host.check schemaPath settingsText overrides) world).1 = .ok outcome ↔
      ∃ schema resolved, Run.resolveText world.wording settingsText overrides = .ok resolved ∧
        world.schemaAt schemaPath = .ok schema ∧
        outcome = Run.conclude schemaPath schema resolved world.vars world.now world.now := by
  rw [attempt_check]
  constructor
  · intro worked
    unfold checked at worked
    cases settled : Run.resolveText world.wording settingsText overrides with
    | error cause => exact absurd (settled ▸ worked) nofun
    | ok resolved =>
        rw [settled] at worked
        cases loaded : world.schemaAt schemaPath with
        | error cause => exact absurd (loaded ▸ worked) nofun
        | ok schema =>
            rw [loaded] at worked
            exact ⟨schema, resolved, rfl, rfl, (Except.ok.inj worked).symm⟩
  · rintro ⟨schema, resolved, settled, loaded, rfl⟩
    show world.checked schemaPath settingsText overrides = _
    rw [checked, settled, loaded]
    rfl

end ConfigGate.World
