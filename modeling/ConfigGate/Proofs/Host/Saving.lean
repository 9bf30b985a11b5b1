import ConfigGate.Host.World
import ConfigGate.Proofs.Files.Places

/-!
# Saving files in a world

Saving makes the directory that a path is in and then writes the file. Either may fail, and then the
directories that were made stay. What a saved file needs stays as it is whatever else is saved, so
the file is there until something is saved at its own place, and can be saved again.

Results:
1. `attempt_save`: what saving does to a world is `FileTree.save`;
2. `stands_of_savable`: a file that can be saved is there afterwards;
3. `Stands.of_save`: it stays when something is saved elsewhere, successfully or not;
4. `Stands.savable`, `Stands.read`: it can be saved again, and is read as it was saved.
-/

namespace ConfigGate

namespace FileTree

/-- The files once the directory that a path is in is made. -/
def withParent (tree : FileTree) (directory : Place) (path : String) : Except SaveError FileTree :=
  match Path.parent? path with
  | none => .ok tree
  | some parent =>
      if parent.isEmpty then .ok tree
      else (tree.makeDirectory directory parent).mapError (.directory parent)

/-- What comes of saving a file, and the files after that. -/
def save (tree : FileTree) (directory : Place) (path text : String) :
    Except SaveError Unit × FileTree :=
  match tree.withParent directory path with
  | .error error => (.error error, tree)
  | .ok made =>
      match made.write directory path text with
      | .error fault => (.error (.file path fault), made)
      | .ok after => (.ok (), after)

/-- The directory that a path is in is there, and so are those on the way to it. -/
def HasParent (tree : FileTree) (directory : Place) (path : String) : Prop :=
  ∀ parent, Path.parent? path = some parent → parent.isEmpty = false →
    tree.Made (start directory parent) (Path.steps parent)

/-- `tree.Savable directory path`: the directory of the path can be made, and then the file can be
written. -/
def Savable (tree : FileTree) (directory : Place) (path : String) : Prop :=
  ∃ made, tree.withParent directory path = .ok made ∧ made.Writable directory path

/-- `tree.Stands directory path text`: the path is that of a file with this text, which can be
written anew without making any directory. -/
structure Stands (tree : FileTree) (directory : Place) (path text : String) : Prop where
  parent : tree.HasParent directory path
  writable : tree.Writable directory path
  entry : tree.get? (placeOf directory path) = some (.file text)

variable {tree after made : FileTree} {directory : Place} {path text : String}

/-! ## The directory of a path -/

theorem HasParent.mono (keeps : tree.KeepsDirectories after)
    (parent : tree.HasParent directory path) : after.HasParent directory path :=
  fun _ found named => (parent _ found named).mono keeps

theorem withParent_of_hasParent (parent : tree.HasParent directory path) :
    tree.withParent directory path = .ok tree := by
  unfold withParent
  split
  · rfl
  · rename_i name found
    split
    · rfl
    · rename_i named
      have there := parent name found (Bool.eq_false_iff.mpr named)
      rw [makeDirectory, makeSteps_of_made there]
      rfl

/-- Making the directory only adds to the files, and then it is there. -/
theorem withParent_spec (done : tree.withParent directory path = .ok made) :
    tree.Grows made ∧ made.HasParent directory path := by
  unfold withParent at done
  split at done
  · rename_i top
    refine ⟨Except.ok.inj done ▸ Grows.refl tree, fun parent found => ?_⟩
    exact absurd (top.symm.trans found) nofun
  · rename_i name found
    split at done
    · rename_i empty
      refine ⟨Except.ok.inj done ▸ Grows.refl tree, fun parent other named => ?_⟩
      obtain rfl := Option.some.inj (found.symm.trans other)
      exact absurd (empty.symm.trans named) nofun
    · cases result : tree.makeDirectory directory name with
      | error fault => exact absurd (result ▸ done) nofun
      | ok files =>
          rw [result] at done
          obtain rfl : files = made := Except.ok.inj done
          obtain ⟨grows, there⟩ := makeSteps_spec result
          refine ⟨grows, fun parent other _ => ?_⟩
          obtain rfl := Option.some.inj (found.symm.trans other)
          exact there

/-! ## Saving -/

theorem save_of_writable (done : tree.withParent directory path = .ok made)
    (writable : made.Writable directory path) (text : String) :
    tree.save directory path text = (.ok (), made.put (placeOf directory path) (.file text)) := by
  have written : made.write directory path text =
      .ok (made.put (placeOf directory path) (.file text)) :=
    write_eq_ok_iff.mpr ⟨writable, rfl⟩
  simp only [save, done, written]

/-- Where some text can be saved, every text can. -/
theorem savable_of_save (saved : (tree.save directory path text).1 = .ok ()) :
    tree.Savable directory path := by
  unfold save at saved
  split at saved
  · exact absurd saved nofun
  · rename_i made done
    split at saved
    · exact absurd saved nofun
    · rename_i after written
      exact ⟨made, done, (write_eq_ok_iff.mp written).1⟩

/-- A file that can be saved is saved, and is there afterwards. -/
theorem stands_of_savable (savable : tree.Savable directory path) (text : String) :
    (tree.save directory path text).1 = .ok () ∧
      (tree.save directory path text).2.Stands directory path text := by
  obtain ⟨made, done, writable⟩ := savable
  have keeps : made.KeepsDirectories (made.put (placeOf directory path) (.file text)) :=
    keepsDirectories_put writable.free
  have entry : (made.put (placeOf directory path) (.file text)).get? (placeOf directory path) =
      some (.file text) :=
    get?_put_self made _ (ne_nil_of_free writable.free)
  rw [save_of_writable done writable text]
  exact ⟨rfl, (withParent_spec done).2.mono keeps, writable.of_file keeps entry, entry⟩

/-- Saving a file, or failing to, removes no directory and changes nothing that stands elsewhere. -/
theorem save_keeps (tree : FileTree) (directory : Place) (path text : String) :
    tree.KeepsDirectories (tree.save directory path text).2 ∧
      ∀ place entry, placeOf directory path ≠ place → tree.get? place = some entry →
        (tree.save directory path text).2.get? place = some entry := by
  unfold save
  split
  · exact ⟨(Grows.refl tree).keepsDirectories, fun _ _ _ stands => stands⟩
  · rename_i made done
    have grows := (withParent_spec done).1
    split
    · exact ⟨grows.keepsDirectories, fun place entry _ => grows place entry⟩
    · rename_i after written
      obtain ⟨writable, rfl⟩ := write_eq_ok_iff.mp written
      refine ⟨fun place directory => ?_, fun place entry other stands => ?_⟩
      · exact keepsDirectories_put writable.free place (grows _ _ directory)
      · exact (get?_put_ne made _ other).trans (grows place entry stands)

/-! ## A file that stands -/

theorem Stands.read (stands : tree.Stands directory path text) :
    tree.read directory path = .ok text :=
  read_of_file stands.writable stands.entry

theorem Stands.savable (stands : tree.Stands directory path text) :
    tree.Savable directory path :=
  ⟨tree, withParent_of_hasParent stands.parent, stands.writable⟩

/-- A file stays when something is saved elsewhere. -/
theorem Stands.of_save (stands : tree.Stands directory path text) {other : String}
    (apart : placeOf directory other ≠ placeOf directory path) (otherText : String) :
    (tree.save directory other otherText).2.Stands directory path text := by
  obtain ⟨keeps, others⟩ := save_keeps tree directory other otherText
  have entry := others _ _ apart stands.entry
  exact ⟨stands.parent.mono keeps, stands.writable.of_file keeps entry, entry⟩

end FileTree

/-! ## Worlds -/

namespace World

variable {ε δ α β : Type}

/-- Does something that may fail: what comes of it, and the world after that. -/
def attempt (action : ExceptT ε (StateM World) α) (world : World) : Except ε α × World :=
  action.run world

/-- The second of two actions goes on in the world after the first. -/
theorem bind_apply (action : StateM World α) (next : α → StateM World β) (world : World) :
    (action >>= next) world = next (action world).1 (action world).2 :=
  rfl

theorem attempt_bind (action : ExceptT ε (StateM World) α) (next : α → ExceptT ε (StateM World) β)
    (world : World) :
    attempt (action >>= next) world =
      match attempt action world with
      | (.error error, after) => (.error error, after)
      | (.ok value, after) => attempt (next value) after := by
  rw [attempt, ExceptT.run_bind, bind_apply, attempt]
  rcases action.run world with ⟨error | value, after⟩
  · rfl
  · rfl

theorem attempt_adapt (action : ExceptT ε (StateM World) α) (f : ε → δ) (world : World) :
    attempt (action.adapt f) world =
      ((attempt action world).1.mapError f, (attempt action world).2) :=
  rfl

theorem attempt_makeParent (world : World) (path : String) :
    attempt (host.makeParent path) world =
      match world.files.withParent world.directory path with
      | .error error => (.error error, world)
      | .ok files => (.ok (), { world with files }) := by
  unfold Host.makeParent FileTree.withParent
  cases Path.parent? path with
  | none => rfl
  | some parent =>
      dsimp only
      split
      · rfl
      · show ((world.keepFiles (world.files.makeDirectory world.directory parent)).1.mapError _,
          (world.keepFiles (world.files.makeDirectory world.directory parent)).2) = _
        cases world.files.makeDirectory world.directory parent <;> rfl

/-- Saving a file changes the files of a world and nothing else. -/
theorem attempt_save (world : World) (path text : String) :
    attempt (host.save path text) world =
      ((world.files.save world.directory path text).1,
        { world with files := (world.files.save world.directory path text).2 }) := by
  unfold Host.save
  rw [attempt_bind, attempt_makeParent, FileTree.save]
  cases world.files.withParent world.directory path with
  | error error => rfl
  | ok made =>
      dsimp only
      show ((World.keepFiles _ (made.write world.directory path text)).1.mapError _,
        (World.keepFiles _ (made.write world.directory path text)).2) = _
      cases made.write world.directory path text <;> rfl

/-- `world.CanSave path`: some text can be saved under the path. -/
def CanSave (world : World) (path : String) : Prop :=
  ∃ text, (attempt (host.save path text) world).1 = .ok ()

theorem CanSave.savable {world : World} {path : String} (canSave : world.CanSave path) :
    world.files.Savable world.directory path := by
  obtain ⟨text, saved⟩ := canSave
  rw [attempt_save] at saved
  exact FileTree.savable_of_save saved

end World

end ConfigGate
