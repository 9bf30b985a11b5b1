import ConfigGate.Files.Tree

/-!
# Places and what stands at them

A path names one place, `placeOf`, whatever stands on the way to it. What can be done with the path
depends on the way: each step must start from a directory. Nothing that is done with files removes a
directory, so a way that led to a place once leads there ever after.

Results:
1. `write_eq_ok_iff`, `read_of_file`: when a file can be written and what comes of it, and what is
   read where one stands;
2. `makeSteps_spec`, `makeSteps_of_made`: making directories only adds to a tree, and what was made
   is there and need not be made again;
3. `Leads.mono`, `Made.mono`: ways stay as long as directories stay.
-/

namespace ConfigGate.FileTree

/-! ## The place of a path -/

/-- The place one step on. -/
def advance (place : Place) (name : String) : Place :=
  if name = "." then place else if name = ".." then place.tail else name :: place

/-- The place that a path names. -/
def placeOf (directory : Place) (path : String) : Place :=
  (Path.steps path).foldl advance (start directory path)

variable {tree after : FileTree} {directory place found : Place} {path text : String}
  {names : List String}

theorem step_eq_ok_iff {name : String} :
    tree.step place name = .ok found ↔
      tree.get? place = some .directory ∧ found = advance place name := by
  have moved : (if name = "." then (.ok place : Except FileFault Place)
      else if name = ".." then .ok place.tail else .ok (name :: place)) =
        .ok (advance place name) := by
    rw [advance]
    split
    · rfl
    · split <;> rfl
  rw [step]
  cases standing : tree.get? place with
  | none => exact ⟨nofun, fun ⟨here, _⟩ => absurd here nofun⟩
  | some entry =>
      cases entry with
      | file text => exact ⟨nofun, fun ⟨here, _⟩ => absurd here nofun⟩
      | directory =>
          simp only [moved, Except.ok.injEq, true_and]
          exact eq_comm

/-! ## Ways -/

/-- `tree.Leads place names`: every one of the steps starts from a directory. -/
def Leads (tree : FileTree) : Place → List String → Prop
  | _, [] => True
  | place, name :: names =>
      tree.get? place = some .directory ∧ Leads tree (advance place name) names

/-- `tree.Made place names`: every one of the steps starts from a directory and ends at one. -/
def Made (tree : FileTree) : Place → List String → Prop
  | _, [] => True
  | place, name :: names =>
      tree.get? place = some .directory ∧ tree.get? (advance place name) = some .directory ∧
        Made tree (advance place name) names

/-- What is a directory in one tree is one in the other. -/
def KeepsDirectories (tree after : FileTree) : Prop :=
  ∀ place, tree.get? place = some .directory → after.get? place = some .directory

theorem Leads.mono (keeps : tree.KeepsDirectories after) (leads : tree.Leads place names) :
    after.Leads place names := by
  induction names generalizing place with
  | nil => exact trivial
  | cons name names ih => exact ⟨keeps place leads.1, ih leads.2⟩

theorem Made.mono (keeps : tree.KeepsDirectories after) (made : tree.Made place names) :
    after.Made place names := by
  induction names generalizing place with
  | nil => exact trivial
  | cons name names ih => exact ⟨keeps _ made.1, keeps _ made.2.1, ih made.2.2⟩

theorem follow_eq_ok_iff :
    tree.follow place names = .ok found ↔
      tree.Leads place names ∧ found = names.foldl advance place := by
  induction names generalizing place with
  | nil => rw [follow, Except.ok.injEq]; exact ⟨fun same => ⟨trivial, same.symm⟩, fun h => h.2.symm⟩
  | cons name names ih =>
      rw [follow, Leads, List.foldl_cons]
      split
      · rename_i fault stopped
        refine ⟨nofun, fun ⟨⟨here, _⟩, _⟩ => ?_⟩
        exact absurd (stopped.symm.trans (step_eq_ok_iff.mpr ⟨here, rfl⟩)) nofun
      · rename_i next moved
        obtain ⟨here, rfl⟩ := step_eq_ok_iff.mp moved
        rw [ih]
        exact ⟨fun ⟨leads, same⟩ => ⟨⟨here, leads⟩, same⟩, fun ⟨⟨_, leads⟩, same⟩ => ⟨leads, same⟩⟩

theorem locate_eq_ok_iff :
    tree.locate directory path = .ok found ↔
      path.isEmpty = false ∧ tree.Leads (start directory path) (Path.steps path) ∧
        found = placeOf directory path := by
  rw [locate]
  cases path.isEmpty with
  | true => exact ⟨nofun, fun ⟨named, _⟩ => absurd named nofun⟩
  | false => simp only [Bool.false_eq_true, if_false, follow_eq_ok_iff, true_and, placeOf]

/-! ## Files -/

/-- `tree.Writable directory path`: a file can be written there. -/
structure Writable (tree : FileTree) (directory : Place) (path : String) : Prop where
  named : path.isEmpty = false
  leads : tree.Leads (start directory path) (Path.steps path)
  free : tree.get? (placeOf directory path) ≠ some .directory
  namesFile : Path.namesDirectory path = false

theorem write_eq_ok_iff :
    tree.write directory path text = .ok after ↔
      tree.Writable directory path ∧ after = tree.put (placeOf directory path) (.file text) := by
  rw [write]
  split
  · rename_i fault lost
    refine ⟨nofun, fun ⟨writable, _⟩ => ?_⟩
    exact absurd (lost.symm.trans (locate_eq_ok_iff.mpr ⟨writable.named, writable.leads, rfl⟩)) nofun
  · rename_i place located
    obtain ⟨named, leads, rfl⟩ := locate_eq_ok_iff.mp located
    split
    · rename_i taken
      rw [Bool.or_eq_true, decide_eq_true_eq] at taken
      refine ⟨nofun, fun ⟨writable, _⟩ => ?_⟩
      exact taken.elim (fun stands => absurd stands writable.free)
        fun slash => absurd (slash.symm.trans writable.namesFile) nofun
    · rename_i free
      rw [Bool.or_eq_true, decide_eq_true_eq] at free
      obtain ⟨free, namesFile⟩ := not_or.mp free
      rw [Except.ok.injEq]
      exact ⟨fun same => ⟨⟨named, leads, free, Bool.eq_false_iff.mpr namesFile⟩, same.symm⟩,
        fun ⟨_, same⟩ => same.symm⟩

theorem read_of_file (writable : tree.Writable directory path)
    (stands : tree.get? (placeOf directory path) = some (.file text)) :
    tree.read directory path = .ok text := by
  have located := locate_eq_ok_iff.mpr ⟨writable.named, writable.leads, rfl⟩
  rw [read, located]
  simp only [stands, writable.namesFile, Bool.false_eq_true, if_false]

/-- A file that stands where one could be written can be written anew, as long as the way stays. -/
theorem Writable.of_file (writable : tree.Writable directory path)
    (keeps : tree.KeepsDirectories after)
    (stands : after.get? (placeOf directory path) = some (.file text)) :
    after.Writable directory path where
  named := writable.named
  leads := writable.leads.mono keeps
  free := by
    rw [stands]
    exact nofun
  namesFile := writable.namesFile

/-- Only the top is a directory without an entry. -/
theorem ne_nil_of_free (free : tree.get? place ≠ some .directory) : place ≠ [] := by
  rintro rfl
  exact free rfl

theorem keepsDirectories_put {entry : FileEntry} (free : tree.get? place ≠ some .directory) :
    tree.KeepsDirectories (tree.put place entry) := by
  intro other directory
  have different : place ≠ other := by
    rintro rfl
    exact free directory
  rw [get?_put_ne tree entry different, directory]

/-! ## Directories -/

/-- What stands in one tree stands in the other. -/
def Grows (tree after : FileTree) : Prop :=
  ∀ place entry, tree.get? place = some entry → after.get? place = some entry

theorem Grows.refl (tree : FileTree) : tree.Grows tree := fun _ _ stands => stands

theorem Grows.keepsDirectories (grows : tree.Grows after) : tree.KeepsDirectories after :=
  fun place => grows place .directory

theorem grows_put (entry : FileEntry) (empty : tree.get? place = none) :
    tree.Grows (tree.put place entry) := by
  intro other standing stands
  have different : place ≠ other := by
    rintro rfl
    exact absurd (empty.symm.trans stands) nofun
  rw [get?_put_ne tree entry different, stands]

/-- Making directories only adds to a tree, and then they are there. -/
theorem makeSteps_spec (made : tree.makeSteps place names = .ok after) :
    tree.Grows after ∧ after.Made place names := by
  fun_induction makeSteps tree place names with
  | case1 tree place => exact ⟨Except.ok.inj made ▸ Grows.refl tree, trivial⟩
  | case2 => exact absurd made nofun
  | case3 tree place name names next moved directory ih =>
      obtain ⟨here, rfl⟩ := step_eq_ok_iff.mp moved
      obtain ⟨grows, rest⟩ := ih made
      exact ⟨grows, grows _ _ here, grows _ _ directory, rest⟩
  | case4 => exact absurd made nofun
  | case5 tree place name names next moved empty ih =>
      obtain ⟨here, rfl⟩ := step_eq_ok_iff.mp moved
      obtain ⟨grows, rest⟩ := ih made
      have free : tree.get? (advance place name) ≠ some .directory := by
        rw [empty]
        exact nofun
      have grown := grows_put .directory empty
      refine ⟨fun other entry stands => grows _ _ (grown _ _ stands), grows _ _ (grown _ _ here),
        grows _ _ ?_, rest⟩
      exact get?_put_self tree .directory (ne_nil_of_free free)

/-- Directories that are there need not be made. -/
theorem makeSteps_of_made (made : tree.Made place names) :
    tree.makeSteps place names = .ok tree := by
  induction names generalizing place with
  | nil => rfl
  | cons name names ih =>
      obtain ⟨here, there, rest⟩ := made
      have moved : tree.step place name = .ok (advance place name) :=
        step_eq_ok_iff.mpr ⟨here, rfl⟩
      rw [makeSteps, moved]
      simp only [there]
      exact ih rest

end ConfigGate.FileTree
