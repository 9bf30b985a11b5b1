import ConfigGate.Files.Fault
import ConfigGate.Files.Path

/-!
# File trees

A `FileTree` holds text files and directories. Paths are followed from a place in the tree, step by
step: every step must start from a directory.

Results: `get?_put_self`, `get?_put_ne`: putting an entry at a place changes that place only.
-/

namespace ConfigGate

/-- A place in a file tree: names from the innermost to the outermost. -/
abbrev Place := List String

/-- What stands at a place. -/
inductive FileEntry where
  | file (text : String)
  | directory
deriving DecidableEq, Repr

/-- Files and directories by place. The top is always a directory. -/
structure FileTree where
  entries : List (Place × FileEntry)
deriving DecidableEq, Repr

namespace FileTree

/-- The tree that has nothing but the top. -/
def empty : FileTree := ⟨[]⟩

/-- What stands at a place. -/
def get? (tree : FileTree) (place : Place) : Option FileEntry :=
  if place.isEmpty then some .directory
  else (tree.entries.find? fun entry => entry.1 = place).map (·.2)

/-- Removes what stands at a place. -/
def erase (tree : FileTree) (place : Place) : FileTree :=
  ⟨tree.entries.filter fun entry => entry.1 ≠ place⟩

/-- Puts an entry at a place. -/
def put (tree : FileTree) (place : Place) (entry : FileEntry) : FileTree :=
  ⟨(place, entry) :: (tree.erase place).entries⟩

theorem get?_put_self (tree : FileTree) {place : Place} (entry : FileEntry)
    (inside : place ≠ []) : (tree.put place entry).get? place = some entry := by
  simp [put, get?, inside]

theorem get?_put_ne (tree : FileTree) {place other : Place} (entry : FileEntry)
    (different : place ≠ other) : (tree.put place entry).get? other = tree.get? other := by
  unfold get? put erase
  by_cases top : other = []
  · simp [top]
  · have agree : (fun item : Place × FileEntry => !decide (item.1 = place) &&
        decide (item.1 = other)) = fun item => decide (item.1 = other) := by
      funext item
      by_cases here : item.1 = other <;> simp [here, Ne.symm different]
    simp [top, different, List.find?_filter, agree]

/-! ## Following paths -/

/-- One step from a place, which must be a directory. -/
def step (tree : FileTree) (place : Place) (name : String) : Except FileFault Place :=
  match tree.get? place with
  | none => .error .notFound
  | some (.file _) => .error .notDirectory
  | some .directory =>
      if name = "." then .ok place else if name = ".." then .ok place.tail else .ok (name :: place)

/-- Several steps from a place. -/
def follow (tree : FileTree) : Place → List String → Except FileFault Place
  | place, [] => .ok place
  | place, name :: names =>
      match tree.step place name with
      | .error fault => .error fault
      | .ok next => follow tree next names

/-- The place that paths start from. -/
def start (directory : Place) (path : String) : Place :=
  if Path.isAbsolute path then [] else directory

/-- The place of a path, whether anything is there or not. -/
def locate (tree : FileTree) (directory : Place) (path : String) : Except FileFault Place :=
  if path.isEmpty then .error .notFound
  else tree.follow (start directory path) (Path.steps path)

/-! ## Operations -/

/-- The text of a file. -/
def read (tree : FileTree) (directory : Place) (path : String) : Except FileFault String :=
  match tree.locate directory path with
  | .error fault => .error fault
  | .ok place =>
      match tree.get? place with
      | none => .error .notFound
      | some .directory => .error .isDirectory
      | some (.file text) => if Path.namesDirectory path then .error .notDirectory else .ok text

/-- Whether there is a file or directory. -/
def isPresent (tree : FileTree) (directory : Place) (path : String) : Bool :=
  match tree.read directory path with
  | .ok _ | .error .isDirectory => true
  | .error _ => false

/-- Writes a file, new or not. The directory it is in must be there. -/
def write (tree : FileTree) (directory : Place) (path text : String) :
    Except FileFault FileTree :=
  match tree.locate directory path with
  | .error fault => .error fault
  | .ok place =>
      if tree.get? place = some .directory || Path.namesDirectory path then
        .error .isDirectory
      else .ok (tree.put place (.file text))

/-- Makes the directories along some steps that are not there. -/
def makeSteps (tree : FileTree) : Place → List String → Except FileFault FileTree
  | _, [] => .ok tree
  | place, name :: names =>
      match tree.step place name with
      | .error fault => .error fault
      | .ok next =>
          match tree.get? next with
          | some .directory => makeSteps tree next names
          | some (.file _) => .error (if names.isEmpty then .alreadyExists else .notDirectory)
          | none => makeSteps (tree.put next .directory) next names

/-- Makes a directory and those it is in. -/
def makeDirectory (tree : FileTree) (directory : Place) (path : String) :
    Except FileFault FileTree :=
  tree.makeSteps (start directory path) (Path.steps path)

end FileTree

end ConfigGate
