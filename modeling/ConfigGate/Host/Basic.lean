import ConfigGate.Failure
import ConfigGate.Files.Fault
import ConfigGate.Files.Path
import ConfigGate.Resolution
import ConfigGate.Time.Timestamp

/-!
# Hosts

A host is what a command needs of the system it runs on: files, variables, a clock, and two streams
of output, either of which may refuse a text. Commands are written for any host, so that what they
do can be said without a system. A host also knows how the readers of formats word their faults.
-/

namespace ConfigGate

/-- Access to a system. -/
structure Host (m : Type → Type) where
  /-- The text of a file. -/
  read : String → m (Except FileFault String)
  /-- Whether a path leads to anything. -/
  isPresent : String → m Bool
  /-- Makes a directory and those it is in. -/
  makeDirectory : String → m (Except FileFault Unit)
  /-- Writes a file, new or not. -/
  write : String → String → m (Except FileFault Unit)
  /-- The variables of the process, of which only the given ones are looked up. -/
  variablesOf : List String → m Variables
  /-- The directory that the process works in. -/
  workingDirectory : m String
  /-- The time. -/
  now : m Timestamp
  /-- Writes to the output, unless it refuses the text. -/
  print : String → m Bool
  /-- Writes to the error output, unless it refuses the text. -/
  printError : String → m Bool
  /-- What the readers of formats say about texts that they cannot read. -/
  wording : m Wording

/-- Why a file could not be saved. -/
inductive SaveError where
  | directory (path : String) (cause : FileFault)
  | file (path : String) (cause : FileFault)
deriving DecidableEq, Repr

/-- What was tried and why it failed. -/
def SaveError.failure : SaveError → Failure
  | directory path cause => ⟨"create directory: " ++ path, [cause.message]⟩
  | file path cause => ⟨"write file: " ++ path, [cause.message]⟩

namespace Host

variable {m : Type → Type} [Monad m]

/-- Makes the directory that a path is in. -/
def makeParent (host : Host m) (path : String) : ExceptT SaveError m Unit :=
  match Path.parent? path with
  | none => pure ()
  | some parent =>
      if parent.isEmpty then pure ()
      else
        ExceptT.mk do
          let made ← host.makeDirectory parent
          pure (made.mapError (SaveError.directory parent))

/-- Writes a file in a directory that is made if need be. -/
def save (host : Host m) (path text : String) : ExceptT SaveError m Unit := do
  host.makeParent path
  ExceptT.mk do
    let written ← host.write path text
    pure (written.mapError (SaveError.file path))

/-- Writes texts one after the other until one is refused, and tells whether none was. -/
def writeAll (write : String → m Bool) : List String → m Bool
  | [] => pure true
  | text :: rest => do
      if ← write text then writeAll write rest else pure false

/-- The exit code of a program that breaks off because a stream refuses a text. -/
def brokenOff : UInt32 := 101

/-- Ends a program by writing texts: the exit code is the given one if none is refused. -/
def endWith (write : String → m Bool) (code : UInt32) (texts : List String) : m UInt32 := do
  if ← writeAll write texts then pure code else pure brokenOff

end Host

end ConfigGate
