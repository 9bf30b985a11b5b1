import ConfigGate.Command.Program
import ConfigGate.Maintenance
import Std.Time.DateTime

/-!
# The programs on a real system

The executable is the gate's command line, or, under the name of the maintenance program, that one.
-/

namespace ConfigGate.System

/-- The number and text of an error of the operating system. -/
def errorCode? : IO.Error → Option (UInt32 × String)
  | .alreadyExists _ code text | .otherError code text | .resourceBusy code text
  | .resourceVanished code text | .unsupportedOperation code text | .hardwareFault code text
  | .unsatisfiedConstraints code text | .illegalOperation code text | .protocolError code text
  | .timeExpired code text | .interrupted _ code text | .noFileOrDirectory _ code text
  | .invalidArgument _ code text | .permissionDenied _ code text | .resourceExhausted _ code text
  | .inappropriateType _ code text | .noSuchThing _ code text => some (code, text)
  | .unexpectedEof | .userError _ => none

/-- The fault of a number and text. Numbers may come negated. -/
def faultOfCode (code : UInt32) (text : String) : FileFault :=
  match code.toInt32.toInt.natAbs with
  | 2 => .notFound
  | 17 => .alreadyExists
  | 20 => .notDirectory
  | 21 => .isDirectory
  | number => .other number text

/-- The fault that an error stands for. A file that is no text has no number. -/
def fault (error : IO.Error) : FileFault :=
  match errorCode? error with
  | none => .notText
  | some (code, text) => faultOfCode code text

/-- Does something with files and tells its fault. -/
def attempt {α : Type} (action : IO α) : IO (Except FileFault α) := do
  try
    let value ← action
    pure (.ok value)
  catch error => pure (.error (fault error))

/-- Whether a path leads to a directory. -/
def isDirectory (path : String) : IO Bool := do
  match ← attempt (IO.FS.readFile path) with
  | .error .isDirectory => pure true
  | _ => pure false

/-- Makes one directory unless it is there. -/
def makeOne (path : String) : IO (Except FileFault Unit) := do
  match ← attempt (IO.FS.createDir path) with
  | .ok () => pure (.ok ())
  | .error cause => do
      if ← isDirectory path then pure (.ok ()) else pure (.error cause)

/-- Makes a directory, after those it is in when they are missing. -/
partial def makeDirectory (path : String) : IO (Except FileFault Unit) := do
  match ← makeOne path, Path.parent? path with
  | .error .notFound, some parent => do
      match ← makeDirectory parent with
      | .ok () => makeOne path
      | .error cause => pure (.error cause)
  | made, _ => pure made

/-- Looks up variables. -/
def variablesOf (names : List String) : IO Variables := do
  let entries ← names.filterMapM fun name => do
    let value? ← IO.getEnv name
    pure (value?.map fun value => (name, value))
  pure (SortedMap.ofList entries).get?

/-- The time on the clock. -/
def now : IO Timestamp := do
  let time ← Std.Time.Timestamp.now
  pure (Timestamp.ofEpoch time.val.second.val.toNat time.val.nano.val.toNat)

/-- Writes a text and tells whether it was taken. -/
def taken (action : IO Unit) : IO Bool := do
  try
    action
    pure true
  catch _ => pure false

/-- The system that the program runs on. -/
def host : Host IO where
  read path := attempt (IO.FS.readFile path)
  isPresent path := do
    match ← attempt (IO.FS.Handle.mk path .read) with
    | .ok _ => pure true
    | .error cause => pure (cause != .notFound && cause != .notDirectory)
  makeDirectory
  write path text := attempt (IO.FS.writeFile path text)
  variablesOf
  workingDirectory := do
    let path ← IO.currentDir
    pure path.toString
  now
  print text := taken (IO.print text)
  printError text := taken (IO.eprint text)
  wording := pure .plain

end ConfigGate.System

open ConfigGate in
/-- Runs the program that the executable is named for. -/
def main (arguments : List String) : IO UInt32 := do
  let path ← IO.appPath
  if path.fileName = some Maintenance.programName then
    Maintenance.program System.host arguments
  else Command.program System.host arguments
