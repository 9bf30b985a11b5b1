import ConfigGate.Files.Tree
import ConfigGate.Host.Basic

/-!
# Worlds

A world is a system as a value: a file tree, variables, a time that stands still, what was output
so far, and what the streams of output take. `World.host` is the host whose operations change a
world and nothing else.
-/

namespace ConfigGate

/-- A system and what was output on it. -/
structure World where
  files : FileTree
  directory : Place
  vars : Variables
  now : Timestamp
  output : String
  errorOutput : String
  /-- Whether the output can come to hold a text. It refuses what it cannot hold. -/
  outputTakes : String → Bool := fun _ => true
  /-- Whether the error output can come to hold a text. -/
  errorOutputTakes : String → Bool := fun _ => true
  /-- What is said about texts that cannot be read. -/
  wording : Wording := .plain

namespace World

/-- The path of the directory that the process works in. -/
def workingDirectory (world : World) : String := "/" ++ "/".intercalate world.directory.reverse

/-- Keeps a changed file tree, if the change worked. -/
def keepFiles (world : World) : Except FileFault FileTree → Except FileFault Unit × World
  | .error fault => (.error fault, world)
  | .ok files => (.ok (), { world with files })

/-- Writes to the output, if it takes the text. -/
def print (world : World) (text : String) : Bool × World :=
  if world.outputTakes (world.output ++ text) then
    (true, { world with output := world.output ++ text })
  else (false, world)

/-- Writes to the error output, if it takes the text. -/
def printError (world : World) (text : String) : Bool × World :=
  if world.errorOutputTakes (world.errorOutput ++ text) then
    (true, { world with errorOutput := world.errorOutput ++ text })
  else (false, world)

/-- The host that works on a world. -/
def host : Host (StateM World) where
  read path := fun world => (world.files.read world.directory path, world)
  isPresent path := fun world => (world.files.isPresent world.directory path, world)
  makeDirectory path := fun world =>
    world.keepFiles (world.files.makeDirectory world.directory path)
  write path text := fun world =>
    world.keepFiles (world.files.write world.directory path text)
  variablesOf _ := fun world => (world.vars, world)
  workingDirectory := fun world => (world.workingDirectory, world)
  now := fun world => (world.now, world)
  print text := fun world => world.print text
  printError text := fun world => world.printError text
  wording := fun world => (world.wording, world)

end World

end ConfigGate
