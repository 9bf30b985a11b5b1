/-!
# Why a file operation fails
-/

namespace ConfigGate

/-- Why a file cannot be read or written, or a directory not be made. -/
inductive FileFault where
  | notFound
  | alreadyExists
  | notDirectory
  | isDirectory
  | notText
  | other (code : Nat) (text : String)
deriving DecidableEq, Repr

namespace FileFault

/-- The text of a fault of the operating system. -/
def systemText (text : String) (code : Nat) : String :=
  text ++ " (os error " ++ toString code ++ ")"

/-- The text of a fault. -/
def message : FileFault → String
  | notFound => systemText "No such file or directory" 2
  | alreadyExists => systemText "File exists" 17
  | notDirectory => systemText "Not a directory" 20
  | isDirectory => systemText "Is a directory" 21
  | notText => "stream did not contain valid UTF-8"
  | other code text => systemText text code

end FileFault

end ConfigGate
