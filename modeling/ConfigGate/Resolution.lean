import ConfigGate.Schema.Basic

/-!
# Reading values from environment variables

Each declared key is read from one variable: its path in upper case with underscores for points and
dashes, behind a common lead if one is set. Nothing but these variables and the one that holds the
execution tag is read.
-/

namespace ConfigGate

/-- The variables of a process. -/
abbrev Variables := String → Option String

/-- An ASCII letter in upper case. -/
def upperChar (c : Char) : Char :=
  if 'a' ≤ c && c ≤ 'z' then Char.ofNat (c.toNat - 32) else c

/-- How a character of a path stands in a variable's name. -/
def variableChar (c : Char) : Char := if c == '.' || c == '-' then '_' else upperChar c

/-- The variable of a key. -/
def variableName (lead : Option String) (path : String) : String :=
  let base := path.map variableChar
  match lead with
  | none => base
  | some lead => if lead.isEmpty then base else lead.map upperChar ++ "_" ++ base

/-- Where values are read from: what leads the variables' names, and which variable holds the
execution tag. -/
structure Naming where
  lead : Option String
  executionVariable : String
deriving DecidableEq, Repr

/-- The naming when nothing else is set. -/
def Naming.default : Naming := ⟨none, "EXECUTION_ENV"⟩

/-- What was read in one run: the values of the keys whose variable is set, the execution tag, and
the keys whose variable is not set. -/
structure Resolution where
  values : SortedMap String
  executionEnv : String
  missing : List String
deriving DecidableEq

namespace Resolution

/-- Reads the variables of some keys. -/
def readKeys (naming : Naming) (vars : Variables) :
    List String → SortedMap String × List String
  | [] => (.empty, [])
  | key :: keys =>
      let (values, missing) := readKeys naming vars keys
      match vars (variableName naming.lead key) with
      | some value => (values.insert key value, missing)
      | none => (values, key :: missing)

/-- Reads every declared key and the execution tag. -/
def read (schema : Schema) (vars : Variables) (naming : Naming) : Resolution :=
  let (values, missing) := readKeys naming vars schema.config.keys
  { values
    executionEnv := (vars naming.executionVariable).getD ""
    missing }

/-- What the checks see of a resolution. -/
def context (resolution : Resolution) : Context :=
  ⟨resolution.values, resolution.executionEnv⟩

end Resolution

end ConfigGate
