import ConfigGate.SortedMap

/-!
# TOML values and tables

A table remembers how it came to be, since that decides what may be added to it: a table in front of
a deeper header may still get a header of its own, one made by dotted keys may grow by dotted keys
only, one with a header or in braces may not be made again.
-/

namespace ConfigGate.Toml

/-- How a table came to be. -/
inductive Origin where
  | implied
  | header
  | dotted
  | braces
deriving DecidableEq, Repr

/-- A TOML value. Numbers other than integers and points in time are not told apart further. -/
inductive Value where
  | text (value : String)
  | bool (value : Bool)
  | integer (value : Int)
  | float
  | moment
  | array (items : List Value)
  | table (origin : Origin) (entries : List (String × Value))
  | tables (elements : List (List (String × Value)))
deriving Inhabited

/-- The entries of a table. -/
abbrev Entries := List (String × Value)

/-- Changes a table and the way it came to be; none is a fault in the text. -/
abbrev TableEdit := Origin → Entries → Option Entries

/-- Puts a value under a key that may be there already. -/
def Entries.set (key : String) (value : Value) (entries : Entries) : Entries :=
  insertEntry key value entries

/-- Goes down a path of keys and edits the table there. Missing tables are made on the way. The last
table of an array of tables stands for the array. Dotted keys do not go through tables that have a
header. -/
def editAt (dotted : Bool) : List String → TableEdit → TableEdit
  | [], edit => edit
  | key :: rest, edit => fun _ entries =>
      match lookupEntry key entries with
      | none =>
          let origin := if dotted then Origin.dotted else Origin.implied
          (editAt dotted rest edit origin []).map fun inner =>
            entries.set key (.table origin inner)
      | some (.table origin inner) =>
          if origin = .braces || (dotted && origin = .header) then none
          else
            (editAt dotted rest edit origin inner).map fun inner =>
              entries.set key (.table origin inner)
      | some (.tables elements) =>
          match elements.getLast? with
          | none => none
          | some last =>
              (editAt dotted rest edit .header last).map fun inner =>
                entries.set key (.tables (elements.dropLast ++ [inner]))
      | some _ => none

/-- Gives a new key its value; `direct` says that the key has no dots. -/
def assign (direct : Bool) (key : String) (value : Value) : TableEdit := fun origin entries =>
  if direct == decide (origin = .dotted) then none
  else
    match lookupEntry key entries with
    | some _ => none
    | none => some (entries.set key value)

/-- Gives a table its header. -/
def openTable (key : String) : TableEdit := fun _ entries =>
  match lookupEntry key entries with
  | none => some (entries.set key (.table .header []))
  | some (.table .implied inner) => some (entries.set key (.table .header inner))
  | some _ => none

/-- Adds a table to an array of tables. -/
def openElement (key : String) : TableEdit := fun _ entries =>
  match lookupEntry key entries with
  | none => some (entries.set key (.tables [[]]))
  | some (.tables elements) => some (entries.set key (.tables (elements ++ [[]])))
  | some _ => none

/-- Assigns to a dotted key below a table. -/
def assignPath (path : List String) (value : Value) : TableEdit :=
  match path.getLast? with
  | none => fun _ _ => none
  | some key => editAt true path.dropLast (assign (path.length == 1) key value)

end ConfigGate.Toml
