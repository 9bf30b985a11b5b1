import ConfigGate.Toml.Scalar

/-!
# TOML documents

`Toml.read` gives the entries of a document's root table. Arrays and tables in braces may run over
several lines, hold comments, and end with a comma.
-/

namespace ConfigGate.Toml

/-! ## White space and keys -/

/-- Skips spaces and tabs. -/
def skipGaps (cs : List Char) : List Char := cs.dropWhile isGap

/-- Skips the rest of a comment, if one starts here; a control character in it is a fault. -/
def skipComment : List Char → Option (List Char)
  | '#' :: rest =>
      let body := rest.takeWhile fun c => c != '\n'
      let tail := rest.drop body.length
      let line := if body.getLast? == some '\r' && !tail.isEmpty then body.dropLast else body
      if line.all isTextChar then some (rest.drop line.length) else none
  | rest => some rest

/-- Skips white space, line breaks and comments. -/
def skipLines : Nat → List Char → Option (List Char)
  | 0, _ => none
  | fuel + 1, cs =>
      match skipComment (skipGaps cs) with
      | none => none
      | some rest =>
          match afterBreak? rest with
          | some after => skipLines fuel after
          | none => some rest

/-- Goes to the next line, which only a comment may stand before. -/
def endLine (cs : List Char) : Option (List Char) :=
  match skipComment (skipGaps cs) with
  | none => none
  | some [] => some []
  | some rest => afterBreak? rest

/-- Whether a character may stand in a key without quotes. -/
def isBareChar (c : Char) : Bool := c.isAlphanum || c == '_' || c == '-'

/-- Reads one part of a key. -/
def readKeyPart (cs : List Char) : Option (String × List Char) :=
  match cs with
  | '"' :: rest =>
      (readBasic (rest.length + 1) rest).map fun (body, after) => (String.ofList body, after)
  | '\'' :: rest => (readLiteral rest).map fun (body, after) => (String.ofList body, after)
  | _ =>
      let bare := cs.takeWhile isBareChar
      if bare.isEmpty then none else some (String.ofList bare, cs.drop bare.length)

/-- Reads a key, which is one part or several with points between them. -/
def readKey : Nat → List Char → Option (List String × List Char)
  | 0, _ => none
  | fuel + 1, cs =>
      match readKeyPart (skipGaps cs) with
      | none => none
      | some (part, rest) =>
          match skipGaps rest with
          | '.' :: more => (readKey fuel more).map fun (parts, after) => (part :: parts, after)
          | after => some ([part], after)

/-- Reads a key and the equals sign behind it. -/
def readKeyMark (cs : List Char) : Option (List String × List Char) :=
  match readKey (cs.length + 1) cs with
  | some (path, '=' :: rest) => some (path, rest)
  | _ => none

/-! ## Values -/

mutual

/-- Reads a value. -/
def readValue : Nat → List Char → Option (Value × List Char)
  | 0, _ => none
  | fuel + 1, cs =>
      match skipGaps cs with
      | '"' :: rest => (readText ('"' :: rest)).map fun (text, after) => (.text text, after)
      | '\'' :: rest => (readText ('\'' :: rest)).map fun (text, after) => (.text text, after)
      | '[' :: rest => (readItems fuel rest).map fun (items, after) => (.array items, after)
      | '\x7b' :: rest =>
          (readPairs fuel [] rest).map fun (entries, after) => (.table .braces entries, after)
      | rest => readWord rest

/-- Reads the items of an array, up to its closing bracket. -/
def readItems : Nat → List Char → Option (List Value × List Char)
  | 0, _ => none
  | fuel + 1, cs =>
      match skipLines (cs.length + 1) cs with
      | none => none
      | some (']' :: after) => some ([], after)
      | some cs =>
          match readValue fuel cs with
          | none => none
          | some (item, rest) =>
              match skipLines (rest.length + 1) rest with
              | some (',' :: rest) =>
                  (readItems fuel rest).map fun (items, after) => (item :: items, after)
              | some (']' :: after) => some ([item], after)
              | _ => none

/-- Reads the pairs of a table in braces, up to its closing brace. -/
def readPairs : Nat → Entries → List Char → Option (Entries × List Char)
  | 0, _, _ => none
  | fuel + 1, entries, cs =>
      match skipLines (cs.length + 1) cs with
      | none => none
      | some ('\x7d' :: after) => some (entries, after)
      | some cs =>
          match readKeyMark cs with
          | none => none
          | some (path, rest) =>
              match readValue fuel rest with
              | none => none
              | some (value, rest) =>
                  match assignPath path value .braces entries with
                  | none => none
                  | some entries =>
                      match skipLines (rest.length + 1) rest with
                      | some (',' :: rest) => readPairs fuel entries rest
                      | some ('\x7d' :: after) => some (entries, after)
                      | _ => none

end

/-! ## Documents -/

/-- What has been read: the root table and the path of the table that keys go into. -/
structure State where
  root : Entries
  current : List String

/-- Edits the root table. -/
def State.edit (state : State) (dotted : Bool) (path : List String) (edit : TableEdit) :
    Option Entries :=
  editAt dotted path edit .header state.root

/-- Reads a header behind its opening brackets. -/
def readHeader (state : State) (isElement : Bool) (cs : List Char) :
    Option (State × List Char) := do
  let (path, rest) ← readKey (cs.length + 1) cs
  let rest ←
    match isElement, rest with
    | true, ']' :: ']' :: after => some after
    | false, ']' :: after => some after
    | _, _ => none
  let key ← path.getLast?
  let root ← state.edit false path.dropLast (if isElement then openElement key else openTable key)
  some (⟨root, path⟩, rest)

/-- Reads a key and its value. -/
def readAssignment (state : State) (cs : List Char) : Option (State × List Char) := do
  let (path, rest) ← readKeyMark cs
  let (value, after) ← readValue (rest.length + 1) rest
  let root ← state.edit false state.current (assignPath path value)
  some ({ state with root }, after)

/-- Reads lines up to the end of the text. -/
def readLines : Nat → State → List Char → Option Entries
  | 0, _, _ => none
  | fuel + 1, state, cs =>
      match skipLines (cs.length + 1) cs with
      | none => none
      | some [] => some state.root
      | some cs =>
          let result :=
            match cs with
            | '[' :: '[' :: rest => readHeader state true rest
            | '[' :: rest => readHeader state false rest
            | _ => readAssignment state cs
          match result with
          | none => none
          | some (state, rest) =>
              match endLine rest with
              | none => none
              | some rest => readLines fuel state rest

/-- The entries of a document. A byte order mark in front of it is skipped. -/
def read (text : String) : Option Entries :=
  let cs := text.toList
  let cs := if cs.head? == some '\ufeff' then cs.drop 1 else cs
  readLines (cs.length + 1) ⟨[], []⟩ cs

end ConfigGate.Toml
