import ConfigGate.Decimal.Literal
import ConfigGate.Json.Basic

/-!
# JSON text out

`Json.compact` writes a value without any white space, `Json.pretty` with one member or item a line
and two blanks of indentation. Both write members in the order they have.
-/

namespace ConfigGate.Json

/-- How a character stands inside a quoted text: quotes, backslashes and control characters are
escaped, with short escapes where there are any. -/
def escapeChar (c : Char) : List Char :=
  if c = '"' then ['\\', '"']
  else if c = '\\' then ['\\', '\\']
  else if c = '\n' then ['\\', 'n']
  else if c = '\r' then ['\\', 'r']
  else if c = '\t' then ['\\', 't']
  else if c = '\x08' then ['\\', 'b']
  else if c = '\x0c' then ['\\', 'f']
  else if c.toNat < 32 then
    ['\\', 'u', '0', '0', Decimal.hexDigit (c.toNat / 16), Decimal.hexDigit (c.toNat % 16)]
  else [c]

/-- A text in quotes. -/
def quoteChars (value : List Char) : List Char := '"' :: (value.flatMap escapeChar ++ ['"'])

/-- A text in quotes. -/
def quote (value : String) : String := String.ofList (quoteChars value.toList)

mutual

/-- The text of a value without white space. -/
def compact : Json → String
  | .null => "null"
  | .bool value => if value then "true" else "false"
  | .int value => toString value
  | .float value => value.text
  | .text value => quote value
  | .array items => "[" ++ compactItems items ++ "]"
  | .object members => "\x7b" ++ compactMembers members ++ "\x7d"

/-- Items with commas between them. -/
def compactItems : List Json → String
  | [] => ""
  | [item] => compact item
  | item :: next :: rest => compact item ++ "," ++ compactItems (next :: rest)

/-- Members with commas between them. -/
def compactMembers : List (String × Json) → String
  | [] => ""
  | [(name, value)] => quote name ++ ":" ++ compact value
  | (name, value) :: next :: rest =>
      quote name ++ ":" ++ compact value ++ "," ++ compactMembers (next :: rest)

end

/-- A new line with `depth` steps of indentation. -/
def newLine (depth : Nat) : String := "\n" ++ "".pushn ' ' (2 * depth)

mutual

/-- The text of a value that stands at `depth` steps of indentation. -/
def prettyAt (depth : Nat) : Json → String
  | .array [] => "[]"
  | .array (item :: rest) =>
      "[" ++ prettyItems (depth + 1) (item :: rest) ++ newLine depth ++ "]"
  | .object [] => "\x7b\x7d"
  | .object (member :: rest) =>
      "\x7b" ++ prettyMembers (depth + 1) (member :: rest) ++ newLine depth ++ "\x7d"
  | .null => "null"
  | .bool value => if value then "true" else "false"
  | .int value => toString value
  | .float value => value.text
  | .text value => quote value

/-- Items, each on a line of its own. -/
def prettyItems (depth : Nat) : List Json → String
  | [] => ""
  | [item] => newLine depth ++ prettyAt depth item
  | item :: next :: rest =>
      newLine depth ++ prettyAt depth item ++ "," ++ prettyItems depth (next :: rest)

/-- Members, each on a line of its own. -/
def prettyMembers (depth : Nat) : List (String × Json) → String
  | [] => ""
  | [(name, value)] => newLine depth ++ quote name ++ ": " ++ prettyAt depth value
  | (name, value) :: next :: rest =>
      newLine depth ++ quote name ++ ": " ++ prettyAt depth value ++ "," ++
        prettyMembers depth (next :: rest)

end

/-- The indented text of a value. -/
def pretty (value : Json) : String := prettyAt 0 value

end ConfigGate.Json
