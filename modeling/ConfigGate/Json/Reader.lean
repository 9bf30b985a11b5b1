import ConfigGate.Decimal.Literal
import ConfigGate.Json.Basic

/-!
# JSON text in

`Json.read` reads one value. Of a repeated member name the last value counts, and members are put
in ascending order. Refused are: text after the value, control characters and unpaired surrogates
in texts, leading zeros, numbers beyond the floating-point range, and more than 127 levels of
nesting.
-/

namespace ConfigGate.Json

/-- Whether a character may stand between tokens. -/
def isSpace (c : Char) : Bool := c == ' ' || c == '\n' || c == '\r' || c == '\t'

/-- Skips white space. -/
def skipSpace (cs : List Char) : List Char := cs.dropWhile isSpace

/-! ## Numbers -/

/-- The value of a decimal digit. -/
def digitValue (c : Char) : Nat := c.toNat - 48

/-- The digits that fit: takes digits into `acc` as long as the number fits 64 bits. Gives the
number, how many digits were taken, and the rest. -/
def takeDigits (acc taken : Nat) : List Char → Nat × Nat × List Char
  | [] => (acc, taken, [])
  | c :: rest =>
      if c.isDigit && acc * 10 + digitValue c < Decimal.twoTo 64 then
        takeDigits (acc * 10 + digitValue c) (taken + 1) rest
      else (acc, taken, c :: rest)

/-- Ten to the `exponent`, rounded. -/
def powerOfTen (exponent : Nat) : Float := Float.ofScientific 1 false exponent

/-- `value * 10 ^ exponent`, by divisions by at most `10 ^ 308`, each rounded. -/
def scaleDown (value : Float) : Nat → Nat → Float
  | 0, _ => value
  | fuel + 1, exponent =>
      if exponent ≤ 308 then value / powerOfTen exponent
      else if value == 0.0 then value
      else scaleDown (value / powerOfTen 308) fuel (exponent - 308)

/-- The number `significand * 10 ^ exponent`; none when it is beyond the range. -/
def float? (negative : Bool) (significand : Nat) (exponent : Int) : Option Json :=
  let start := Float.ofNat significand
  let magnitude? : Option Float :=
    if exponent < 0 then some (scaleDown start 8 (-exponent).toNat)
    else if 308 < exponent then (if significand = 0 then some start else none)
    else
      let scaled := start * powerOfTen exponent.toNat
      if scaled.isInf then none else some scaled
  magnitude?.map fun magnitude =>
    .float (.ofFloat (if negative then -magnitude else magnitude))

/-- Reads `[eE] [+-]? digits` and gives the exponent with its sign. -/
def readExponent (cs : List Char) : Option (Int × List Char) :=
  let (negative, digits) :=
    match cs with
    | '+' :: rest => (false, rest)
    | '-' :: rest => (true, rest)
    | rest => (false, rest)
  let run := digits.takeWhile Char.isDigit
  if run.isEmpty then none
  else
    let value : Nat := run.foldl (fun acc c => acc * 10 + digitValue c) 0
    some (if negative then -(value : Int) else value, digits.drop run.length)

/-- Finishes a floating-point number whose digits have been read. -/
def readScaled (negative : Bool) (significand : Nat) (exponent : Int) :
    List Char → Option (Json × List Char)
  | c :: rest =>
      if c == 'e' || c == 'E' then do
        let (shift, remaining) ← readExponent rest
        let value ← float? negative significand (exponent + shift)
        some (value, remaining)
      else do
        let value ← float? negative significand exponent
        some (value, c :: rest)
  | [] => do
      let value ← float? negative significand exponent
      some (value, [])

/-- Reads the digits after a decimal point; those beyond 64 bits do not count. -/
def readFraction (negative : Bool) (significand : Nat) (exponent : Int) (cs : List Char) :
    Option (Json × List Char) :=
  match cs with
  | [] => none
  | c :: _ =>
      if c.isDigit then
        let (value, taken, rest) := takeDigits significand 0 cs
        readScaled negative value (exponent - taken) (rest.dropWhile Char.isDigit)
      else none

/-- The integer with this sign, or a floating-point number when it does not fit 64 bits or is a
negative zero. -/
def integer (negative : Bool) (magnitude : Nat) : Json :=
  if !negative then .int magnitude
  else if magnitude = 0 || Decimal.twoTo 63 < magnitude then
    .float (.ofFloat (-Float.ofNat magnitude))
  else .int (-(magnitude : Int))

/-- Reads a number behind its sign. -/
def readMagnitude (negative : Bool) (cs : List Char) : Option (Json × List Char) :=
  match cs with
  | [] => none
  | c :: after =>
      if !c.isDigit then none
      else if c == '0' && (after.head?.any Char.isDigit) then none
      else
        let (value, _, rest) := takeDigits 0 0 cs
        let further := rest.takeWhile Char.isDigit
        let shift : Int := further.length
        match rest.drop further.length with
        | '.' :: more => readFraction negative value shift more
        | next :: more =>
            if next == 'e' || next == 'E' || shift != 0 then
              readScaled negative value shift (next :: more)
            else some (integer negative value, next :: more)
        | [] =>
            if shift != 0 then readScaled negative value shift []
            else some (integer negative value, [])

/-! ## Texts -/

/-- The value of four digits of base sixteen. -/
def hexUnit? (a b c d : Char) : Option Nat := Decimal.hexNumber? 0 [a, b, c, d]

/-- The character of a one-letter escape. -/
def shortEscape? (c : Char) : Option Char :=
  if c == '"' || c == '\\' || c == '/' then some c
  else if c == 'b' then some '\x08'
  else if c == 'f' then some '\x0c'
  else if c == 'n' then some '\n'
  else if c == 'r' then some '\r'
  else if c == 't' then some '\t'
  else none

/-- Reads a text up to its closing quote, and gives what follows the quote. -/
def readTextBody : List Char → Option (List Char × List Char)
  | [] => none
  | '"' :: rest => some ([], rest)
  | '\\' :: 'u' :: a :: b :: c :: d :: rest =>
      match hexUnit? a b c d with
      | none => none
      | some unit =>
          if unit < 0xD800 || 0xDFFF < unit then
            (readTextBody rest).map fun (body, after) => (Char.ofNat unit :: body, after)
          else if 0xDBFF < unit then none
          else
            match rest with
            | '\\' :: 'u' :: a :: b :: c :: d :: rest =>
                match hexUnit? a b c d with
                | none => none
                | some low =>
                    if low < 0xDC00 || 0xDFFF < low then none
                    else
                      (readTextBody rest).map fun (body, after) =>
                        (Char.ofNat (0x10000 + (unit - 0xD800) * 1024 + (low - 0xDC00)) :: body,
                          after)
            | _ => none
  | '\\' :: c :: rest =>
      match shortEscape? c with
      | none => none
      | some value => (readTextBody rest).map fun (body, after) => (value :: body, after)
  | c :: rest =>
      if c.toNat < 32 || c == '\\' then none
      else (readTextBody rest).map fun (body, after) => (c :: body, after)

/-! ## Values -/

/-- The rest behind a fixed word. -/
def afterWord? (word : String) (cs : List Char) : Option (List Char) :=
  if word.toList.isPrefixOf cs then some (cs.drop word.length) else none

/-- Reads the name of a member and the colon behind it. -/
def readName (cs : List Char) : Option (String × List Char) :=
  match skipSpace cs with
  | '"' :: rest =>
      match readTextBody rest with
      | none => none
      | some (name, rest) =>
          match skipSpace rest with
          | ':' :: rest => some (String.ofList name, rest)
          | _ => none
  | _ => none

mutual

/-- Reads a value with at most `depth` levels of nesting; `fuel` bounds the number of steps. -/
def readValue : Nat → Nat → List Char → Option (Json × List Char)
  | 0, _, _ => none
  | fuel + 1, depth, cs =>
      match skipSpace cs with
      | [] => none
      | '"' :: rest =>
          (readTextBody rest).map fun (body, after) => (.text (String.ofList body), after)
      | '-' :: rest => readMagnitude true rest
      | '[' :: rest =>
          match depth with
          | 0 => none
          | depth + 1 =>
              match skipSpace rest with
              | ']' :: after => some (.array [], after)
              | _ => (readItems fuel depth rest).map fun (items, after) => (.array items, after)
      | '\x7b' :: rest =>
          match depth with
          | 0 => none
          | depth + 1 =>
              match skipSpace rest with
              | '\x7d' :: after => some (.object [], after)
              | _ =>
                  (readMembers fuel depth rest).map fun (members, after) =>
                    (sortedObject members, after)
      | 'n' :: rest => (afterWord? "ull" rest).map fun after => (.null, after)
      | 't' :: rest => (afterWord? "rue" rest).map fun after => (.bool true, after)
      | 'f' :: rest => (afterWord? "alse" rest).map fun after => (.bool false, after)
      | c :: rest => readMagnitude false (c :: rest)

/-- Reads one item or more, up to the closing bracket. -/
def readItems : Nat → Nat → List Char → Option (List Json × List Char)
  | 0, _, _ => none
  | fuel + 1, depth, cs =>
      match readValue fuel depth cs with
      | none => none
      | some (item, rest) =>
          match skipSpace rest with
          | ',' :: rest =>
              (readItems fuel depth rest).map fun (items, after) => (item :: items, after)
          | ']' :: rest => some ([item], rest)
          | _ => none

/-- Reads one member or more, up to the closing brace. -/
def readMembers : Nat → Nat → List Char → Option (List (String × Json) × List Char)
  | 0, _, _ => none
  | fuel + 1, depth, cs =>
      match readName cs with
      | none => none
      | some (name, rest) =>
          match readValue fuel depth rest with
          | none => none
          | some (value, rest) =>
              match skipSpace rest with
              | ',' :: rest =>
                  (readMembers fuel depth rest).map fun (members, after) =>
                    ((name, value) :: members, after)
              | '\x7d' :: rest => some ([(name, value)], rest)
              | _ => none

end

/-- How many arrays and objects may be open at once. -/
def maxDepth : Nat := 127

/-- The value of a JSON text. -/
def read (text : String) : Option Json :=
  let cs := text.toList
  match readValue (cs.length + 1) maxDepth cs with
  | none => none
  | some (value, rest) => if (skipSpace rest).isEmpty then some value else none

end ConfigGate.Json
