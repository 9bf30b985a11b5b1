import ConfigGate.Decimal.Literal
import ConfigGate.Yaml.Scalar

/-!
# What plain scalars stand for

A plain scalar may spell null, a truth value or a number; else it is a text. Numbers are integers
that fit 128 bits, in base ten, sixteen, eight or two, and decimal fractions within the range of
double-precision numbers. Digits with leading zeros are a text.
-/

namespace ConfigGate.Yaml

open Decimal

/-- What a plain scalar stands for. -/
inductive CoreValue where
  | null
  | bool (value : Bool)
  | number
  | text
deriving DecidableEq, Repr

/-- Whether a text spells null. -/
def isNullWord (text : String) : Bool :=
  text == "null" || text == "Null" || text == "NULL" || text == "~"

/-- The truth value that a text spells. -/
def boolWord? (text : String) : Option Bool :=
  if text == "true" || text == "True" || text == "TRUE" then some true
  else if text == "false" || text == "False" || text == "FALSE" then some false
  else none

/-- Drops a sign. -/
def dropSign : List Char → List Char
  | '+' :: rest => rest
  | '-' :: rest => rest
  | rest => rest

/-- Whether the characters are a number with needless leading zeros. -/
def hasLeadingZeros (cs : List Char) : Bool :=
  match dropSign cs with
  | '0' :: next :: rest => (next :: rest).all Char.isDigit
  | _ => false

/-- The base and the digits of an unsigned integer. -/
def splitBase : List Char → Nat × List Char
  | '0' :: 'x' :: rest => (16, rest)
  | '0' :: 'o' :: rest => (8, rest)
  | '0' :: 'b' :: rest => (2, rest)
  | cs => (10, cs)

/-- Whether the characters spell an integer of at most 128 bits. -/
def isInteger (cs : List Char) : Bool :=
  !hasLeadingZeros cs &&
    match cs with
    | '-' :: rest =>
        let (base, digits) := splitBase rest
        (digitsIn? base digits).any fun value => decide (value ≤ twoTo 127)
    | _ =>
        let (base, digits) := splitBase (if cs.head? == some '+' then cs.drop 1 else cs)
        (digitsIn? base digits).any fun value => decide (value < twoTo 128)

/-- Whether the characters spell a fraction, an infinity or not-a-number. -/
def isFraction (cs : List Char) : Bool :=
  let word := String.ofList cs
  let unsigned := String.ofList (if cs.head? == some '+' then cs.drop 1 else cs)
  let infinities := [".inf", ".Inf", ".INF"]
  infinities.contains unsigned || ["-.inf", "-.Inf", "-.INF"].contains word ||
    [".nan", ".NaN", ".NAN"].contains word ||
    (!hasLeadingZeros cs && (decimal? (dropSign cs)).any fun (digits, exponent) =>
      inRange digits exponent)

/-- What a plain scalar stands for. -/
def coreValue (text : String) : CoreValue :=
  if text.isEmpty || isNullWord text then .null
  else
    match boolWord? text with
    | some value => .bool value
    | none => if isInteger text.toList || isFraction text.toList then .number else .text

/-- The tag of truth values. -/
def boolTag : String := "tag:yaml.org,2002:bool"

/-- The tag of integers. -/
def intTag : String := "tag:yaml.org,2002:int"

/-- The tag of fractions. -/
def floatTag : String := "tag:yaml.org,2002:float"

/-- The tag of null. -/
def nullTag : String := "tag:yaml.org,2002:null"

/-- The name in a tag of the program's own, which begins with an exclamation mark. -/
def localName? (tag : Option String) : Option String :=
  match tag.map String.toList with
  | some ['!'] => some "!"
  | some ('!' :: name) => some (String.ofList name)
  | _ => none

end ConfigGate.Yaml
