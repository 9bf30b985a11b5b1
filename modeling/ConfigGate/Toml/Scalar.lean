import ConfigGate.Decimal.Literal
import ConfigGate.Text.Pieces
import ConfigGate.Time.Timestamp
import ConfigGate.Toml.Value

/-!
# Scalars of TOML

Texts in four kinds of quotes, integers of 64 bits, fractions, and points in time.
-/

namespace ConfigGate.Toml

open Decimal

/-- Whether a character may stand in comments and texts: no control character but the tab. -/
def isTextChar (c : Char) : Bool := c == '\t' || (' ' ≤ c && c != '\x7f')

/-- The rest behind a line break, which is a line feed with or without a carriage return. -/
def afterBreak? : List Char → Option (List Char)
  | '\n' :: rest => some rest
  | '\r' :: '\n' :: rest => some rest
  | _ => none

/-- Whether a character is a space or a tab. -/
def isGap (c : Char) : Bool := c == ' ' || c == '\t'

/-! ## Texts -/

/-- The character of an escape of one letter. -/
def letterEscape? (c : Char) : Option Char :=
  match c with
  | 'b' => some '\x08'
  | 't' => some '\t'
  | 'n' => some '\n'
  | 'f' => some '\x0c'
  | 'r' => some '\r'
  | 'e' => some '\x1b'
  | '"' => some '"'
  | '\\' => some '\\'
  | _ => none

/-- The character of an escape behind its backslash, and the length of the escape. -/
def escape? : List Char → Option (Char × Nat)
  | [] => none
  | c :: rest =>
      let width := if c == 'x' then 2 else if c == 'u' then 4 else if c == 'U' then 8 else 0
      if width = 0 then (letterEscape? c).map fun value => (value, 1)
      else if (rest.take width).length < width then none
      else
        (hexNumber? 0 (rest.take width)).bind fun value =>
          if (0xD800 ≤ value && value ≤ 0xDFFF) || 0x10FFFF < value then none
          else some (Char.ofNat value, width + 1)

/-- Reads a text in single quotes. -/
def readLiteral : List Char → Option (List Char × List Char)
  | [] => none
  | '\'' :: rest => some ([], rest)
  | c :: rest =>
      if isTextChar c then (readLiteral rest).map fun (body, after) => (c :: body, after) else none

/-- Reads a text in double quotes. -/
def readBasic : Nat → List Char → Option (List Char × List Char)
  | 0, _ => none
  | _ + 1, [] => none
  | _ + 1, '"' :: rest => some ([], rest)
  | fuel + 1, '\\' :: rest =>
      match escape? rest with
      | none => none
      | some (value, length) =>
          (readBasic fuel (rest.drop length)).map fun (body, after) => (value :: body, after)
  | fuel + 1, c :: rest =>
      if isTextChar c then (readBasic fuel rest).map fun (body, after) => (c :: body, after)
      else none

/-- The quotes at the end of a text in tripled quotes: the three that close it, and up to two in
front of them that belong to the text. -/
def closingQuotes? (quote : Char) (cs : List Char) : Option (List Char × List Char) :=
  let count := (cs.takeWhile (· == quote)).length
  if count < 3 || 5 < count then none
  else some (List.replicate (count - 3) quote, cs.drop count)

/-- Reads a text in tripled single quotes. -/
def readLongLiteral : Nat → List Char → Option (List Char × List Char)
  | 0, _ => none
  | _ + 1, [] => none
  | fuel + 1, c :: rest =>
      let more (value : Char) (rest : List Char) : Option (List Char × List Char) :=
        (readLongLiteral fuel rest).map fun (body, after) => (value :: body, after)
      if c == '\'' && 3 ≤ ((c :: rest).takeWhile (· == '\'')).length then
        closingQuotes? '\'' (c :: rest)
      else
        match afterBreak? (c :: rest) with
        | some after => more '\n' after
        | none => if isTextChar c then more c rest else none

/-- Skips spaces, tabs and line breaks. -/
def skipBlank : List Char → List Char
  | '\r' :: '\n' :: rest => skipBlank rest
  | c :: rest => if isGap c || c == '\n' then skipBlank rest else c :: rest
  | [] => []

/-- Reads a text in tripled double quotes. A backslash at the end of a line hides the line break and
the white space behind it. -/
def readLongBasic : Nat → List Char → Option (List Char × List Char)
  | 0, _ => none
  | _ + 1, [] => none
  | fuel + 1, c :: rest =>
      let more (value : Char) (rest : List Char) : Option (List Char × List Char) :=
        (readLongBasic fuel rest).map fun (body, after) => (value :: body, after)
      if c == '"' && 3 ≤ ((c :: rest).takeWhile (· == '"')).length then
        closingQuotes? '"' (c :: rest)
      else if c == '\\' then
        match afterBreak? (rest.dropWhile isGap) with
        | some after => readLongBasic fuel (skipBlank after)
        | none =>
            match escape? rest with
            | none => none
            | some (value, length) => more value (rest.drop length)
      else
        match afterBreak? (c :: rest) with
        | some after => more '\n' after
        | none => if isTextChar c then more c rest else none

/-- Drops the line break that may follow an opening triple of quotes. -/
def dropFirstBreak (cs : List Char) : List Char := (afterBreak? cs).getD cs

/-- Reads a text of any kind. -/
def readText (cs : List Char) : Option (String × List Char) :=
  let result :=
    match cs with
    | '"' :: '"' :: '"' :: rest => readLongBasic (rest.length + 1) (dropFirstBreak rest)
    | '\'' :: '\'' :: '\'' :: rest => readLongLiteral (rest.length + 1) (dropFirstBreak rest)
    | '"' :: rest => readBasic (rest.length + 1) rest
    | '\'' :: rest => readLiteral rest
    | _ => none
  result.map fun (body, after) => (String.ofList body, after)

/-! ## Numbers -/

/-- Digits without the underscores that may stand between two of them. -/
def plainDigits? (cs : List Char) : Option (List Char) :=
  let runs := Text.pieces '_' cs
  if runs.all fun run => !run.isEmpty then some runs.flatten else none

/-- Whether digits have a needless leading zero. -/
def hasLeadingZero : List Char → Bool
  | '0' :: _ :: _ => true
  | _ => false

/-- The number that digits of a base with underscores spell. -/
def unsigned? (base : Nat) (cs : List Char) : Option Nat :=
  (plainDigits? cs).bind fun digits =>
    if base = 10 && hasLeadingZero digits then none else digitsIn? base digits

/-- The integer that the characters spell, if it fits 64 bits. -/
def integer? (cs : List Char) : Option Int :=
  let value? : Option Int :=
    match cs with
    | '0' :: 'x' :: rest => (unsigned? 16 rest).map Int.ofNat
    | '0' :: 'o' :: rest => (unsigned? 8 rest).map Int.ofNat
    | '0' :: 'b' :: rest => (unsigned? 2 rest).map Int.ofNat
    | '+' :: rest => (unsigned? 10 rest).map Int.ofNat
    | '-' :: rest => (unsigned? 10 rest).map fun value => -(value : Int)
    | _ => (unsigned? 10 cs).map Int.ofNat
  value?.bind fun value =>
    if -(twoTo 63 : Int) ≤ value && value < (twoTo 64 : Int) then some value else none

/-- Whether the characters spell a fraction within the range. -/
def isFloat (cs : List Char) : Bool :=
  let body :=
    match cs with
    | '+' :: rest => rest
    | '-' :: rest => rest
    | _ => cs
  let isMark (c : Char) : Bool := c == 'e' || c == 'E'
  let mantissa := body.takeWhile fun c => !isMark c
  let exponent := body.drop mantissa.length
  let whole := mantissa.takeWhile (· != '.')
  let fraction := mantissa.drop whole.length
  let digitRun (cs : List Char) : Bool := (plainDigits? cs).any fun ds => ds.all Char.isDigit
  let exponentDigits :=
    match exponent.drop 1 with
    | '+' :: rest => rest
    | '-' :: rest => rest
    | rest => rest
  let number := body.filter (· != '_')
  String.ofList body == "inf" || String.ofList body == "nan" ||
    (!(fraction.isEmpty && exponent.isEmpty) && digitRun whole &&
      !hasLeadingZero (whole.filter (· != '_')) &&
      (fraction.isEmpty || digitRun (fraction.drop 1)) &&
      (exponent.isEmpty || digitRun exponentDigits) &&
      (decimal? number).any fun (digits, exponent) => inRange digits exponent)

/-! ## Points in time -/

/-- The number that two digits spell. -/
def twoDigits? (a b : Char) : Option Nat := digitsIn? 10 [a, b]

/-- The rest behind a date. -/
def afterDate? : List Char → Option (List Char)
  | a :: b :: c :: d :: '-' :: e :: f :: '-' :: g :: h :: rest => do
      let year ← digitsIn? 10 [a, b, c, d]
      let month ← twoDigits? e f
      let day ← twoDigits? g h
      if 1 ≤ month && month ≤ 12 && 1 ≤ day && day ≤ daysInMonth year month then some rest else none
  | _ => none

/-- The rest behind a time of day; seconds may be left out. -/
def afterTime? : List Char → Option (List Char)
  | a :: b :: ':' :: c :: d :: rest => do
      let hour ← twoDigits? a b
      let minute ← twoDigits? c d
      if 23 < hour || 59 < minute then none
      else
        match rest with
        | ':' :: e :: f :: rest => do
            let second ← twoDigits? e f
            if 60 < second then none
            else
              match rest with
              | '.' :: rest =>
                  let digits := rest.takeWhile Char.isDigit
                  if digits.isEmpty then none else some (rest.drop digits.length)
              | _ => some rest
        | _ => some rest
  | _ => none

/-- Whether the characters are nothing or the offset of a time zone. -/
def isOffset : List Char → Bool
  | [] => true
  | ['Z'] => true
  | ['z'] => true
  | [sign, a, b, ':', c, d] =>
      (sign == '+' || sign == '-') && (twoDigits? a b).any (· ≤ 23) && (twoDigits? c d).any (· ≤ 59)
  | _ => false

/-- Whether the characters spell a date, a time, or both. -/
def isMoment (cs : List Char) : Bool :=
  match afterDate? cs with
  | none => afterTime? cs == some []
  | some [] => true
  | some (mark :: rest) =>
      (mark == 'T' || mark == 't' || mark == ' ') && (afterTime? rest).any isOffset

/-- Whether a character may stand in a number, a truth value or a point in time. -/
def isWordChar (c : Char) : Bool :=
  c.isAlphanum || c == '_' || c == '+' || c == '-' || c == '.' || c == ':'

/-- Reads a scalar that is no text. A date may be followed by a space and a time. -/
def readWord (cs : List Char) : Option (Value × List Char) :=
  let word := cs.takeWhile isWordChar
  let rest := cs.drop word.length
  let long :=
    match rest with
    | ' ' :: c :: _ => c.isDigit && (afterDate? word == some [])
    | _ => false
  let tail := if long then ' ' :: (rest.drop 1).takeWhile isWordChar else []
  let word := word ++ tail
  let rest := rest.drop tail.length
  let text := String.ofList word
  if text == "true" then some (.bool true, rest)
  else if text == "false" then some (.bool false, rest)
  else
    match integer? word with
    | some value => some (.integer value, rest)
    | none =>
        if isFloat word then some (.float, rest)
        else if isMoment word then some (.moment, rest)
        else none

end ConfigGate.Toml
