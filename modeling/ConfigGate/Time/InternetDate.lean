import ConfigGate.Decimal.Literal
import ConfigGate.Time.Timestamp

/-!
# Timestamps in text

The form is `YYYY-MM-DDTHH:MM:SS`, a fraction of a second if it is not zero, and `Z` for universal
time or an offset `+HH:MM`. Read are also a small `t` or a blank between date and time, a small `z`,
and fractions of any length, of which nine digits count. The sixtieth second is read where leap
seconds fall, at the end of a month in universal time, as the last nanosecond before it.
-/

namespace ConfigGate.Timestamp

/-! ## Writing -/

/-- A number of at least `width` digits. -/
def padNumber (width value : Nat) : String :=
  let digits := toString value
  "".pushn '0' (width - digits.length) ++ digits

/-- A fraction of a second, without zeros at its end. -/
def fractionText (nanosecond : Nat) : String :=
  if nanosecond = 0 then ""
  else
    let digits := (padNumber 9 nanosecond).toList
    "." ++ String.ofList (digits.reverse.dropWhile (· == '0')).reverse

/-- An offset from universal time. -/
def offsetText (offset : Int) : String :=
  if offset = 0 then "Z"
  else
    (if offset < 0 then "-" else "+") ++ padNumber 2 (offset.natAbs / 60) ++ ":" ++
      padNumber 2 (offset.natAbs % 60)

/-- The text of a timestamp. -/
def text (time : Timestamp) : String :=
  padNumber 4 time.year ++ "-" ++ padNumber 2 time.month ++ "-" ++ padNumber 2 time.day ++ "T" ++
    padNumber 2 time.hour ++ ":" ++ padNumber 2 time.minute ++ ":" ++ padNumber 2 time.second ++
    fractionText time.nanosecond ++ offsetText time.offset

/-! ## Reading -/

/-- Reads a number of exactly `width` digits. -/
def readNumber (width : Nat) (cs : List Char) : Option (Nat × List Char) :=
  let digits := cs.take width
  if digits.length = width && digits.all Char.isDigit then
    (Decimal.digitsIn? 10 digits).map fun value => (value, cs.drop width)
  else none

/-- Reads one character that passes the test. -/
def readChar (accepts : Char → Bool) : List Char → Option (List Char)
  | c :: rest => if accepts c then some rest else none
  | [] => none

/-- Reads a fraction of a second, if there is one. -/
def readFraction : List Char → Option (Nat × List Char)
  | '.' :: rest =>
      let digits := rest.takeWhile Char.isDigit
      if digits.isEmpty then none
      else
        let nine := (digits ++ List.replicate 9 '0').take 9
        (Decimal.digitsIn? 10 nine).map fun value => (value, rest.dropWhile Char.isDigit)
  | cs => some (0, cs)

/-- Reads an offset up to the end of the text. -/
def readOffset (cs : List Char) : Option Int :=
  match cs with
  | ['Z'] | ['z'] => some 0
  | sign :: rest => do
      let (hours, rest) ← readNumber 2 rest
      let rest ← readChar (· == ':') rest
      let (minutes, rest) ← readNumber 2 rest
      if !rest.isEmpty || 23 < hours || 59 < minutes then none
      else if sign == '+' then some ((hours * 60 + minutes : Nat) : Int)
      else if sign == '-' then some (-((hours * 60 + minutes : Nat) : Int))
      else none
  | [] => none

/-- Whether a minute is the last one of a month in universal time. -/
def endsMonth (fields : TimeFields) : Bool :=
  let minutes : Int := (fields.hour * 60 + fields.minute : Nat) - fields.offset
  let days := daysInMonth fields.year fields.month
  minutes.emod 1440 = 1439 &&
    (if minutes < 0 then fields.day = 1
      else if minutes < 1440 then fields.day = days
      else fields.day + 1 = days)

/-- The timestamp of some fields, in which the second may be the sixtieth. -/
def ofWritten? (fields : TimeFields) : Option Timestamp :=
  if fields.second = 60 then
    if endsMonth fields then ofFields? { fields with second := 59, nanosecond := 999999999 }
    else none
  else ofFields? fields

/-- Reads a date and the character after it. -/
def readDate (cs : List Char) : Option ((Nat × Nat × Nat) × List Char) := do
  let (year, cs) ← readNumber 4 cs
  let cs ← readChar (· == '-') cs
  let (month, cs) ← readNumber 2 cs
  let cs ← readChar (· == '-') cs
  let (day, cs) ← readNumber 2 cs
  let cs ← readChar (fun c => c == 'T' || c == 't' || c == ' ') cs
  some ((year, month, day), cs)

/-- Reads hour, minute and second. -/
def readClock (cs : List Char) : Option ((Nat × Nat × Nat) × List Char) := do
  let (hour, cs) ← readNumber 2 cs
  let cs ← readChar (· == ':') cs
  let (minute, cs) ← readNumber 2 cs
  let cs ← readChar (· == ':') cs
  let (second, cs) ← readNumber 2 cs
  some ((hour, minute, second), cs)

/-- Reads a timestamp. -/
def read (text : String) : Option Timestamp := do
  let ((year, month, day), cs) ← readDate text.toList
  let ((hour, minute, second), cs) ← readClock cs
  let (nanosecond, cs) ← readFraction cs
  let offset ← readOffset cs
  ofWritten? ⟨year, month, day, hour, minute, second, nanosecond, offset⟩

end ConfigGate.Timestamp
