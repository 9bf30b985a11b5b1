import ConfigGate.Decimal.Power

/-!
# Number literals

The values of digits in a base, and of decimal fractions with an exponent. Whether a fraction lies
within the range of double-precision numbers is decided exactly: the range ends half way between the
largest number and the power of two above it.
-/

namespace ConfigGate.Decimal

/-- A digit of base sixteen, in lower case. -/
def hexDigit (value : Nat) : Char :=
  if value < 10 then Char.ofNat (48 + value) else Char.ofNat (87 + value)

/-- The value of a digit of base sixteen. -/
def hexDigit? (c : Char) : Option Nat :=
  if c.isDigit then some (c.toNat - 48)
  else if 'a' ≤ c && c ≤ 'f' then some (c.toNat - 87)
  else if 'A' ≤ c && c ≤ 'F' then some (c.toNat - 55)
  else none

/-- The value of a run of digits of base sixteen. -/
def hexNumber? : Nat → List Char → Option Nat
  | acc, [] => some acc
  | acc, c :: rest => (hexDigit? c).bind fun digit => hexNumber? (acc * 16 + digit) rest

/-- The number that digits of a base spell. -/
def digitsIn? (base : Nat) (cs : List Char) : Option Nat :=
  if cs.isEmpty then none
  else
    cs.foldl (fun acc c =>
      acc.bind fun value =>
        (hexDigit? c).bind fun digit => if digit < base then some (value * base + digit) else none)
      (some 0)

/-- The exponent that the characters spell; nothing spells zero. -/
def exponent? : List Char → Option Int
  | [] => some 0
  | mark :: rest =>
      if mark = 'e' || mark = 'E' then
        match rest with
        | '-' :: digits => (digitsIn? 10 digits).map fun value => -(value : Int)
        | '+' :: digits => (digitsIn? 10 digits).map Int.ofNat
        | digits => (digitsIn? 10 digits).map Int.ofNat
      else none

/-- A decimal fraction `digits * 10 ^ exponent`, from the characters of an unsigned one. -/
def decimal? (cs : List Char) : Option (List Char × Int) :=
  let whole := cs.takeWhile Char.isDigit
  let afterWhole := cs.drop whole.length
  let (fraction, rest) :=
    match afterWhole with
    | '.' :: more => (more.takeWhile Char.isDigit, more.dropWhile Char.isDigit)
    | _ => ([], afterWhole)
  let digits := whole ++ fraction
  if digits.isEmpty then none
  else
    (exponent? rest).map fun exponent => (digits, exponent - fraction.length)

/-- Whether a decimal number lies within the range of double-precision numbers. -/
def inRange (digits : List Char) (exponent : Int) : Bool :=
  let significant := digits.dropWhile (· == '0')
  let size := (significant.length : Int) + exponent
  if significant.isEmpty || size ≤ 308 then true
  else if 310 < size then false
  else
    let value := (digitsIn? 10 significant).getD 0
    let limit := twoTo 1024 - twoTo 970
    if 0 ≤ exponent then value * tenTo exponent.toNat < limit
    else value < limit * tenTo (-exponent).toNat

end ConfigGate.Decimal
