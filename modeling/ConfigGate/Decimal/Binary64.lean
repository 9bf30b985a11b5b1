import ConfigGate.Decimal.Shortest

/-!
# Double-precision numbers

A `Binary64` is a floating-point number by its 64 bits, so equality means the same bits. Its text
has the fewest digits that read back as the same number and always shows a fraction or an exponent.
-/

namespace ConfigGate.Decimal

/-- A double-precision number, held as its bits. -/
structure Binary64 where
  bits : UInt64
deriving DecidableEq, Repr

namespace Binary64

/-- The number with the bits of `value`. -/
def ofFloat (value : Float) : Binary64 := ⟨value.toBits⟩

/-- Whether the sign bit is set. -/
def isNegative (value : Binary64) : Bool := value.bits >>> 63 == 1

/-- The fraction field. -/
def fraction (value : Binary64) : Nat := (value.bits &&& 0xFFFFFFFFFFFFF).toNat

/-- The exponent field. -/
def biasedExponent (value : Binary64) : Nat := ((value.bits >>> 52) &&& 0x7FF).toNat

/-- The shortest decimal of the number without its sign. -/
def magnitude (value : Binary64) : Scaled :=
  if value.biasedExponent = 0 then shortest value.fraction (-1074) false
  else
    shortest (value.fraction + twoTo 52) ((value.biasedExponent : Int) - 1075)
      (value.fraction == 0 && value.biasedExponent > 1)

end Binary64

/-- Drops trailing zeros of the digits. -/
def Scaled.strip (number : Scaled) : Nat → Scaled
  | 0 => number
  | fuel + 1 =>
      if number.digits != 0 && number.digits % 10 == 0 then
        Scaled.strip ⟨number.digits / 10, number.exponent + 1⟩ fuel
      else number

/-- Where positional notation ends: it serves numbers from `10 ^ smallest` up to, not including,
`10 ^ largest`. -/
structure PositionalRange where
  smallest : Int
  largest : Int

/-- Numbers are written positionally from a hundred-thousandth up to, not including,
`10 ^ 16`. -/
def positional : PositionalRange := ⟨-5, 16⟩

/-- The text of a positive number. -/
def Scaled.text (number : Scaled) : String :=
  let number := number.strip 40
  let digits := (toString number.digits).toList
  let count : Int := digits.length
  let point := count + number.exponent
  if 0 ≤ number.exponent && point ≤ positional.largest then
    String.ofList (digits ++ List.replicate number.exponent.toNat '0') ++ ".0"
  else if 0 < point && point ≤ positional.largest then
    String.ofList (digits.take point.toNat) ++ "." ++ String.ofList (digits.drop point.toNat)
  else if positional.smallest < point && point ≤ 0 then
    "0." ++ String.ofList (List.replicate (-point).toNat '0' ++ digits)
  else
    let fraction := digits.drop 1
    String.ofList (digits.take 1) ++ (if fraction.isEmpty then "" else ".") ++
      String.ofList fraction ++ "e" ++ toString (point - 1)

/-- The text of a finite number. -/
def Binary64.text (value : Binary64) : String :=
  let sign := if value.isNegative then "-" else ""
  if value.fraction = 0 && value.biasedExponent = 0 then sign ++ "0.0"
  else sign ++ value.magnitude.text

end ConfigGate.Decimal
