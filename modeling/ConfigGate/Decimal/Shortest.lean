import ConfigGate.Decimal.Power

/-!
# Shortest decimal digits

Of the decimal numbers that round to a given binary floating-point number, the one with the fewest
digits, and of those the nearest. A binary number is `mantissa * 2 ^ exponent`; the numbers that
round to it form an interval that reaches half way to its neighbours, ends included when the
mantissa is even.

All arithmetic is exact: a quotient is a pair of natural numbers.
-/

namespace ConfigGate.Decimal

/-- A positive decimal number, `digits * 10 ^ exponent`. -/
structure Scaled where
  digits : Nat
  exponent : Int
deriving DecidableEq, Repr

/-- The largest power of ten that is not above `num / den`, searched from `start` downwards. -/
def floorLog10 (num den : Nat) : Nat → Int → Int
  | 0, start => start
  | fuel + 1, start =>
      let reached :=
        if 0 ≤ start then decide (den * tenTo start.toNat ≤ num)
        else decide (den ≤ num * tenTo (-start).toNat)
      if reached then start else floorLog10 num den fuel (start - 1)

/-- The interval of the quotients that round to one binary number, over one denominator. -/
structure Interval where
  low : Nat
  value : Nat
  high : Nat
  den : Nat
  closed : Bool

/-- Whether `digits * 10 ^ exponent` lies in the interval. -/
def Interval.holds (interval : Interval) (candidate : Scaled) : Bool :=
  let num := if 0 ≤ candidate.exponent then candidate.digits * tenTo candidate.exponent.toNat
    else candidate.digits
  let den := if 0 ≤ candidate.exponent then 1 else tenTo (-candidate.exponent).toNat
  let left := interval.low * den
  let middle := num * interval.den
  let right := interval.high * den
  if interval.closed then left ≤ middle && middle ≤ right else left < middle && middle < right

/-- The neighbour of the interval's value on the grid of multiples of `10 ^ exponent` that lies in
the interval; of two such neighbours the nearer one, on a tie the even one. -/
def Interval.onGrid? (interval : Interval) (exponent : Int) : Option Scaled :=
  let num := if 0 ≤ exponent then interval.value else interval.value * tenTo (-exponent).toNat
  let den := if 0 ≤ exponent then interval.den * tenTo exponent.toNat else interval.den
  let below : Scaled := ⟨num / den, exponent⟩
  let above : Scaled := ⟨num / den + 1, exponent⟩
  let twice := 2 * (num % den)
  match interval.holds below && below.digits != 0, interval.holds above with
  | true, true =>
      if twice < den || (twice == den && below.digits % 2 == 0) then some below else some above
  | true, false => some below
  | false, true => some above
  | false, false => none

/-- The first grid with a candidate, from coarse to fine. -/
def Interval.firstOnGrid (interval : Interval) : Nat → Int → Scaled
  | 0, exponent => ⟨interval.value, exponent⟩
  | fuel + 1, exponent =>
      match interval.onGrid? exponent with
      | some found => found
      | none => interval.firstOnGrid fuel (exponent - 1)

/-- The shortest decimal that rounds to `mantissa * 2 ^ exponent`. `edge` says that the gap below
the number is half the gap above it, as at a power of two. -/
def shortest (mantissa : Nat) (exponent : Int) (edge : Bool) : Scaled :=
  let scale := if 0 ≤ exponent then twoTo exponent.toNat else 1
  let den := 4 * (if 0 ≤ exponent then 1 else twoTo (-exponent).toNat)
  let value := 4 * mantissa * scale
  let interval : Interval :=
    { low := value - (if edge then 1 else 2) * scale
      value
      high := value + 2 * scale
      den
      closed := mantissa % 2 == 0 }
  let top := floorLog10 value den 700 ((Nat.log2 (value / den) : Int) * 31 / 100 + 1)
  interval.firstOnGrid 20 top

end ConfigGate.Decimal
