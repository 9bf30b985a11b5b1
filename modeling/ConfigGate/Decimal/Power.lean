/-!
# Powers of two and ten

The powers that bound words and scale decimal numbers, and the counts that fit a word.
-/

namespace ConfigGate.Decimal

/-- Two to the `exponent`. -/
def twoTo (exponent : Nat) : Nat := Nat.pow 2 exponent

/-- Ten to the `exponent`. -/
def tenTo (exponent : Nat) : Nat := Nat.pow 10 exponent

/-- The count of 32 bits that an integer is. -/
def count32? (value : Int) : Option UInt32 :=
  if 0 ≤ value && value.toNat < twoTo 32 then some value.toNat.toUInt32 else none

end ConfigGate.Decimal
