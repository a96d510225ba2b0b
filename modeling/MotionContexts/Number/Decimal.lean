/-
# Decimal numbers

A number written in decimal is a sign, digits and a power of ten.  Its value in binary64 is the
NEAREST number of the format.  Exponents may be written with any number of digits, so a value far
outside the range is settled by where its first digit stands, without computing the power.
-/
import MotionContexts.Number.Digit
import MotionContexts.Number.Binary64

namespace MotionContexts

/-- The number `± digits × 10 ^ exponent`. -/
structure Decimal where
  negative : Bool
  digits : List Digit
  exponent : Int
  deriving DecidableEq, Repr

namespace Decimal

/-- The nearest number of binary64.  The largest finite one has 309 digits, and everything below
`10 ^ -330` is nearer to zero than to the smallest one. -/
def toBinary64 (d : Decimal) : Binary64 :=
  let n := Digit.value d.digits
  let top : Int := (d.digits.dropWhile (· == 0)).length + d.exponent
  if n = 0 then .ofMagnitude d.negative 0
  else if 320 < top then .infinity d.negative
  else if top < -330 then .ofMagnitude d.negative 0
  else .ofRatio d.negative (n * Nat.pow 10 d.exponent.toNat) (Nat.pow 10 (-d.exponent).toNat)

/-- Digits with an optional point, `whole . fraction`, and a power of ten. -/
def ofParts (negative : Bool) (whole fraction : List Digit) (exponent : Int) : Decimal :=
  ⟨negative, whole ++ fraction, exponent - fraction.length⟩

end Decimal

end MotionContexts
