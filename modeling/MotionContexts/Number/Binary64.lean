/-
# Binary floating point in 64 bits

The one real-valued limit is a number of the IEEE 754 format binary64, and answers show its BITS.
So a `Binary64` is those bits, and every operation is exact arithmetic on natural numbers followed
by ONE rounding to the nearest number of the format, a tie going to the even significand.

Main statement: `roundHalfEven_spec`, the rounded quotient is off by at most half a unit.
-/
namespace MotionContexts

/-- A number of the format binary64, as its bits. -/
structure Binary64 where
  bits : UInt64
  deriving DecidableEq, Repr

namespace Binary64

/-! ## 1. Rounding a quotient -/

/-- `num / den` as the nearest whole number, a half going to the even neighbour. -/
def roundHalfEven (num den : Nat) : Nat :=
  let q := num / den
  let r := num % den
  if 2 * r < den then q
  else if den < 2 * r then q + 1
  else q + q % 2

/-- The rounded quotient is off by at most half a unit. -/
theorem roundHalfEven_spec (num den : Nat) (h : 0 < den) :
    2 * num ≤ 2 * den * roundHalfEven num den + den ∧
      2 * den * roundHalfEven num den ≤ 2 * num + den := by
  have hd := Nat.div_add_mod num den
  have hm := Nat.mod_lt num h
  have e1 : 2 * den * (num / den) = 2 * (den * (num / den)) := by rw [Nat.mul_assoc]
  have e2 : 2 * den * (num / den + 1) = 2 * (den * (num / den)) + 2 * den := by
    rw [Nat.mul_add, Nat.mul_one, e1]
  unfold roundHalfEven
  simp only
  split
  · constructor <;> omega
  · split
    · constructor <;> omega
    · rcases Nat.mod_two_eq_zero_or_one (num / den) with h2 | h2
      · rw [h2, Nat.add_zero]
        constructor <;> omega
      · rw [h2]
        constructor <;> omega

/-! ## 2. The nearest number of the format -/

/-- The whole number `⌊log₂ (num / den)⌋`, for a positive quotient. -/
def floorLog (num den : Nat) : Int :=
  let k : Int := (Nat.log2 num : Int) - (Nat.log2 den : Int)
  if den * Nat.pow 2 k.toNat ≤ num * Nat.pow 2 (-k).toNat then k else k - 1

/-- The bits of positive infinity. -/
def infinityBits : Nat := 0x7FF * Nat.pow 2 52

/-- The bits of the nearest number to a quotient, without a sign.  Significand and exponent are
laid end to end, so a significand that rounds up to the next power of two carries by itself. -/
def magnitude (num den : Nat) : Nat :=
  if num = 0 then 0
  else
    let q : Int := max (floorLog num den - 52) (-1074)
    let m := roundHalfEven (num * Nat.pow 2 (-q).toNat) (den * Nat.pow 2 q.toNat)
    min ((q + 1074).toNat * Nat.pow 2 52 + m) infinityBits

/-- Bits with a sign. -/
def ofMagnitude (negative : Bool) (m : Nat) : Binary64 :=
  ⟨UInt64.ofNat (m + if negative then Nat.pow 2 63 else 0)⟩

/-- The nearest number to `± num / den`; infinity where that is beyond the largest. -/
def ofRatio (negative : Bool) (num den : Nat) : Binary64 := ofMagnitude negative (magnitude num den)

/-- The nearest number to a natural number. -/
def ofNat (n : Nat) : Binary64 := ofRatio false n 1

/-- The nearest number to an integer; zero is positive. -/
def ofInt (n : Int) : Binary64 := ofRatio (n < 0) n.natAbs 1

def zero : Binary64 := ⟨0⟩

/-- Infinity of either sign. -/
def infinity (negative : Bool) : Binary64 := ofMagnitude negative infinityBits

/-- The quiet not-a-number of either sign. -/
def notANumber (negative : Bool) : Binary64 := ofMagnitude negative (infinityBits + Nat.pow 2 51)

/-! ## 3. Reading the bits -/

/-- The exponent field. -/
def exponentField (x : Binary64) : Nat := x.bits.toNat / Nat.pow 2 52 % Nat.pow 2 11

/-- The fraction field. -/
def fractionField (x : Binary64) : Nat := x.bits.toNat % Nat.pow 2 52

def isNaN (x : Binary64) : Bool := x.exponentField = 0x7FF && x.fractionField ≠ 0

def isInfinite (x : Binary64) : Bool := x.exponentField = 0x7FF && x.fractionField = 0

/-- Zero of either sign. -/
def isZero (x : Binary64) : Bool := x.exponentField = 0 && x.fractionField = 0

/-- The same number with the other sign. -/
def neg (x : Binary64) : Binary64 := ⟨x.bits ^^^ 0x8000000000000000⟩

/-- The magnitude of a finite number as a quotient. -/
def ratio (x : Binary64) : Nat × Nat :=
  let e := x.exponentField
  let m := if e = 0 then x.fractionField else x.fractionField + Nat.pow 2 52
  let q : Int := (max e 1 : Nat) - 1075
  (m * Nat.pow 2 q.toNat, Nat.pow 2 (-q).toNat)

/-! ## 4. Products and quotients of numbers without a sign -/

/-- The product of two finite numbers without a sign, rounded once. -/
def mul (x y : Binary64) : Binary64 :=
  ofRatio false (x.ratio.1 * y.ratio.1) (x.ratio.2 * y.ratio.2)

/-- The quotient of two finite numbers without a sign, the second one positive, rounded once. -/
def div (x y : Binary64) : Binary64 :=
  ofRatio false (x.ratio.1 * y.ratio.2) (x.ratio.2 * y.ratio.1)

end Binary64

end MotionContexts
