/-
# Numbers in JSON

A JSON number is kept as it is WRITTEN: sign, whole digits, fraction, exponent.  What it is worth
depends on what a reader wants.

* As a whole number it must be written without sign, fraction and exponent: neither `1.0` nor `-0`
  is one.
* As a real number it is worth what its first digits, as many as fit into 64 bits, are worth after
  ONE multiplication or division by a power of ten.  Digits beyond those only move the point.  A
  number too large for binary64 has no value.
-/
import MotionContexts.Number.Decimal

namespace MotionContexts.Json

/-- A number as written. -/
structure Numeral where
  negative : Bool
  whole : List Digit
  fraction : Option (List Digit)
  exponent : Option (Bool × List Digit)
  deriving DecidableEq, Repr

namespace Numeral

/-! ## 1. The written form -/

/-- The number `n`, without a sign. -/
def ofNat (n : Nat) : Numeral := ⟨false, Digit.ofNat n, none, none⟩

/-- The characters of a number; the sign of an exponent is written only where it is a minus. -/
def toChars (n : Numeral) : List Char :=
  (if n.negative then ['-'] else []) ++ n.whole.map Digit.toChar ++
    (match n.fraction with
      | some ds => '.' :: ds.map Digit.toChar
      | none => []) ++
    (match n.exponent with
      | some (negative, ds) => 'e' :: (if negative then ['-'] else []) ++ ds.map Digit.toChar
      | none => [])

/-- Whether digits may stand before the point: at least one, and no zero in front of others. -/
def isWhole : List Digit → Bool
  | [] => false
  | [_] => true
  | d :: _ => d.val ≠ 0

/-- The fraction and what follows it; the point needs a digit after it. -/
def fraction? : List Char → Option (Option (List Digit) × List Char)
  | '.' :: s =>
    match Digit.span s with
    | ([], _) => none
    | (ds, s) => some (some ds, s)
  | s => some (none, s)

/-- The sign of an exponent and what follows it. -/
def exponentSign : List Char → Bool × List Char
  | '-' :: s => (true, s)
  | '+' :: s => (false, s)
  | s => (false, s)

/-- The exponent, up to the end of the characters; it needs a digit. -/
def exponent? : List Char → Option (Option (Bool × List Digit))
  | [] => some none
  | c :: s =>
    if c = 'e' ∨ c = 'E' then
      let (negative, s) := exponentSign s
      match Digit.span s with
      | (d :: ds, []) => some (some (negative, d :: ds))
      | _ => none
    else none

/-- The number that the characters write, all of them. -/
def ofChars? (s : List Char) : Option Numeral :=
  let (negative, s) := match s with
    | '-' :: s => (true, s)
    | s => (false, s)
  let (whole, s) := Digit.span s
  if isWhole whole then
    match fraction? s with
    | some (fraction, s) => (exponent? s).map (⟨negative, whole, fraction, ·⟩)
    | none => none
  else none

/-! ## 2. Whole numbers -/

/-- The value of a number written without sign, fraction and exponent. -/
def nat? (n : Numeral) : Option Nat :=
  if !n.negative && n.fraction.isNone && n.exponent.isNone then some (Digit.value n.whole) else none

/-- The value as a whole number below `2 ^ 32`. -/
def word? (n : Numeral) : Option UInt32 :=
  n.nat?.bind fun v => if v < UInt32.size then some (UInt32.ofNat v) else none

/-- The value as a byte. -/
def byte? (n : Numeral) : Option UInt8 :=
  n.nat?.bind fun v => if v < 256 then some (UInt8.ofNat v) else none

/-! ## 3. Real numbers -/

/-- Digits appended to a number as long as it stays below `2 ^ 64`, and the digits left over. -/
def gather (n : Nat) : List Digit → Nat × List Digit
  | [] => (n, [])
  | d :: ds => if 10 * n + d.val < UInt64.size then gather (10 * n + d.val) ds else (n, d :: ds)

/-- A power of ten, rounded to binary64. -/
def powerOfTen (k : Nat) : Binary64 := .ofNat (Nat.pow 10 k)

/-- The largest exponent of ten within the range of binary64. -/
def maxPower : Nat := 308

/-- `n × 10 ^ e` by one multiplication or division; where `e` is below the range of exponents, the
number is first brought near zero by a division of its own.  None where the product is infinite. -/
def scale (n : Nat) (e : Int) : Option Binary64 :=
  let x := Binary64.ofNat n
  if 0 ≤ e then
    if e ≤ maxPower then
      let y := x.mul (powerOfTen e.toNat)
      if y.isInfinite then none else some y
    else if x.isZero then some x
    else none
  else if -maxPower ≤ e then some (x.div (powerOfTen (-e).toNat))
  else
    let y := x.div (powerOfTen maxPower)
    if -maxPower ≤ e + maxPower then some (y.div (powerOfTen (-(e + maxPower)).toNat))
    else some .zero

/-- The written exponent. -/
def exponentValue (n : Numeral) : Int :=
  match n.exponent with
  | some (true, ds) => -(Digit.value ds : Int)
  | some (false, ds) => Digit.value ds
  | none => 0

/-- The value as a real number, if binary64 reaches that far. -/
def real? (n : Numeral) : Option Binary64 :=
  let (v, skipped) := gather 0 n.whole
  let fraction := n.fraction.getD []
  let (v, left) := gather v fraction
  let e : Int := (skipped.length : Int) - ((fraction.length - left.length : Nat) : Int)
  (scale v (e + n.exponentValue)).map fun x => if n.negative then x.neg else x

end Numeral

end MotionContexts.Json
