/-
# Numbers as option values

Option values are text, and some are read as numbers.  What is accepted is narrower than what a
person might write: no blanks (they are taken off before), no separators, no other base.

* A whole number is digits after an optional `+`, of a value below `2 ^ 32`.
* A real number is, after an optional sign, digits with at most one point, at least one digit in
  all, and an optional exponent; or `inf`, `infinity` or `nan` in any case.  It is rounded to the
  nearest number of binary64, and one beyond the largest is infinite.
-/
import MotionContexts.Number.Decimal

namespace MotionContexts.Literal

/-- The text as digits, if it is nothing else and not empty. -/
def digits? (s : List Char) : Option (List Digit) :=
  match Digit.span s with
  | (d :: ds, []) => some (d :: ds)
  | _ => none

/-- The text without the one `+` it may start with. -/
def dropPlus : List Char → List Char
  | '+' :: s => s
  | s => s

/-- A whole number below `2 ^ 32`. -/
def word? (s : List Char) : Option UInt32 :=
  match digits? (dropPlus s) with
  | some ds => if Digit.value ds < UInt32.size then some (UInt32.ofNat (Digit.value ds)) else none
  | none => none

/-- A sign, if there is one; whether it is a minus, and what follows. -/
def sign : List Char → Bool × List Char
  | '-' :: s => (true, s)
  | '+' :: s => (false, s)
  | s => (false, s)

/-- An exponent up to the end of the text: `e` or `E`, an optional sign, digits. -/
def exponent? : List Char → Option Int
  | [] => some 0
  | c :: s =>
    if c = 'e' ∨ c = 'E' then
      let (negative, s) := sign s
      (digits? s).map fun ds => if negative then -(Digit.value ds : Int) else Digit.value ds
    else none

/-- The fraction after the whole digits: what follows a point, if there is one. -/
def fraction : List Char → List Digit × List Char
  | '.' :: s => Digit.span s
  | s => ([], s)

/-- A decimal number without its sign, up to the end of the text. -/
def decimal? (negative : Bool) (s : List Char) : Option Decimal :=
  let (whole, s) := Digit.span s
  let (part, s) := fraction s
  if whole.isEmpty && part.isEmpty then none
  else (exponent? s).map (Decimal.ofParts negative whole part)

/-- A real number. -/
def real? (s : List Char) : Option Binary64 :=
  let (negative, s) := sign s
  match decimal? negative s with
  | some d => some d.toBinary64
  | none =>
    let word := String.ofList (s.map Char.toLower)
    if word = "inf" || word = "infinity" then some (.infinity negative)
    else if word = "nan" then some (.notANumber negative)
    else none

end MotionContexts.Literal
