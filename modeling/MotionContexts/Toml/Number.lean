/-
# Numbers in TOML

Whole numbers are decimal with an optional sign, or hexadecimal, octal or binary without one, and
have to fit into 64 bits.  A number with a fraction or an exponent is real, and so are `inf` and
`nan`.  Single underscores may stand between digits.  A real number beyond the largest one is
refused; far below the smallest one it is negative infinity.
-/
import MotionContexts.Number.Decimal
import MotionContexts.Toml.Text

namespace MotionContexts.Toml

/-! ## 1. Digits -/

/-- Digits of a base behind a first one, with single underscores between. -/
def moreDigits (digit? : Char → Option Nat) : Reader (List Nat)
  | [] => some ([], [])
  | ['_'] => none
  | '_' :: c :: s =>
    match digit? c with
    | some d => (moreDigits digit? s).map fun r => (d :: r.1, r.2)
    | none => none
  | c :: s =>
    match digit? c with
    | some d => (moreDigits digit? s).map fun r => (d :: r.1, r.2)
    | none => some ([], c :: s)

/-- Digits of a base, at least one. -/
def digits (digit? : Char → Option Nat) : Reader (List Nat)
  | [] => none
  | c :: s =>
    match digit? c with
    | some d => (moreDigits digit? s).map fun r => (d :: r.1, r.2)
    | none => none

/-- The number that digits of a base write. -/
def digitValue (base : Nat) (ds : List Nat) : Nat := ds.foldl (fun n d => base * n + d) 0

/-- A digit below the base. -/
def digitOf? (base : Nat) (c : Char) : Option Nat :=
  (Json.hexDigit? c).bind fun d => if d < base then some d else none

/-- The whole part of a decimal number: a zero stands alone. -/
def wholeDigits : Reader (List Nat)
  | '0' :: s => some ([0], s)
  | s => digits (digitOf? 10) s

/-! ## 2. Whole and real numbers -/

/-- A number of either sort. -/
inductive Number where
  | integer (n : Int)
  | real (x : Binary64)
  deriving DecidableEq, Repr

/-- A sign, if there is one: whether it is a minus. -/
def sign : List Char → Bool × List Char
  | '-' :: s => (true, s)
  | '+' :: s => (false, s)
  | s => (false, s)

/-- An integer of 64 bits. -/
def integer? (negative : Bool) (n : Nat) : Option Number :=
  let v : Int := if negative then -(n : Int) else n
  if -Int.pow 2 63 ≤ v ∧ v < Int.pow 2 63 then some (.integer v) else none

/-- The fraction of a number, none if there is no point. -/
def fraction? : Reader (Option (List Nat))
  | '.' :: s => (digits (digitOf? 10) s).map fun r => (some r.1, r.2)
  | s => some (none, s)

/-- The exponent of a number, none if there is no mark of one. -/
def exponent? : Reader (Option Int)
  | [] => some (none, [])
  | c :: s =>
    if c = 'e' ∨ c = 'E' then
      let (negative, s) := sign s
      (digits (digitOf? 10) s).map fun r =>
        let e : Int := digitValue 10 r.1
        (some (if negative then -e else e), r.2)
    else some (none, c :: s)

/-- A real number from its parts, unless it is beyond the largest one. -/
def real? (negative : Bool) (whole fraction : List Nat) (exponent : Int) : Option Number :=
  let ds := (whole ++ fraction).filterMap fun d => if h : d < 10 then some (⟨d, h⟩ : Digit) else none
  let x := (Decimal.mk negative ds (exponent - fraction.length)).toBinary64
  if x = .infinity false then none else some (.real x)

/-- A decimal number behind its sign. -/
def decimal (negative : Bool) (s : List Char) : Option (Number × List Char) := do
  let (whole, s) ← wholeDigits s
  let (fraction, s) ← fraction? s
  let (exponent, s) ← exponent? s
  let number ← match fraction, exponent with
    | none, none => integer? negative (digitValue 10 whole)
    | _, _ => real? negative whole (fraction.getD []) (exponent.getD 0)
  return (number, s)

/-- `inf` or `nan` behind its sign. -/
def special? (negative : Bool) : List Char → Option (Number × List Char)
  | 'i' :: 'n' :: 'f' :: s => some (.real (.infinity negative), s)
  | 'n' :: 'a' :: 'n' :: s => some (.real (.notANumber negative), s)
  | _ => none

/-- Digits of a base that is not ten. -/
def based (base : Nat) (s : List Char) : Option (Number × List Char) :=
  (digits (digitOf? base) s).bind fun r => (integer? false (digitValue base r.1)).map (·, r.2)

/-- A number. -/
def number? : Reader Number
  | '0' :: 'x' :: s => based 16 s
  | '0' :: 'o' :: s => based 8 s
  | '0' :: 'b' :: s => based 2 s
  | s =>
    let (negative, s) := sign s
    match special? negative s with
    | some r => some r
    | none => decimal negative s

end MotionContexts.Toml
