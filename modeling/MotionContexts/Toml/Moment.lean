/-
# Dates and times in TOML

A moment is a date, a time of day or both, and with both an offset.  Nothing in a manager document
is a moment, but a document may hold moments, and they have to be well-formed: months and days of
the calendar, hours below 24, minutes below 60, seconds up to 60.  A moment is written back in a
normal form: a `T` between date and time, at most nine digits of a second, no zeros at their end.
-/
import MotionContexts.Toml.Number

namespace MotionContexts.Toml

/-! ## 1. The parts -/

/-- A fixed count of digits, as a number. -/
def fixedDigits (count : Nat) (s : List Char) : Option (Nat × List Char) :=
  let ds := (s.take count).filterMap (digitOf? 10)
  if ds.length = count then some (digitValue 10 ds, s.drop count) else none

/-- A fixed count of digits that writes a number within bounds. -/
def bounded (count low high : Nat) (s : List Char) : Option (Nat × List Char) :=
  match fixedDigits count s with
  | some (n, s) => if low ≤ n ∧ n ≤ high then some (n, s) else none
  | none => none

/-- A character. -/
def char? (c : Char) : List Char → Option (List Char)
  | d :: s => if d = c then some s else none
  | [] => none

structure Date where
  year : Nat
  month : Nat
  day : Nat
  deriving DecidableEq, Repr

/-- The days of a month. -/
def daysIn (year month : Nat) : Nat :=
  if month = 2 then
    if year % 4 = 0 ∧ (year % 100 ≠ 0 ∨ year % 400 = 0) then 29 else 28
  else if month = 4 ∨ month = 6 ∨ month = 9 ∨ month = 11 then 30
  else 31

structure TimeOfDay where
  hour : Nat
  minute : Nat
  second : Nat
  nanosecond : Nat
  deriving DecidableEq, Repr

/-- A distance from universal time, in minutes. -/
inductive Offset where
  | universal
  | minutes (n : Int)
  deriving DecidableEq, Repr

structure Moment where
  date : Option Date
  time : Option TimeOfDay
  offset : Option Offset
  deriving DecidableEq, Repr

/-! ## 2. Reading -/

def date? (s : List Char) : Option (Date × List Char) := do
  let (year, s) ← fixedDigits 4 s
  let s ← char? '-' s
  let (month, s) ← bounded 2 1 12 s
  let s ← char? '-' s
  let (day, s) ← bounded 2 1 31 s
  if day ≤ daysIn year month then return (⟨year, month, day⟩, s) else none

/-- The digits of a second behind the point; what is beyond nine of them is cut off. -/
def nanoseconds (ds : List Nat) : Nat :=
  digitValue 10 (ds.take 9) * Nat.pow 10 (9 - (ds.take 9).length)

/-- A part of a second, if there is a point with a digit behind it. -/
def secondFraction (s : List Char) : Nat × List Char :=
  match s with
  | '.' :: t =>
    let ds := (t.takeWhile Char.isDigit).filterMap (digitOf? 10)
    if ds = [] then (0, s) else (nanoseconds ds, t.drop ds.length)
  | _ => (0, s)

def time? (s : List Char) : Option (TimeOfDay × List Char) := do
  let (hour, s) ← bounded 2 0 23 s
  let s ← char? ':' s
  let (minute, s) ← bounded 2 0 59 s
  let s ← char? ':' s
  let (second, s) ← bounded 2 0 60 s
  let (nanosecond, s) := secondFraction s
  return (⟨hour, minute, second, nanosecond⟩, s)

/-- An offset, if there is one; a sign has to be followed by one. -/
def offset? (s : List Char) : Option (Option Offset × List Char) :=
  match s with
  | 'Z' :: s => some (some .universal, s)
  | 'z' :: s => some (some .universal, s)
  | c :: t =>
    if c = '+' ∨ c = '-' then do
      let (hour, t) ← bounded 2 0 23 t
      let t ← char? ':' t
      let (minute, t) ← bounded 2 0 59 t
      let n : Int := 60 * hour + minute
      return (some (.minutes (if c = '-' then -n else n)), t)
    else some (none, s)
  | [] => some (none, [])

/-- What follows a date: a time behind `T` or a space, and perhaps an offset. -/
def timeAfter (date : Date) (s : List Char) : Option (Moment × List Char) :=
  match s with
  | c :: t =>
    if (c = 'T' ∨ c = 't' ∨ c = ' ') ∧ (t.take 2).all Char.isDigit ∧ t[2]? = some ':' then do
      let (time, t) ← time? t
      let (offset, t) ← offset? t
      return (⟨some date, some time, offset⟩, t)
    else some (⟨some date, none, none⟩, s)
  | [] => some (⟨some date, none, none⟩, [])

/-- Whether characters start like a date: four digits and a hyphen. -/
def startsDate (s : List Char) : Bool :=
  (s.take 4).length = 4 && (s.take 4).all Char.isDigit && s[4]? = some '-'

/-- Whether characters start like a time of day: two digits and a colon. -/
def startsTime (s : List Char) : Bool :=
  (s.take 2).length = 2 && (s.take 2).all Char.isDigit && s[2]? = some ':'

/-- A date with what follows it, or a time of day. -/
def moment? (s : List Char) : Option (Moment × List Char) :=
  if startsDate s then (date? s).bind fun r => timeAfter r.1 r.2
  else (time? s).map fun r => (⟨none, some r.1, none⟩, r.2)

/-! ## 3. Writing -/

/-- A number with zeros in front, up to a width. -/
def padded (width n : Nat) : List Char :=
  let ds := (Digit.ofNat n).map Digit.toChar
  List.replicate (width - ds.length) '0' ++ ds

def Date.chars (d : Date) : List Char :=
  padded 4 d.year ++ ['-'] ++ padded 2 d.month ++ ['-'] ++ padded 2 d.day

def TimeOfDay.chars (t : TimeOfDay) : List Char :=
  padded 2 t.hour ++ [':'] ++ padded 2 t.minute ++ [':'] ++ padded 2 t.second ++
    (if t.nanosecond = 0 then []
      else '.' :: ((padded 9 t.nanosecond).reverse.dropWhile (· == '0')).reverse)

def Offset.chars : Offset → List Char
  | .universal => ['Z']
  | .minutes n =>
    (if n < 0 then '-' else '+') :: (padded 2 (n.natAbs / 60) ++ [':'] ++ padded 2 (n.natAbs % 60))

/-- The normal form of a moment. -/
def Moment.text (m : Moment) : String :=
  let date := match m.date with
    | some d => d.chars
    | none => []
  let between := if m.date.isSome && m.time.isSome then ['T'] else []
  let time := match m.time with
    | some t => t.chars
    | none => []
  let offset := match m.offset with
    | some o => o.chars
    | none => []
  String.ofList (date ++ between ++ time ++ offset)

end MotionContexts.Toml
