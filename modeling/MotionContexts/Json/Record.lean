/-
# JSON values as documents

The rules by which a JSON value is taken for a text, a number, a list, a map or a record.

* In a map and in a record every field name has to be text; in a map a name may be repeated.
* In a record a KNOWN field may not be repeated, and unknown ones are not looked into.  A list of
  at most as many items as there are fields gives the first fields in order.
* A reader that does not know yet what a value is for has to hold it, and holds only what it can:
  texts made of characters, numbers within the range of binary64, brackets at most 127 deep.
-/
import MotionContexts.Datum
import MotionContexts.Json.Value

namespace MotionContexts.Json

/-! ## 1. The view of a document -/

/-- The text of a value. -/
def text? : Json → Option String
  | .text s => s
  | _ => none

/-- The number of a value. -/
def number? : Json → Option Numeral
  | .number n => some n
  | _ => none

/-- The items of an array. -/
def items? : Json → Option (List Json)
  | .array items => some items
  | _ => none

/-- The fields of an object, every name a text. -/
def entries? : Json → Option (List (String × Json))
  | .object fields => fields.mapM fun f => f.1.map fun k => (k, f.2)
  | _ => none

/-- The fields with a known name, each at most once. -/
def known? (names : List String) (fields : List (String × Json)) : Option (List (String × Json)) :=
  let known := fields.filter fun f => names.contains f.1
  if (known.map (·.1)).Nodup then some known else none

/-- The known fields of a record. -/
def fields? (names : List String) : Json → Option (List (String × Json))
  | .array items => if items.length ≤ names.length then some (names.zip items) else none
  | v => v.entries?.bind (known? names)

instance : Datum Json where
  text? := text?
  isNull v := match v with
    | .null => true
    | _ => false
  word? v := v.number?.bind Numeral.word?
  real? v := v.number?.bind Numeral.real?
  items? := items?
  entries? := entries?
  fields? := fields?

/-! ## 2. Values that are held before their meaning is known -/

/-- How deep brackets may nest around and inside a value that is held. -/
def maxDepth : Nat := 127

mutual

/-- Whether a value can be held where brackets may still nest `room` deep. -/
def holdable (room : Nat) : Json → Bool
  | .null => true
  | .bool _ => true
  | .number n => n.real?.isSome
  | .text s => s.isSome
  | .array items => 0 < room && holdableItems (room - 1) items
  | .object fields => 0 < room && holdableFields (room - 1) fields

def holdableItems (room : Nat) : List Json → Bool
  | [] => true
  | v :: vs => holdable room v && holdableItems room vs

def holdableFields (room : Nat) : List (Option String × Json) → Bool
  | [] => true
  | (k, v) :: fs => k.isSome && holdable room v && holdableFields room fs

end

end MotionContexts.Json
