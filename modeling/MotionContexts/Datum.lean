/-
# Values of a self-describing document

Configuration documents come in two formats, JSON and TOML, and what a reader wants from a value
is the same in both: a text, a whole number in range, a real number, a list, the fields of a
record.  `Datum` is that view.  A reader written against it reads both formats, and the formats'
own rules (which number is whole, what a repeated field means) stay in their instances.

A record has a fixed list of field names.  It is written as an object, whose other fields are
ignored, or as a list of its fields in order.
-/
import MotionContexts.Number.Binary64
import MotionContexts.Table

namespace MotionContexts

universe u

/-- How a document's values are looked at. -/
class Datum (δ : Type u) where
  /-- The text, if the value is one. -/
  text? : δ → Option String
  /-- Whether the value says that there is none. -/
  isNull : δ → Bool
  /-- The value as a whole number below `2 ^ 32`. -/
  word? : δ → Option UInt32
  /-- The value as a real number. -/
  real? : δ → Option Binary64
  /-- The items, if the value is a list. -/
  items? : δ → Option (List δ)
  /-- The entries in order, if the value is an object: an object taken as a MAP. -/
  entries? : δ → Option (List (String × δ))
  /-- The known fields that are present, if the value can be taken as a RECORD of these fields. -/
  fields? : List String → δ → Option (List (String × δ))

namespace Datum

variable {δ : Type u} [Datum δ]

/-! ## Reading the fields of a record -/

/-- Field values by name, as `fields?` gives them. -/
abbrev Fields (δ : Type u) := List (String × δ)

/-- A field that has to be there. -/
def Fields.required {α : Type} (f : Fields δ) (name : String) (read : δ → Option α) : Option α :=
  (Entries.find name f).bind read

/-- A field that may be missing, but NOT unreadable. -/
def Fields.withDefault {α : Type} (f : Fields δ) (name : String) (read : δ → Option α) (a : α) :
    Option α :=
  match Entries.find name f with
  | some v => read v
  | none => some a

/-- A text or nothing. -/
def optionalText? (v : δ) : Option (Option String) :=
  if isNull v then some none else (text? v).map some

/-- A list of values that can all be read. -/
def list? {α : Type} (read : δ → Option α) (v : δ) : Option (List α) :=
  (items? v).bind fun items => items.mapM read

/-- An object whose values are all texts; of a repeated key the last value counts. -/
def textTable? (v : δ) : Option (Table String) :=
  (entries? v).bind fun es =>
    (es.mapM fun e => (text? e.2).map fun s => (e.1, s)).map Table.ofList

end Datum

end MotionContexts
