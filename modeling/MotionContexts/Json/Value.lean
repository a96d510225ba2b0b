/-
# JSON values, read and written

A value is read from its tokens by a machine with a stack of open brackets, one token at a time,
so a value may nest as deeply as it likes.  An object is its list of fields IN ORDER, repetitions
included: what a repeated field means is for the reader to say.

A value is written compactly, without any blank.
-/
import MotionContexts.Json.Token

namespace MotionContexts

/-- A JSON value.  A text or a field name is `none` where it is not made of characters. -/
inductive Json where
  | null
  | bool (b : Bool)
  | number (n : Json.Numeral)
  | text (s : Option String)
  | array (items : List Json)
  | object (fields : List (Option String × Json))

namespace Json

/-! ## 1. Reading -/

/-- An open bracket with what stands in it so far, last first. -/
inductive Frame where
  | array (items : List Json)
  | object (fields : List (Option String × Json))
  /-- An object whose last field has a name but no value yet. -/
  | field (fields : List (Option String × Json)) (name : Option String)

/-- What may come next. -/
inductive Expect where
  /-- A value. -/
  | value
  /-- The first item of an array, or its end. -/
  | firstItem
  /-- The first field of an object, or its end. -/
  | firstField
  /-- A field name. -/
  | name
  /-- The colon behind a field name. -/
  | colon
  /-- A comma or an end: this value is complete. -/
  | after (v : Json)

/-- A token where a value may stand. -/
def begin (frames : List Frame) : Token → Option (Expect × List Frame)
  | .null => some (.after .null, frames)
  | .bool b => some (.after (.bool b), frames)
  | .number n => some (.after (.number n), frames)
  | .text s => some (.after (.text s), frames)
  | .beginArray => some (.firstItem, .array [] :: frames)
  | .beginObject => some (.firstField, .object [] :: frames)
  | _ => none

/-- One token. -/
def readStep : Expect → List Frame → Token → Option (Expect × List Frame)
  | .value, fs, t => begin fs t
  | .firstItem, .array items :: fs, .endArray => some (.after (.array items.reverse), fs)
  | .firstItem, fs, t => begin fs t
  | .firstField, .object fields :: fs, .endObject => some (.after (.object fields.reverse), fs)
  | .firstField, .object fields :: fs, .text k => some (.colon, .field fields k :: fs)
  | .name, .object fields :: fs, .text k => some (.colon, .field fields k :: fs)
  | .colon, fs, .colon => some (.value, fs)
  | .after v, .array items :: fs, .comma => some (.value, .array (v :: items) :: fs)
  | .after v, .array items :: fs, .endArray => some (.after (.array (v :: items).reverse), fs)
  | .after v, .field fields k :: fs, .comma => some (.name, .object ((k, v) :: fields) :: fs)
  | .after v, .field fields k :: fs, .endObject =>
    some (.after (.object ((k, v) :: fields).reverse), fs)
  | _, _, _ => none

/-- All tokens; at the end the value is complete and no bracket is open. -/
def read : Expect → List Frame → List Token → Option Json
  | .after v, [], [] => some v
  | _, _, [] => none
  | e, fs, t :: ts => (readStep e fs t).bind fun r => read r.1 r.2 ts

/-- The value of a list of symbols, nothing but blanks around it. -/
def ofSymbols? (s : List Utf8.Symbol) : Option Json := (tokens? s).bind (read .value [])

/-- The value that a text writes. -/
def parse? (s : String) : Option Json := ofSymbols? (Utf8.ofText s)

/-- The value that the bytes of a file write. -/
def ofBytes? (bytes : List UInt8) : Option Json := ofSymbols? (Utf8.symbols bytes)

/-! ## 2. Writing -/

mutual

/-- The tokens of a value. -/
def tokens : Json → List Token
  | .null => [.null]
  | .bool b => [.bool b]
  | .number n => [.number n]
  | .text s => [.text s]
  | .array [] => [.beginArray, .endArray]
  | .array (v :: vs) => .beginArray :: (tokens v ++ itemTokens vs)
  | .object [] => [.beginObject, .endObject]
  | .object ((k, v) :: fs) => .beginObject :: .text k :: .colon :: (tokens v ++ fieldTokens fs)

/-- The tokens of the items behind the first one, and the end of their array. -/
def itemTokens : List Json → List Token
  | [] => [.endArray]
  | v :: vs => .comma :: (tokens v ++ itemTokens vs)

/-- The tokens of the fields behind the first one, and the end of their object. -/
def fieldTokens : List (Option String × Json) → List Token
  | [] => [.endObject]
  | (k, v) :: fs => .comma :: .text k :: .colon :: (tokens v ++ fieldTokens fs)

end

/-- The text of a value, without any blank. -/
def compact (v : Json) : String := String.ofList (v.tokens.flatMap Token.chars)

/-- A text value. -/
def ofString (s : String) : Json := .text (some s)

/-- A number without a sign. -/
def ofNat (n : Nat) : Json := .number (.ofNat n)

/-- An object with the given fields in this order. -/
def ofFields (fs : List (String × Json)) : Json := .object (fs.map fun f => (some f.1, f.2))

end Json

end MotionContexts
