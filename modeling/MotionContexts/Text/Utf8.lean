/-
# Files of bytes, texts of characters

A file holds bytes; what is read from it is text.  `Utf8.symbols` reads bytes as UTF-8 and keeps
going past bytes that no character has: each of them becomes a symbol that is NOT a character
(`none`), because a reader may skip over text that it does not look into.  `Utf8.text?` wants
characters only.
-/
namespace MotionContexts.Utf8

/-- A piece of text as read from somewhere: a character, or something that is none. -/
abbrev Symbol := Option Char

/-- Whether a byte can only follow the first byte of a character. -/
def isTail (b : UInt8) : Bool := 0x80 ≤ b && b ≤ 0xBF

/-- The six low bits of a tail byte. -/
def tailBits (b : UInt8) : Nat := b.toNat % 64

/-- The character of two bytes. -/
def two? (a b : UInt8) : Option Char :=
  if 0xC2 ≤ a && a ≤ 0xDF && isTail b then
    some (Char.ofNat ((a.toNat % 32) * 64 + tailBits b))
  else none

/-- The character of three bytes: no overlong form, no surrogate. -/
def three? (a b c : UInt8) : Option Char :=
  let n := (a.toNat % 16) * 4096 + tailBits b * 64 + tailBits c
  if 0xE0 ≤ a && a ≤ 0xEF && isTail b && isTail c && 0x800 ≤ n && !(0xD800 ≤ n && n ≤ 0xDFFF) then
    some (Char.ofNat n)
  else none

/-- The character of four bytes: no overlong form, nothing above U+10FFFF. -/
def four? (a b c d : UInt8) : Option Char :=
  let n := (a.toNat % 8) * 262144 + tailBits b * 4096 + tailBits c * 64 + tailBits d
  if 0xF0 ≤ a && a ≤ 0xF4 && isTail b && isTail c && isTail d && 0x10000 ≤ n && n ≤ 0x10FFFF then
    some (Char.ofNat n)
  else none

/-- The character that a first byte starts with the bytes after it, and how many of those it takes. -/
def char? (a : UInt8) (t : List UInt8) : Option (Char × Nat) :=
  if a < 0x80 then some (Char.ofNat a.toNat, 0)
  else match t with
    | [] => none
    | [b] => (two? a b).map (·, 1)
    | [b, c] => (two? a b).map (·, 1) <|> (three? a b c).map (·, 2)
    | b :: c :: d :: _ =>
      (two? a b).map (·, 1) <|> (three? a b c).map (·, 2) <|> (four? a b c d).map (·, 3)

/-- Bytes read as UTF-8 after passing over some that are already read. -/
def symbolsAfter : Nat → List UInt8 → List Symbol
  | _, [] => []
  | n + 1, _ :: t => symbolsAfter n t
  | 0, a :: t =>
    match char? a t with
    | some (c, n) => some c :: symbolsAfter n t
    | none => none :: symbolsAfter 0 t

/-- Bytes read as UTF-8, a byte that belongs to no character as `none`. -/
def symbols (bytes : List UInt8) : List Symbol := symbolsAfter 0 bytes

/-- The symbols of a text: characters only. -/
def ofText (s : String) : List Symbol := s.toList.map some

/-- The bytes of a text. -/
def encode (s : String) : List UInt8 := s.toList.flatMap String.utf8EncodeChar

/-- Bytes as text, if they are UTF-8 throughout. -/
def text? (bytes : List UInt8) : Option String :=
  ((symbols bytes).mapM id).map String.ofList

end MotionContexts.Utf8
