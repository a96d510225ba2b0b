/-
# Tokens of JSON

The characters of a JSON text fall into tokens: brackets, commas, colons, the three words, numbers
and texts.  The scanner reads ONE symbol at a time and keeps no more than the token it is in, so it
is a recursion on the symbols.

A text between quotes may hold things that are no characters: half of a surrogate pair written as
an escape, or bytes that are no UTF-8.  Such a text is a token all the same (`text none`), since
nobody may ever look at it.
-/
import MotionContexts.Json.Numeral
import MotionContexts.Text.Utf8

namespace MotionContexts.Json

inductive Token where
  | beginArray | endArray | beginObject | endObject | comma | colon | null
  | bool (b : Bool)
  | number (n : Numeral)
  | text (s : Option String)
  deriving DecidableEq, Repr

/-! ## 1. Texts -/

/-- What stands between quotes: code points and halves of surrogate pairs, or something else. -/
abbrev Unit16 := Option Nat

/-- The first half of a surrogate pair. -/
def isHigh (n : Nat) : Bool := 0xD800 ≤ n && n ≤ 0xDBFF

/-- The second half of a surrogate pair. -/
def isLow (n : Nat) : Bool := 0xDC00 ≤ n && n ≤ 0xDFFF

/-- The characters, every half of a surrogate pair beside its other half. -/
def characters? : List Unit16 → Option (List Char)
  | [] => some []
  | some h :: some l :: rest =>
    if isHigh h then
      if isLow l then
        (characters? rest).map (Char.ofNat (0x10000 + (h - 0xD800) * 0x400 + (l - 0xDC00)) :: ·)
      else none
    else if isLow h then none
    else (characters? (some l :: rest)).map (Char.ofNat h :: ·)
  | some n :: rest =>
    if isHigh n || isLow n then none else (characters? rest).map (Char.ofNat n :: ·)
  | none :: _ => none

/-- The letter of a short escape stands for a character. -/
def shortEscape? (c : Char) : Option Char :=
  if c = '"' then some '"'
  else if c = '\\' then some '\\'
  else if c = '/' then some '/'
  else if c = 'b' then some '\x08'
  else if c = 'f' then some '\x0c'
  else if c = 'n' then some '\n'
  else if c = 'r' then some '\r'
  else if c = 't' then some '\t'
  else none

/-- The value of a hexadecimal digit, in either case. -/
def hexDigit? (c : Char) : Option Nat :=
  let n := c.toNat
  if 48 ≤ n ∧ n ≤ 57 then some (n - 48)
  else if 65 ≤ n ∧ n ≤ 70 then some (n - 55)
  else if 97 ≤ n ∧ n ≤ 102 then some (n - 87)
  else none

/-! ## 2. The scanner -/

/-- Where the scanner stands. -/
inductive Scan where
  /-- Between tokens. -/
  | between
  /-- In a word: the letters that have to follow, and the token it will be. -/
  | word (owed : List Char) (token : Token)
  /-- In a number: its characters so far, last first. -/
  | number (seen : List Char)
  /-- Between quotes: what was read so far, last first. -/
  | text (seen : List Unit16)
  /-- Behind a backslash. -/
  | escape (seen : List Unit16)
  /-- In an escape by number: its value so far and the digits to come. -/
  | code (seen : List Unit16) (value : Nat) (owed : Nat)
  deriving DecidableEq

/-- The characters that numbers are made of. -/
def isNumberChar (c : Char) : Bool :=
  c.isDigit || c = '+' || c = '-' || c = '.' || c = 'e' || c = 'E'

/-- A symbol between tokens. -/
def startToken (c : Char) : Option (List Token × Scan) :=
  if c = ' ' ∨ c = '\t' ∨ c = '\n' ∨ c = '\r' then some ([], .between)
  else if c = '[' then some ([.beginArray], .between)
  else if c = ']' then some ([.endArray], .between)
  else if c = '\x7b' then some ([.beginObject], .between)
  else if c = '\x7d' then some ([.endObject], .between)
  else if c = ',' then some ([.comma], .between)
  else if c = ':' then some ([.colon], .between)
  else if c = '"' then some ([], .text [])
  else if c = 'n' then some ([], .word ['u', 'l', 'l'] .null)
  else if c = 't' then some ([], .word ['r', 'u', 'e'] (.bool true))
  else if c = 'f' then some ([], .word ['a', 'l', 's', 'e'] (.bool false))
  else if c = '-' ∨ c.isDigit then some ([], .number [c])
  else none

/-- The token of a text, from what was read between its quotes, last first. -/
def textToken (seen : List Unit16) : Token := .text ((characters? seen.reverse).map String.ofList)

/-- One symbol: the tokens that end with it, and where the scanner stands then. -/
def scanStep : Scan → Utf8.Symbol → Option (List Token × Scan)
  | .text seen, none => some ([], .text (none :: seen))
  | _, none => none
  | .between, some c => startToken c
  | .word (l :: owed) token, some c =>
    if c = l then some (if owed.isEmpty then ([token], .between) else ([], .word owed token))
    else none
  | .word [] _, some _ => none
  | .number seen, some c =>
    if isNumberChar c then some ([], .number (c :: seen))
    else (Numeral.ofChars? seen.reverse).bind fun n =>
      (startToken c).map fun r => (.number n :: r.1, r.2)
  | .text seen, some c =>
    if c = '"' then some ([textToken seen], .between)
    else if c = '\\' then some ([], .escape seen)
    else if c.toNat < 0x20 then none
    else some ([], .text (some c.toNat :: seen))
  | .escape seen, some c =>
    if c = 'u' then some ([], .code seen 0 4)
    else (shortEscape? c).map fun x => ([], .text (some x.toNat :: seen))
  | .code seen value owed, some c =>
    (hexDigit? c).map fun d =>
      let value := 16 * value + d
      if owed ≤ 1 then ([], .text (some value :: seen)) else ([], .code seen value (owed - 1))

/-- The tokens of a list of symbols, from where the scanner stands; a text has to be closed. -/
def scan : Scan → List Utf8.Symbol → Option (List Token)
  | .between, [] => some []
  | .number seen, [] => (Numeral.ofChars? seen.reverse).map fun n => [.number n]
  | _, [] => none
  | s, c :: cs =>
    (scanStep s c).bind fun r => (scan r.2 cs).map (r.1 ++ ·)

/-- The tokens of a text. -/
def tokens? (s : List Utf8.Symbol) : Option (List Token) := scan .between s

/-! ## 3. Writing tokens -/

/-- A number below 16 as a lower-case hexadecimal digit. -/
def hexChar (n : Nat) : Char := if n < 10 then Char.ofNat (48 + n) else Char.ofNat (87 + n)

/-- A character between quotes.  Only the quote, the backslash and the controls below U+0020 are
escaped, each by its short escape if it has one. -/
def escapeChar (c : Char) : List Char :=
  if c = '"' then ['\\', '"']
  else if c = '\\' then ['\\', '\\']
  else if c = '\x08' then ['\\', 'b']
  else if c = '\x0c' then ['\\', 'f']
  else if c = '\n' then ['\\', 'n']
  else if c = '\r' then ['\\', 'r']
  else if c = '\t' then ['\\', 't']
  else if c.toNat < 0x20 then
    ['\\', 'u', '0', '0', hexChar (c.toNat / 16), hexChar (c.toNat % 16)]
  else [c]

/-- A text between its quotes.  One that is no text is written as half of a surrogate pair. -/
def quote (s : Option String) : List Char :=
  match s with
  | some s => '"' :: s.toList.flatMap escapeChar ++ ['"']
  | none => "\"\\ud800\"".toList

/-- The characters of a token. -/
def Token.chars : Token → List Char
  | .beginArray => ['[']
  | .endArray => [']']
  | .beginObject => ['\x7b']
  | .endObject => ['\x7d']
  | .comma => [',']
  | .colon => [':']
  | .null => ['n', 'u', 'l', 'l']
  | .bool true => ['t', 'r', 'u', 'e']
  | .bool false => ['f', 'a', 'l', 's', 'e']
  | .number n => n.toChars
  | .text s => quote s

end MotionContexts.Json
