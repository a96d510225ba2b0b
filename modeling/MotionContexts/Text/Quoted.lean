/-
# Quoted text for people

A planning context shows itself with its texts in quotes.  A character is written as itself unless
it is the quote or the backslash, or would not show: then it is written as an escape, a short one
where there is one and `\u{hex}` otherwise.
-/
import MotionContexts.Text.Invisible

namespace MotionContexts.Text

/-- A number in lower-case hexadecimal, without leading zeros. -/
def hex (n : Nat) : List Char := Nat.toDigits 16 n

/-- Whether a character does not show by itself. -/
def hidden (c : Char) : Bool :=
  unprintable.has c.toNat || extending.has c.toNat || ignorable.has c.toNat

/-- One character inside quotes. -/
def quoteChar (c : Char) : List Char :=
  if c = '\x00' then ['\\', '0']
  else if c = '\t' then ['\\', 't']
  else if c = '\r' then ['\\', 'r']
  else if c = '\n' then ['\\', 'n']
  else if c = '"' then ['\\', '"']
  else if c = '\\' then ['\\', '\\']
  else if hidden c then ['\\', 'u', '\x7b'] ++ hex c.toNat ++ ['\x7d']
  else [c]

/-- Text in quotes, every character that would not show escaped. -/
def quoted (s : String) : String :=
  String.ofList ('"' :: s.toList.flatMap quoteChar ++ ['"'])

end MotionContexts.Text
