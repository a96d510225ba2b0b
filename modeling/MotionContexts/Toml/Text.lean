/-
# Texts in TOML

TOML writes a text in four ways: between single or triple quotes of either kind.  Between DOUBLE
quotes a backslash starts an escape; between APOSTROPHES every character stands for itself.
Triple quotes may hold line ends, of which one right behind the opening quotes does not count, and
up to two quotes of their own kind even before the closing ones.

A reader here takes the characters behind the opening quotes and gives the text and what follows
the closing ones.  Line ends of a text are single line feeds, however they are written.
-/
import MotionContexts.Json.Token

namespace MotionContexts.Toml

/-- A reader of characters: what it read, and the rest. -/
abbrev Reader (α : Type) := List Char → Option (α × List Char)

/-! ## 1. Characters -/

/-- Characters that may stand in a comment: no controls but the tab. -/
def isPlain (c : Char) : Bool :=
  let n := c.toNat
  n = 0x09 || (0x20 ≤ n && n ≤ 0x7E) || 0x80 ≤ n

/-- A space or a tab. -/
def isSpace (c : Char) : Bool := c = ' ' || c = '\t'

/-- The characters behind spaces and tabs. -/
def skipSpaces (s : List Char) : List Char := s.dropWhile isSpace

/-- What follows a line end, if there is one. -/
def lineEnd? : List Char → Option (List Char)
  | '\n' :: s => some s
  | '\r' :: '\n' :: s => some s
  | _ => none

/-- How many copies of a character stand at the start. -/
def runLength (q : Char) (s : List Char) : Nat := (s.takeWhile (· == q)).length

/-! ## 2. Escapes -/

/-- The number that hexadecimal digits write. -/
def hexValue? (s : List Char) : Option Nat :=
  s.foldl (fun n c => do return 16 * (← n) + (← Json.hexDigit? c)) (some 0)

/-- The character of a number of hexadecimal digits, and that it takes one more character. -/
def codePoint? (digits : Nat) (s : List Char) : Option (Char × Nat) :=
  if (s.take digits).length = digits then
    (hexValue? (s.take digits)).bind fun n =>
      if n.isValidChar then some (Char.ofNat n, digits + 1) else none
  else none

/-- The character of the escape behind a backslash, and how many characters it takes. -/
def escape? : List Char → Option (Char × Nat)
  | [] => none
  | c :: s =>
    if c = 'b' then some ('\x08', 1)
    else if c = 't' then some ('\t', 1)
    else if c = 'n' then some ('\n', 1)
    else if c = 'f' then some ('\x0c', 1)
    else if c = 'r' then some ('\r', 1)
    else if c = '"' then some ('"', 1)
    else if c = '\\' then some ('\\', 1)
    else if c = 'u' then codePoint? 4 s
    else if c = 'U' then codePoint? 8 s
    else none

/-- How many blanks and line ends stand at the start. -/
def blanks : List Char → Nat
  | [] => 0
  | '\r' :: '\n' :: s => blanks s + 2
  | c :: s => if isSpace c || c = '\n' then blanks s + 1 else 0

/-- A backslash at the end of a line joins it with what follows all blanks: how many characters
that takes behind the backslash. -/
def joinedLine? (s : List Char) : Option Nat :=
  let spaces := (s.takeWhile isSpace).length
  match lineEnd? (s.drop spaces) with
  | some _ => some (spaces + blanks (s.drop spaces))
  | none => none

/-! ## 3. The four kinds of texts

The first argument is how many characters to pass over, because they are read already. -/

/-- Up to a double quote. -/
def basic : Nat → Reader (List Char)
  | _, [] => none
  | n + 1, _ :: s => basic n s
  | 0, c :: s =>
    if c = '"' then some ([], s)
    else if c = '\\' then
      match escape? s with
      | some (x, n) => (basic n s).map fun r => (x :: r.1, r.2)
      | none => none
    else if isPlain c then (basic 0 s).map fun r => (c :: r.1, r.2)
    else none

/-- Up to an apostrophe. -/
def literal : Reader (List Char)
  | [] => none
  | c :: s =>
    if c = '\'' then some ([], s)
    else if isPlain c then (literal s).map fun r => (c :: r.1, r.2)
    else none

/-- The end of a text in triple quotes, where a run of at least three quotes stands: two of them
may belong to the text. -/
def closing (q : Char) (s : List Char) : List Char × List Char :=
  let extra := min (runLength q s - 3) 2
  (List.replicate extra q, s.drop (3 + extra))

/-- Up to three double quotes. -/
def basicBlock : Nat → Reader (List Char)
  | _, [] => none
  | n + 1, _ :: s => basicBlock n s
  | 0, c :: s =>
    if c = '"' then
      if 3 ≤ runLength '"' (c :: s) then some (closing '"' (c :: s))
      else (basicBlock 0 s).map fun r => (c :: r.1, r.2)
    else if c = '\\' then
      match joinedLine? s with
      | some n => basicBlock n s
      | none =>
        match escape? s with
        | some (x, n) => (basicBlock n s).map fun r => (x :: r.1, r.2)
        | none => none
    else if c = '\n' then (basicBlock 0 s).map fun r => ('\n' :: r.1, r.2)
    else if c = '\r' then
      if s.head? = some '\n' then (basicBlock 1 s).map fun r => ('\n' :: r.1, r.2) else none
    else if isPlain c then (basicBlock 0 s).map fun r => (c :: r.1, r.2)
    else none

/-- Up to three apostrophes. -/
def literalBlock : Nat → Reader (List Char)
  | _, [] => none
  | n + 1, _ :: s => literalBlock n s
  | 0, c :: s =>
    if c = '\'' then
      if 3 ≤ runLength '\'' (c :: s) then some (closing '\'' (c :: s))
      else (literalBlock 0 s).map fun r => (c :: r.1, r.2)
    else if c = '\n' then (literalBlock 0 s).map fun r => ('\n' :: r.1, r.2)
    else if c = '\r' then
      if s.head? = some '\n' then (literalBlock 1 s).map fun r => ('\n' :: r.1, r.2) else none
    else if isPlain c then (literalBlock 0 s).map fun r => (c :: r.1, r.2)
    else none

/-- The characters behind a line end, if there is one at the start. -/
def skipLineEnd (s : List Char) : List Char := (lineEnd? s).getD s

/-- A text on one line, from its opening quote on. -/
def quoted? : Reader (List Char)
  | '"' :: s => basic 0 s
  | '\'' :: s => literal s
  | _ => none

/-- A text, from its opening quotes on. -/
def text? : Reader (List Char)
  | '"' :: '"' :: '"' :: s => basicBlock 0 (skipLineEnd s)
  | '\'' :: '\'' :: '\'' :: s => literalBlock 0 (skipLineEnd s)
  | s => quoted? s

end MotionContexts.Toml
