/-
# TOML documents

The grammar of a document, line by line, and of the values in it.  Brackets of values nest at most
79 deep, and a key has at most 79 parts.

A document's values are looked at by the same view as JSON's.  Three rules are TOML's own: there is
no null; a list taken for a record may be LONGER than the record; and a date or time taken for a
record or a map has one field, under a reserved name, with its text.
-/
import MotionContexts.Datum
import MotionContexts.Toml.Moment
import MotionContexts.Toml.Tree

namespace MotionContexts.Toml

/-! ## 1. Keys -/

/-- Characters of a key without quotes. -/
def isBareKey (c : Char) : Bool := c.isAlphanum || c = '_' || c = '-'

/-- One part of a key. -/
def keyPart : Reader String
  | [] => none
  | c :: s =>
    if c = '"' ∨ c = '\'' then (quoted? (c :: s)).map fun r => (String.ofList r.1, r.2)
    else
      match (c :: s).takeWhile isBareKey with
      | [] => none
      | part => some (String.ofList part, (c :: s).dropWhile isBareKey)

/-- The parts of a key between points, spaces around each; `fuel` bounds their number. -/
def keyParts : Nat → Reader (List String)
  | 0, _ => none
  | fuel + 1, s => do
    let (part, s) ← keyPart (skipSpaces s)
    match skipSpaces s with
    | '.' :: s =>
      let (parts, s) ← keyParts fuel s
      return (part :: parts, s)
    | s => return ([part], s)

/-- The largest number of parts of a key, and the largest depth of brackets. -/
def maxDepth : Nat := 79

/-- A key: the path to its table, and its own part. -/
def key? (s : List Char) : Option ((List String × String) × List Char) := do
  let (parts, s) ← keyParts maxDepth s
  let last ← parts.getLast?
  return ((parts.dropLast, last), s)

/-! ## 2. Values -/

/-- The characters behind blanks, line ends and comments; a comment has to end with its line.  The
flag says whether a comment is going on. -/
def skipBlankLines : Bool → List Char → Option (List Char)
  | false, [] => some []
  | true, [] => none
  | comment, c :: s =>
    if c = '\n' then skipBlankLines false s
    else if c = '\r' then if s.head? = some '\n' then skipBlankLines comment s else none
    else if comment then if isPlain c then skipBlankLines true s else none
    else if isSpace c then skipBlankLines false s
    else if c = '#' then skipBlankLines true s
    else some (c :: s)

/-- The items of an array behind its bracket or a comma, up to its end. -/
def items (value : Reader Toml) : Nat → Reader (List Toml)
  | 0, _ => none
  | fuel + 1, s => do
    match ← skipBlankLines false s with
    | ']' :: s => return ([], s)
    | s =>
      let (v, s) ← value s
      match ← skipBlankLines false s with
      | ',' :: s =>
        let (vs, s) ← items value fuel s
        return (v :: vs, s)
      | ']' :: s => return ([v], s)
      | _ => none

/-- The assignments between braces, behind the brace or a comma, up to the end; they stand on one
line, and a comma needs one behind it. -/
def assignments (value : Reader Toml) : Nat → Reader (List (List String × String × Toml))
  | 0, _ => none
  | fuel + 1, s => do
    let ((path, key), s) ← key? s
    match s with
    | '=' :: s =>
      let (v, s) ← value (skipSpaces s)
      match skipSpaces s with
      | ',' :: s =>
        let (rest, s) ← assignments value fuel s
        return ((path, key, v) :: rest, s)
      | '\x7d' :: s => return ([(path, key, v)], s)
      | _ => none
    | _ => none

/-- A table between braces, behind the first one. -/
def inlineTable (value : Reader Toml) : Reader Toml := fun s =>
  match skipSpaces s with
  | '\x7d' :: s => some (.table [], s)
  | s => do
    let (as, s) ← assignments value s.length s
    return (← ofAssignments? as, s)

/-- A value that starts like a number. -/
def numberOrMoment : Reader Toml := fun s =>
  if startsDate s || startsTime s then (moment? s).map fun r => (.moment r.1.text, r.2)
  else (number? s).map fun r => (match r.1 with
    | .integer n => .integer n
    | .real x => .real x, r.2)

/-- A value without brackets. -/
def scalar : Reader Toml
  | 't' :: 'r' :: 'u' :: 'e' :: s => some (.bool true, s)
  | 'f' :: 'a' :: 'l' :: 's' :: 'e' :: s => some (.bool false, s)
  | s =>
    if s.head? = some '"' ∨ s.head? = some '\'' then
      (text? s).map fun r => (.text (String.ofList r.1), r.2)
    else numberOrMoment s

/-- A value, in which brackets may still nest to some depth. -/
def value : Nat → Reader Toml
  | room + 1, '[' :: s => (items (value room) (s.length + 1) s).map fun r => (.array r.1, r.2)
  | room + 1, '\x7b' :: s => inlineTable (value room) s
  | _, s => scalar s

/-! ## 3. Lines -/

/-- The rest of a line behind a statement: blanks, perhaps a comment, and the line end or the end of
the document. -/
def restOfLine (s : List Char) : Option (List Char) :=
  let s := skipSpaces s
  let s := match s with
    | '#' :: s => s.dropWhile isPlain
    | s => s
  if s.isEmpty then some [] else lineEnd? s

/-- A header behind its first bracket. -/
def header : Reader Statement
  | '[' :: s => do
    let ((path, key), s) ← key? s
    match s with
    | ']' :: ']' :: s => return (.element (path ++ [key]), s)
    | _ => none
  | s => do
    let ((path, key), s) ← key? s
    match s with
    | ']' :: s => return (.header (path ++ [key]), s)
    | _ => none

/-- An assignment. -/
def assignment (s : List Char) : Option (Statement × List Char) := do
  let ((path, key), s) ← key? s
  match s with
  | '=' :: s =>
    let (v, s) ← value maxDepth (skipSpaces s)
    return (.assign path key v, s)
  | _ => none

/-- The statements of lines; each takes at least one character, which bounds their number. -/
def statements : Nat → List Char → Option (List Statement)
  | 0, _ => none
  | fuel + 1, s =>
    match skipSpaces s with
    | [] => some []
    | '#' :: s => (restOfLine ('#' :: s)).bind (statements fuel)
    | '\n' :: s => statements fuel s
    | '\r' :: '\n' :: s => statements fuel s
    | '[' :: s => do
      let (h, s) ← header s
      return h :: (← statements fuel (← restOfLine s))
    | s => do
      let (a, s) ← assignment s
      return a :: (← statements fuel (← restOfLine s))

/-- The characters behind a byte-order mark, if there is one. -/
def skipMark : List Char → List Char
  | '\ufeff' :: s => s
  | s => s

/-- The table that a text writes. -/
def parse? (s : String) : Option Toml :=
  let s := skipMark s.toList
  (statements (s.length + 1) s).bind ofStatements?

/-! ## 4. The view of a document -/

/-- The field of a date or time that is taken for a table. -/
def momentField : String := "$__toml_private_datetime"

/-- The entries of a table. -/
def entries? : Toml → Option (List (String × Toml))
  | .table entries => some entries
  | .moment s => some [(momentField, .text s)]
  | _ => none

instance : Datum Toml where
  text? v := match v with
    | .text s => some s
    | _ => none
  isNull _ := false
  word? v := match v with
    | .integer n => if 0 ≤ n ∧ n < UInt32.size then some (UInt32.ofNat n.toNat) else none
    | _ => none
  real? v := match v with
    | .real x => some x
    | .integer n => some (.ofInt n)
    | _ => none
  items? v := match v with
    | .array items => some items
    | _ => none
  entries? := entries?
  fields? names v := match v with
    | .array items => some (names.zip items)
    | v => v.entries?.map fun es => es.filter fun e => names.contains e.1

end MotionContexts.Toml
