/-
# Paths

A path is a text, shown as it was given, and names a place by its COMPONENTS.  Two paths are the
same place exactly if their components agree: repeated slashes, slashes at the end and a `.` that
is not the first component do not count; a leading slash, a leading `.` and every `..` do.

Whoever walks to the place goes by the STEPS of the text, which keep every `.`: only at a directory
one can stay.  The directory that holds the place has a path too, the text up to the end of the last
component but one.
-/
namespace MotionContexts

/-- A path as it was given. -/
structure Path where
  text : String
  deriving DecidableEq, Repr

namespace Path

/-! ## 1. Components and steps -/

/-- One step on the way to a place. -/
inductive Component where
  /-- The leading slash. -/
  | root
  /-- A `.`; of the components only the first one can be it. -/
  | here
  | up
  | name (s : String)
  deriving DecidableEq, Repr

/-- The pieces between slashes; there is one more of them than there are slashes. -/
def pieces : List Char → List (List Char)
  | [] => [[]]
  | c :: cs =>
    if c = '/' then [] :: pieces cs
    else match pieces cs with
      | [] => [[c]]
      | p :: ps => (c :: p) :: ps

/-- A piece as a step; an empty piece is none. -/
def step? (p : List Char) : Option Component :=
  if p = [] then none
  else if p = ['.'] then some .here
  else if p = ['.', '.'] then some .up
  else some (.name (String.ofList p))

/-- A piece that is not the first one as a component: a `.` does not count. -/
def ofPiece? (p : List Char) : Option Component := if p = ['.'] then none else step? p

/-- The components of the pieces of a path: the first piece is empty under a leading slash, and a
`.` counts there. -/
def ofPieces : List (List Char) → List Component
  | [] :: p :: ps => .root :: (p :: ps).filterMap ofPiece?
  | ['.'] :: ps => .here :: ps.filterMap ofPiece?
  | ps => ps.filterMap ofPiece?

/-- The components of a path. -/
def components (p : Path) : List Component := ofPieces (pieces p.text.toList)

/-- Whether two paths are the same place. -/
def same (p q : Path) : Bool := p.components = q.components

/-- The steps of a path, slashes at its end aside. -/
def steps (p : Path) : List Component :=
  match pieces p.text.toList with
  | [] :: q :: ps => .root :: (q :: ps).filterMap step?
  | ps => ps.filterMap step?

/-- Whether the text ends in a slash: then only a directory can be meant. -/
def endsInSlash (p : Path) : Bool := p.text.toList.getLast? == some '/'

/-! ## 2. The directory of a path -/

/-- Where the components of pieces end, of which the first one starts behind `n` characters. -/
def endsFrom (n : Nat) : List (List Char) → List Nat
  | [] => []
  | p :: ps =>
    if (ofPiece? p).isSome then (n + p.length) :: endsFrom (n + p.length + 1) ps
    else endsFrom (n + p.length + 1) ps

/-- How many characters of the text there are up to the end of each component. -/
def endsOf : List (List Char) → List Nat
  | [] :: p :: ps => 1 :: endsFrom 1 (p :: ps)
  | ['.'] :: ps => 1 :: endsFrom 2 ps
  | ps => endsFrom 0 ps

/-- How many characters of a path there are up to the end of each component. -/
def ends (p : Path) : List Nat := endsOf (pieces p.text.toList)

/-- The first characters of a path, as a path. -/
def take (p : Path) (n : Nat) : Path := ⟨String.ofList (p.text.toList.take n)⟩

/-- The path of the directory that holds what a path names. -/
def directory (p : Path) : Path :=
  match p.ends.dropLast.getLast? with
  | some n => p.take n
  | none => ⟨"."⟩

end Path

end MotionContexts
