/-
# A directory tree without links

What the file storage stands on.  There is ONE tree, with its entries by place: the names on the way
from `/`.  An entry is a directory or a file with its bytes.  Paths without a leading slash start in
the WORKING directory, which is a place in the tree like any other, only that it and the directories
above it are always there.  So with `/work` for a working directory `arm`, `../work/arm` and
`/work/arm` lead to one file.

Every operation walks to its place one step at a time, and a walk through something that is no
directory fails: with `missing` where nothing is there, with `refused` otherwise.

Replacing a file takes several calls of the system, and each of them may be let down for a reason
that no entry shows, a full disk say.  So a tree also says where that will be: in its `faults` each
store to come has its own one, or none.

Main statements: `get?_put` and `get?_remove`, a change is seen at its own place and nowhere
else.
-/
import MotionContexts.KeyedList
import MotionContexts.Path
import MotionContexts.Text.Utf8

namespace MotionContexts

/-- What stands at a place. -/
inductive Entry where
  | directory
  | file (bytes : List UInt8)
  deriving DecidableEq, Repr

/-- The names on the way from `/`, which itself has none. -/
abbrev Place := List String

/-- The stages of a store, each of which the system can let down, in their order. -/
inductive Stage where
  /-- Making the directories on the way, behind so many of them. -/
  | way (made : Nat)
  /-- Opening a temporary file. -/
  | opening
  /-- Writing the content to it, behind so many bytes. -/
  | writing (written : Nat)
  /-- Writing out what is buffered, with so many bytes in the file. -/
  | flushing (written : Nat)
  /-- Taking the file back from behind its buffer, with so many bytes in it. -/
  | unwrapping (written : Nat)
  /-- Moving the file to its path. -/
  | moving
  deriving DecidableEq, Repr

/-- Where a store is let down, and for what reason. -/
structure Fault where
  stage : Stage
  reason : String
  deriving DecidableEq, Repr

/-- Entries by place, and where the stores to come are let down; seen from a working directory, which
is `/work` unless another one is named. -/
structure FileTree (working : Place := ["work"]) where
  entries : KeyedList Place Entry
  faults : List (Option Fault) := []
  deriving DecidableEq

/-- Why something could not be done at a place. -/
inductive Trouble where
  /-- Nothing is there, or nothing on the way to it. -/
  | missing
  /-- Something is there that does not allow it. -/
  | refused (reason : String)
  /-- What was to be written could not be. -/
  | unwritten (reason : String)
  deriving DecidableEq, Repr

namespace FileTree

variable {working : Place}

/-! ## 1. Places -/

/-- The tree with nothing in it but the working directory. -/
def empty : FileTree working := { entries := ∅ }

/-- Whether a place is a directory in every tree: the working directory or one above it. -/
def isGiven (working p : Place) : Bool := p.isPrefixOf working

/-- The entry at a place. -/
def get? (t : FileTree working) (p : Place) : Option Entry :=
  if isGiven working p then some .directory else t.entries.get? p

/-- The longest name that a directory can hold, in bytes. -/
def maxNameBytes : Nat := 255

/-- Whether a name can stand in a directory. -/
def allowed (name : String) : Bool := name.utf8ByteSize ≤ maxNameBytes

/-- One step further from a directory; `/` is above itself. -/
def stepFrom (p : Place) : Path.Component → Except Trouble Place
  | .root => .ok []
  | .here => .ok p
  | .up => .ok p.dropLast
  | .name s => if allowed s then .ok (p ++ [s]) else .error (.refused "name too long")

/-- The place at the end of the steps; everything BEFORE the last one has to be a directory. -/
def walk (t : FileTree working) (p : Place) : List Path.Component → Except Trouble Place
  | [] => .ok p
  | c :: cs =>
    match t.get? p with
    | some .directory =>
      match stepFrom p c with
      | .ok q => walk t q cs
      | .error e => .error e
    | some (.file _) => .error (.refused "not a directory")
    | none => .error .missing

/-- The longest path that the system takes, in bytes. -/
def maxPathBytes : Nat := 4095

/-- Whether a path can be handed to the system at all. -/
def usable (p : Path) : Except Trouble Unit :=
  if p.text = "" then .error .missing
  else if p.text.toList.contains '\x00' then .error (.refused "nul byte in path")
  else if maxPathBytes < p.text.utf8ByteSize then .error (.refused "path too long")
  else .ok ()

/-- The place of a path from the working directory; a slash at its end asks for a directory. -/
def locate (t : FileTree working) (p : Path) : Except Trouble Place :=
  match usable p with
  | .error e => .error e
  | .ok _ => t.walk working (if p.endsInSlash then p.steps ++ [.here] else p.steps)

/-! ## 2. Reading -/

/-- The entry of a path, opened for reading. -/
def open? (t : FileTree working) (p : Path) : Except Trouble Entry :=
  match t.locate p with
  | .error e => .error e
  | .ok place =>
    match t.get? place with
    | some e => .ok e
    | none => .error .missing

/-- The text of a file. -/
def readText? (t : FileTree working) (p : Path) : Option String :=
  match t.open? p with
  | .ok (.file bytes) => Utf8.text? bytes
  | _ => none

/-! ## 3. Writing -/

/-- The tree with an entry at a place. -/
def put (t : FileTree working) (place : Place) (e : Entry) : FileTree working :=
  { t with entries := t.entries.insert place e }

/-- The tree without the entry at a place. -/
def remove (t : FileTree working) (place : Place) : FileTree working :=
  { t with entries := t.entries.erase place }

@[simp] theorem faults_put (t : FileTree working) (p : Place) (e : Entry) :
    (t.put p e).faults = t.faults := rfl

@[simp] theorem faults_remove (t : FileTree working) (p : Place) :
    (t.remove p).faults = t.faults := rfl

/-- What is put is seen at its own place and nowhere else, but never in place of a given one. -/
theorem get?_put (t : FileTree working) (p q : Place) (e : Entry) :
    (t.put p e).get? q =
      if isGiven working q then some .directory else if q = p then some e else t.get? q := by
  unfold get? put
  by_cases h : isGiven working q
  · simp [h]
  · simp only [h, Bool.false_eq_true, if_false]
    exact KeyedList.get?_insert t.entries p q e

theorem get?_remove (t : FileTree working) (p q : Place) :
    (t.remove p).get? q =
      if isGiven working q then some .directory else if q = p then none else t.get? q := by
  unfold get? remove
  by_cases h : isGiven working q
  · simp [h]
  · simp only [h, Bool.false_eq_true, if_false]
    exact KeyedList.get?_erase t.entries p q

/-- Whether a file may be put at the place of a path: nothing or another file is there now. -/
def fileable? (t : FileTree working) (p : Path) : Except Trouble Place :=
  match t.locate p with
  | .error e => .error e
  | .ok place =>
    match t.get? place with
    | some .directory => .error (.refused "is a directory")
    | _ => .ok place

/-- Write a file, whose directory has to be there. -/
def write (t : FileTree working) (p : Path) (bytes : List UInt8) :
    Except Trouble (FileTree working) :=
  match t.fileable? p with
  | .error e => .error e
  | .ok place => .ok (t.put place (.file bytes))

/-- Take a file away. -/
def removeFile (t : FileTree working) (p : Path) : Except Trouble (FileTree working) :=
  match t.locate p with
  | .error e => .error e
  | .ok place =>
    match t.get? place with
    | none => .error .missing
    | some .directory => .error (.refused "is a directory")
    | some (.file _) => .ok (t.remove place)

/-- Make the directory of a path, where slashes at the end do not count; how it failed, if it
did. -/
def makeDirectory (t : FileTree working) (p : Path) : Except Trouble (FileTree working) :=
  match usable p with
  | .error e => .error e
  | .ok _ =>
    match t.walk working p.steps with
    | .error e => .error e
    | .ok place =>
      match t.get? place with
      | some _ => .error (.refused "exists")
      | none => .ok (t.put place .directory)

/-- Whether a path leads to a directory. -/
def isDirectory (t : FileTree working) (p : Path) : Bool :=
  match t.locate p with
  | .error _ => false
  | .ok place => t.get? place = some .directory

/-- Make a directory or be content with the one that is there. -/
def haveDirectory (t : FileTree working) (p : Path) : Except Trouble Unit × FileTree working :=
  match t.makeDirectory p with
  | .ok t => (.ok (), t)
  | .error e => if t.isDirectory p then (.ok (), t) else (.error e, t)

/-- The place at the end of the components, every one of which is made a directory where it is
MISSING.  Directories stay that were made before something failed. -/
def makeWay (t : FileTree working) (p : Place) :
    List Path.Component → Except Trouble Place × FileTree working
  | [] => (.ok p, t)
  | c :: cs =>
    match stepFrom p c with
    | .error e => (.error e, t)
    | .ok q =>
      match t.get? q with
      | some .directory => t.makeWay q cs
      | some (.file _) => (.error (.refused "not a directory"), t)
      | none => (t.put q .directory).makeWay q cs

/-- Make the directory of a path and those on the way to it; for an empty path there is nothing to
make. -/
def makePath (t : FileTree working) (p : Path) : Except Trouble Unit × FileTree working :=
  match usable p with
  | .error .missing => (.ok (), t)
  | .error e => (.error e, t)
  | .ok _ =>
    match t.makeWay working p.components.dropLast with
    | (.error e, t) => (.error e, t)
    | (.ok _, t) => t.haveDirectory p

/-! ## 4. Replacing a file in one step

A new content is first written to a temporary file beside the old one and then moved over it, so
the old content is there until the new one is COMPLETE.  Whatever goes wrong before takes the
temporary file away again. -/

/-- Where the next store is let down, if it is. -/
def fault? (t : FileTree working) : Option Fault := t.faults.head?.join

/-- The tree as it is for the store after the next one, as far as faults go. -/
def pastFault (t : FileTree working) : FileTree working := { t with faults := t.faults.tail }

@[simp] theorem get?_pastFault (t : FileTree working) (p : Place) :
    t.pastFault.get? p = t.get? p := rfl

/-- Make the directories on the way to a path; the place of the last one. -/
def makeParents (t : FileTree working) (fault : Option Fault) (p : Path) :
    Except Trouble Place × FileTree working :=
  match fault with
  | some ⟨.way made, reason⟩ =>
    match t.makeWay working (p.components.dropLast.take made) with
    | (.error e, t) => (.error e, t)
    | (.ok _, t) => (.error (.refused reason), t)
  | _ => t.makeWay working p.components.dropLast

/-- A name that no entry on the way to any place has, nor any component of the path. -/
def temporaryName (t : FileTree working) (p : Path) : String :=
  let names := working ++ t.entries.entries.flatMap (·.1) ++
    p.components.filterMap fun c => match c with
      | .name s => some s
      | _ => none
  ".tmp" ++ String.ofList (List.replicate (names.foldl (fun n s => max n s.length) 0) '_')

/-- The text of a path from `/`. -/
def absoluteText (working : Place) (p : Path) : String :=
  if p.text.toList.head? = some '/' then p.text
  else "/" ++ String.join (working.map (· ++ "/")) ++ p.text

/-- The room that the path of a directory has to leave for a temporary file in it: a slash and a
name of ten bytes. -/
def temporaryRoom : Nat := 11

/-- The place of a new temporary file in the directory of a path, which is opened from `/`. -/
def openTemporary (t : FileTree working) (fault : Option Fault) (directory : Place) (p : Path) :
    Except Trouble Place :=
  if maxPathBytes < (absoluteText working p.directory).utf8ByteSize + temporaryRoom then
    .error (.refused "path too long")
  else
    match fault with
    | some ⟨.opening, reason⟩ => .error (.refused reason)
    | _ => .ok (directory ++ [t.temporaryName p])

/-- Write a content through a buffer; what is in the file then. -/
def writeOut (fault : Option Fault) (bytes : List UInt8) : Except Trouble Unit × List UInt8 :=
  match fault with
  | some ⟨.writing n, reason⟩ => (.error (.unwritten reason), bytes.take n)
  | some ⟨.flushing n, reason⟩ => (.error (.refused reason), bytes.take n)
  | some ⟨.unwrapping n, reason⟩ => (.error (.refused reason), bytes.take n)
  | _ => (.ok (), bytes)

/-- The place to which a file can be moved when a path is given for it. -/
def movable? (t : FileTree working) (fault : Option Fault) (p : Path) : Except Trouble Place :=
  match fault with
  | some ⟨.moving, reason⟩ => .error (.refused reason)
  | _ => t.fileable? p

/-- Write bytes to a temporary file in the directory of a path and move it to the path; a temporary
file that does not get there is taken away again. -/
def replace (t : FileTree working) (fault : Option Fault) (directory : Place) (p : Path)
    (bytes : List UInt8) : Except Trouble Unit × FileTree working :=
  match t.openTemporary fault directory p with
  | .error e => (.error e, t)
  | .ok temporary =>
    match writeOut fault bytes with
    | (.error e, content) => (.error e, (t.put temporary (.file content)).remove temporary)
    | (.ok _, content) =>
      let written := t.put temporary (.file content)
      match written.movable? fault p with
      | .error e => (.error e, written.remove temporary)
      | .ok place => (.ok (), (written.remove temporary).put place (.file content))

/-- Replace the file of a path, making the directories on the way to it. -/
def store (t : FileTree working) (p : Path) (bytes : List UInt8) :
    Except Trouble Unit × FileTree working :=
  match usable p.directory with
  | .error e => (.error e, t.pastFault)
  | .ok _ =>
    match t.pastFault.makeParents t.fault? p with
    | (.error e, t) => (.error e, t)
    | (.ok directory, t') => t'.replace t.fault? directory p bytes

/-! ## 5. Listing -/

/-- Whether a place is in the working directory, at whatever depth. -/
def isInside (working p : Place) : Bool := working.isPrefixOf p && p != working

/-- An entry as a path from the working directory, a directory with a slash at its end. -/
def listed (working : Place) (e : Place × Entry) : String :=
  "/".intercalate (e.1.drop working.length) ++ (if e.2 = .directory then "/" else "")

/-- Everything in the working directory, in code-point order. -/
def list (t : FileTree working) : List String :=
  ((t.entries.entries.filter fun e => isInside working e.1).map (listed working)).mergeSort
    fun a b => !decide (b < a)

end FileTree

end MotionContexts
