/-
# Tables under construction

A TOML document builds its tables from three kinds of statements: a header opens a table, a header
in double brackets adds an element to an array of tables, and an assignment gives a key of the open
table a value.  Headers and dotted keys make the tables on their way, and WHO MADE a table decides
who may still add to it:

* a table with a header of its own is never opened a second time, nor reached by a dotted key;
* a table that only headers passed through may still get its own header;
* a table that a dotted key made may be added to by dotted keys, but gets no header;
* through an array of tables every path goes to its last element.
-/
import MotionContexts.KeyedList
import MotionContexts.Number.Binary64

namespace MotionContexts

/-- A value of a TOML document. -/
inductive Toml where
  | text (s : String)
  | integer (n : Int)
  | real (x : Binary64)
  | bool (b : Bool)
  /-- A date or time, in normal form. -/
  | moment (s : String)
  | array (items : List Toml)
  | table (entries : List (String × Toml))

namespace Toml

/-- Who made a table. -/
inductive Origin where
  /-- Its own header. -/
  | header
  /-- A header of a table further down. -/
  | passed
  /-- A dotted key. -/
  | dotted
  deriving DecidableEq, Repr

/-- What stands under a key while a document is read. -/
inductive Node where
  | value (v : Toml)
  | table (origin : Origin) (fields : List (String × Node))
  /-- An array of tables. -/
  | tables (elements : List Node)

/-- The keys of a table in the order of their first mention. -/
abbrev Fields := List (String × Node)

/-! ## 1. Ways through tables -/

/-- Change the fields of a table, or of the last table of an array. -/
def Node.change (f : Fields → Option Fields) : Node → Option Node
  | .value _ => none
  | .table o fields => (f fields).map (.table o)
  | .tables elements =>
    match elements.getLast? with
    | some (.table o fields) =>
      (f fields).map fun fields => .tables (elements.dropLast ++ [.table o fields])
    | _ => none

/-- Change the table that an open header leads to. -/
def atHeader (f : Fields → Option Fields) : List String → Fields → Option Fields
  | [], fields => f fields
  | k :: ks, fields =>
    match Entries.find k fields with
    | none => none
    | some n => (n.change (atHeader f ks)).map fun n => KeyedList.put k n fields

/-! ## 2. The three statements -/

/-- Open the table of a header. -/
def openTable : List String → Fields → Option Fields
  | [], _ => none
  | [k], fields =>
    match Entries.find k fields with
    | none => some (KeyedList.put k (.table .header []) fields)
    | some (.table .passed sub) => some (KeyedList.put k (.table .header sub) fields)
    | some _ => none
  | k :: ks, fields =>
    match Entries.find k fields with
    | none => (openTable ks []).map fun sub => KeyedList.put k (.table .passed sub) fields
    | some n => (n.change (openTable ks)).map fun n => KeyedList.put k n fields

/-- Add an element to the array of tables of a header. -/
def openElement : List String → Fields → Option Fields
  | [], _ => none
  | [k], fields =>
    match Entries.find k fields with
    | none => some (KeyedList.put k (.tables [.table .header []]) fields)
    | some (.tables elements) =>
      some (KeyedList.put k (.tables (elements ++ [.table .header []])) fields)
    | some _ => none
  | k :: ks, fields =>
    match Entries.find k fields with
    | none => (openElement ks []).map fun sub => KeyedList.put k (.table .passed sub) fields
    | some n => (n.change (openElement ks)).map fun n => KeyedList.put k n fields

/-- Whether a dotted key may go on through a node; the table at its end has to be of its own kind. -/
def Node.dottable (last : Bool) : Node → Bool
  | .value _ => false
  | .table .header _ => false
  | .table .passed _ => !last
  | .table .dotted _ => true
  | .tables _ => !last

/-- Give the key at the end of a dotted path a value; it must not have one. -/
def assign (key : String) (v : Toml) : List String → Fields → Option Fields
  | [], fields =>
    match Entries.find key fields with
    | none => some (KeyedList.put key (.value v) fields)
    | some _ => none
  | k :: ks, fields =>
    match Entries.find k fields with
    | none => (assign key v ks []).map fun sub => KeyedList.put k (.table .dotted sub) fields
    | some n =>
      if n.dottable ks.isEmpty then
        (n.change (assign key v ks)).map fun n => KeyedList.put k n fields
      else none

/-! ## 3. Finished tables -/

mutual

def Node.finish : Node → Toml
  | .value v => v
  | .table _ fields => .table (finishFields fields)
  | .tables elements => .array (finishElements elements)

def finishFields : List (String × Node) → List (String × Toml)
  | [] => []
  | (k, n) :: fs => (k, n.finish) :: finishFields fs

def finishElements : List Node → List Toml
  | [] => []
  | n :: ns => n.finish :: finishElements ns

end

/-- A statement of a document. -/
inductive Statement where
  | header (path : List String)
  | element (path : List String)
  | assign (path : List String) (key : String) (v : Toml)

/-- The statements one after the other; the first argument is the header that is open. -/
def build : List String → List Statement → Fields → Option Fields
  | _, [], fields => some fields
  | _, .header path :: rest, fields => (openTable path fields).bind (build path rest)
  | _, .element path :: rest, fields => (openElement path fields).bind (build path rest)
  | current, .assign path key v :: rest, fields =>
    (atHeader (Toml.assign key v path) current fields).bind (build current rest)

/-- The table of a document's statements. -/
def ofStatements? (ss : List Statement) : Option Toml :=
  (build [] ss []).map fun fields => .table (finishFields fields)

/-- The table of the assignments between braces. -/
def ofAssignments? (as : List (List String × String × Toml)) : Option Toml :=
  (as.foldlM (fun fields a => Toml.assign a.2.1 a.2.2 a.1 fields) []).map fun fields =>
    .table (finishFields fields)

end Toml

end MotionContexts
