/-
# Planner configurations

A configuration is a named bundle of options for a group.  The set of configurations in force is a
table by name; it is replaced as a whole and never patched.

Main statement: `find_eq_error_iff`, a name is unknown exactly if the table has no entry for it.
-/
import MotionContexts.Datum
import MotionContexts.Error
import MotionContexts.Json.Value

namespace MotionContexts

/-- A named bundle of planner options for a group. -/
structure Configuration where
  /-- The group itself, for its default, or `group[suffix]`. -/
  name : String
  group : String
  options : Table String := ∅
  deriving DecidableEq

namespace Configuration

/-- The configuration with an option set. -/
def option (c : Configuration) (key value : String) : Configuration :=
  { c with options := c.options.insert key value }

/-- A configuration as a record of a document; the options may be missing. -/
def read? {δ : Type} [Datum δ] (v : δ) : Option Configuration := do
  let f ← Datum.fields? ["name", "group", "config"] v
  let name ← Datum.Fields.required f "name" Datum.text?
  let group ← Datum.Fields.required f "group" Datum.text?
  let options ← Datum.Fields.withDefault f "config" Datum.textTable? ∅
  return { name, group, options }

def toJson (c : Configuration) : Json :=
  .ofFields [
    ("name", .ofString c.name),
    ("group", .ofString c.group),
    ("config", .ofFields (c.options.entries.map fun e => (e.1, .ofString e.2)))]

end Configuration

/-- The configurations in force. -/
abbrev Configurations := Table Configuration

namespace Configurations

/-- A list of configurations under their own names; of two with one name the LATER stays. -/
def ofList (l : List Configuration) : Configurations := Table.ofList (l.map fun c => (c.name, c))

/-- The configuration of a name. -/
def find (cs : Configurations) (name : String) : Except ResolutionError Configuration :=
  match cs.get? name with
  | some c => .ok c
  | none => .error (.unknownConfiguration name)

/-- Whether a configuration is for the group. -/
def hasGroup (cs : Configurations) (group : String) : Bool := cs.values.any fun c => c.group == group

theorem find_eq_ok_iff (cs : Configurations) (name : String) (c : Configuration) :
    find cs name = .ok c ↔ cs.get? name = some c := by
  unfold find
  split <;> simp_all

theorem find_eq_error_iff (cs : Configurations) (name : String) :
    find cs name = .error (.unknownConfiguration name) ↔ cs.get? name = none := by
  unfold find
  split <;> simp_all

end Configurations

end MotionContexts
