/-
# Requests in JSON

How requests, their conjunctions and constraints are written in JSON, and which JSON values are
read as one.  A request is a record whose fields but the group have defaults.  A constraint says
its kind in the field `kind`, which may stand ANYWHERE among its fields; so the other fields are
held until the kind is known, and have to be holdable.  A constraint may also be the list of its
kind and its name.

Main statement: `ofKind?_kind`, the kind and the name of a constraint determine it.
-/
import MotionContexts.Request
import MotionContexts.Json.Record

namespace MotionContexts

/-! ## 1. Constraints -/

namespace Constraint

/-- The kind, as it is written. -/
def kind : Constraint → String
  | .joint _ => "joint"
  | .position _ => "position"
  | .orientation _ => "orientation"
  | .visibility _ => "visibility"

/-- The field that holds the name of what is constrained, by kind. -/
def nameField? (kind : String) : Option String :=
  if kind = "joint" then some "joint_name"
  else if kind = "position" then some "link_name"
  else if kind = "orientation" then some "link_name"
  else if kind = "visibility" then some "target_frame"
  else none

/-- What is constrained. -/
def name : Constraint → String
  | .joint n => n
  | .position n => n
  | .orientation n => n
  | .visibility n => n

/-- The constraint of a kind on a name. -/
def ofKind? (kind name : String) : Option Constraint :=
  if kind = "joint" then some (.joint name)
  else if kind = "position" then some (.position name)
  else if kind = "orientation" then some (.orientation name)
  else if kind = "visibility" then some (.visibility name)
  else none

theorem ofKind?_kind (c : Constraint) : ofKind? c.kind c.name = some c := by
  cases c <;> rfl

/-- The field of a constraint's name. -/
def nameField : Constraint → String
  | .joint _ => "joint_name"
  | .position _ => "link_name"
  | .orientation _ => "link_name"
  | .visibility _ => "target_frame"

theorem nameField?_kind (c : Constraint) : nameField? c.kind = some c.nameField := by
  cases c <;> rfl

def toJson (c : Constraint) : Json :=
  .ofFields [("kind", .ofString c.kind), (c.nameField, .ofString c.name)]

/-- The value of the only field with a name. -/
def only? (name : String) (fields : List (String × Json)) : Option Json :=
  match fields.filter fun f => f.1 == name with
  | [f] => some f.2
  | _ => none

/-- The value of a JSON value as a constraint, where brackets may nest `room` deep inside it. -/
def ofJson? (room : Nat) : Json → Option Constraint
  | .array [kind, name] => do
    let kind ← kind.text?
    let name ← name.text?
    ofKind? kind name
  | v => do
    let fields ← v.entries?
    let kind ← (only? "kind" fields).bind Json.text?
    let held := fields.filter fun f => f.1 != "kind"
    if held.all fun f => f.2.holdable room then
      let field ← nameField? kind
      let name ← (only? field held).bind Json.text?
      ofKind? kind name
    else none

end Constraint

/-! ## 2. Conjunctions -/

namespace Constraints

def toJson (c : Constraints) : Json :=
  .ofFields [("constraints", .array (c.constraints.map Constraint.toJson))]

/-- The value of a JSON value as a conjunction, which itself is `depth` brackets deep. -/
def ofJson? (depth : Nat) (v : Json) : Option Constraints := do
  let f ← v.fields? ["constraints"]
  let list := Datum.list? (Constraint.ofJson? (Json.maxDepth - depth - 3))
  let cs ← Datum.Fields.withDefault f "constraints" list []
  return ⟨cs⟩

end Constraints

/-! ## 3. Requests -/

namespace Request

def toJson (r : Request) : Json :=
  .ofFields [
    ("group_name", .ofString r.group),
    ("planner_id", .ofString r.plannerId),
    ("representation_type", match r.representation with
      | some t => .ofString t
      | none => .null),
    ("goal_constraints", .array (r.goals.map Constraints.toJson)),
    ("path_constraints", r.path.toJson)]

/-- The fields of a request, in order. -/
def fieldNames : List String :=
  ["group_name", "planner_id", "representation_type", "goal_constraints", "path_constraints"]

/-- The value of a JSON value as a request. -/
def ofJson? (v : Json) : Option Request := do
  let f ← v.fields? fieldNames
  let group ← Datum.Fields.required f "group_name" Json.text?
  let plannerId ← Datum.Fields.withDefault f "planner_id" Json.text? ""
  let representation ← Datum.Fields.withDefault f "representation_type" Datum.optionalText? none
  let goals ← Datum.Fields.withDefault f "goal_constraints"
    (Datum.list? (Constraints.ofJson? 2)) []
  let path ← Datum.Fields.withDefault f "path_constraints" (Constraints.ofJson? 1) {}
  return { group, plannerId, representation, goals, path }

end Request

end MotionContexts
