/-
# Planning requests

A request asks for a context in which a group can be planned for.  Only what selects the
configuration and the representation is kept: the group, a planner identifier, an explicit
representation type, the goals and the path constraints.

Main statement: `isPoseOnly_iff`, a conjunction is a pose target exactly if it is not empty and
every constraint in it is on a position or an orientation.
-/
namespace MotionContexts

/-- One constraint, reduced to its kind and to what it constrains. -/
inductive Constraint where
  | joint (joint : String)
  | position (link : String)
  | orientation (link : String)
  | visibility (frame : String)
  deriving DecidableEq, Repr

/-- Whether a constraint is on the pose of a link. -/
def Constraint.isPose : Constraint → Bool
  | .position _ => true
  | .orientation _ => true
  | _ => false

/-- A conjunction of constraints. -/
structure Constraints where
  constraints : List Constraint := []
  deriving DecidableEq, Repr

namespace Constraints

/-- Whether nothing is constrained. -/
def isEmpty (c : Constraints) : Bool := c.constraints.isEmpty

/-- Whether this is a pose target: NOT empty, and on poses only. -/
def isPoseOnly (c : Constraints) : Bool := !c.isEmpty && c.constraints.all Constraint.isPose

theorem isPoseOnly_iff (c : Constraints) :
    c.isPoseOnly = true ↔ c.constraints ≠ [] ∧ ∀ k ∈ c.constraints, k.isPose = true := by
  simp [isPoseOnly, isEmpty]

end Constraints

/-- A planning request. -/
structure Request where
  group : String
  /-- Empty, a bare suffix such as `rrt_fast`, or a full name such as `arm[rrt_fast]`. -/
  plannerId : String := ""
  /-- An explicit representation type; the request is not inspected then. -/
  representation : Option String := none
  goals : List Constraints := []
  path : Constraints := {}
  deriving DecidableEq, Repr

namespace Request

/-- Whether an identifier already is a full configuration name of the group: `group[...]`. -/
def isFullName (group id : String) : Bool :=
  (group.toList ++ ['[']).isPrefixOf id.toList && id.toList.getLast? == some ']'

/-- The configuration that a planner identifier means for a group. -/
def nameFor (group id : String) : String :=
  if id = "" then group
  else if isFullName group id then id
  else group ++ "[" ++ id ++ "]"

/-- The configuration that a request means. -/
def configurationName (r : Request) : String := nameFor r.group r.plannerId

end Request

end MotionContexts
