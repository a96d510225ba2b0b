/-
# Planning contexts

A context is a representation, a planner and limits for one configuration, together with the
specification that it was built from.  Contexts are shared, and two contexts that agree in
everything may still be two: each has a number of its own.
-/
import MotionContexts.Configuration
import MotionContexts.Limits
import MotionContexts.Representation
import MotionContexts.Text.Quoted

namespace MotionContexts

/-- What a context was built from. -/
structure ContextSpec where
  /-- The name of the configuration. -/
  name : String
  group : String
  /-- The planner identifier that was resolved. -/
  plannerId : String
  /-- The options of the configuration, ALL of them. -/
  options : Table String
  limits : Limits
  deriving DecidableEq

/-- A planning context. -/
structure PlanningContext where
  /-- The number of the context among all that were ever built. -/
  number : Nat
  spec : ContextSpec
  space : Space
  /-- The instance number of its planner. -/
  planner : Nat
  deriving DecidableEq

namespace PlanningContext

/-- A field and its text, quoted. -/
def shown (field value : String) : String := field ++ ": " ++ Text.quoted value

/-- A context as it shows itself to people; it shows only a part, and says so. -/
def describe (c : PlanningContext) : String :=
  "PlanningContext \x7b " ++ ", ".intercalate [
    shown "name" c.spec.name,
    shown "group" c.spec.group,
    shown "space_type" c.space.spaceType,
    shown "planner_id" c.spec.plannerId,
    ".."] ++ " \x7d"

end PlanningContext

/-- What tells cached contexts apart. -/
structure ContextKey where
  group : String
  configuration : String
  spaceType : String
  deriving DecidableEq, Repr

end MotionContexts
