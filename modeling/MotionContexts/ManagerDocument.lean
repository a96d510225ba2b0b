/-
# Manager documents

What a manager is set up from: limits, a default planner and a LIST of configurations.  The list
may name a configuration twice; such a document can be read but not applied.
-/
import MotionContexts.Configuration
import MotionContexts.Limits

namespace MotionContexts

/-- The setup of a manager. -/
structure ManagerDocument where
  limits : Limits := {}
  defaultPlanner : Option String := none
  configurations : List Configuration := []
  deriving DecidableEq

namespace ManagerDocument

/-- Configurations put into a table one after the other, none over another. -/
def extend (t : Configurations) : List Configuration → Except DocumentError Configurations
  | [] => .ok t
  | c :: cs =>
    if t.contains c.name then .error (.duplicateConfiguration c.name)
    else extend (t.insert c.name c) cs

/-- The configurations by name, if no name is repeated. -/
def table (d : ManagerDocument) : Except DocumentError Configurations := extend ∅ d.configurations

/-- A document as a record; every field may be missing. -/
def read? {δ : Type} [Datum δ] (v : δ) : Option ManagerDocument := do
  let f ← Datum.fields? ["limits", "default_planner", "planner_configs"] v
  let limits ← Datum.Fields.withDefault f "limits" Limits.read? {}
  let defaultPlanner ← Datum.Fields.withDefault f "default_planner" Datum.optionalText? none
  let configurations ← Datum.Fields.withDefault f "planner_configs"
    (Datum.list? Configuration.read?) []
  return { limits, defaultPlanner, configurations }

end ManagerDocument

end MotionContexts
