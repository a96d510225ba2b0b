/-
# Planner data

The exploration graph of a planner as an opaque blob, marked with the type of the planner that
produced it, and its envelope in JSON: an object of both, the graph as an array of bytes.
-/
import MotionContexts.Error
import MotionContexts.Json.Record

namespace MotionContexts

/-- Exploration data taken from a planner. -/
structure PlannerData where
  plannerType : String
  graph : List UInt8
  deriving DecidableEq, Repr

namespace PlannerData

/-- Whether nothing was explored. -/
def isEmpty (d : PlannerData) : Bool := d.graph.isEmpty

/-- Data is fit for the planner type that produced it, and for NO other. -/
def ensureType (d : PlannerData) (plannerType : String) : Except DataError Unit :=
  if d.plannerType = plannerType then .ok ()
  else .error (.formatMismatch plannerType d.plannerType)

theorem ensureType_eq_ok_iff (d : PlannerData) (t : String) :
    d.ensureType t = .ok () ↔ d.plannerType = t := by
  unfold ensureType
  split <;> simp_all

/-! ## The envelope -/

def toJson (d : PlannerData) : Json :=
  .ofFields [
    ("planner_type", .ofString d.plannerType),
    ("graph", .array (d.graph.map fun b => .ofNat b.toNat))]

/-- The value of a JSON value as planner data. -/
def ofJson? (v : Json) : Option PlannerData := do
  let f ← v.fields? ["planner_type", "graph"]
  let plannerType ← Datum.Fields.required f "planner_type" Json.text?
  let graph ← Datum.Fields.required f "graph"
    (Datum.list? fun b : Json => b.number?.bind Json.Numeral.byte?)
  return ⟨plannerType, graph⟩

/-- The envelope of planner data as bytes. -/
def toBytes (d : PlannerData) : List UInt8 := Utf8.encode d.toJson.compact

/-- The planner data in an envelope. -/
def ofBytes? (bytes : List UInt8) : Option PlannerData := (Json.ofBytes? bytes).bind ofJson?

end PlannerData

end MotionContexts
