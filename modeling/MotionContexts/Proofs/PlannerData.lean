/-
# Planner data survives its envelope

An envelope is text in JSON, an object of the planner type and the bytes of the graph, and it is
kept as bytes.  Whatever the planner type and the graph, what is read from these bytes is the data
that was written: the value behind an envelope is lasting, and the text survives its bytes.

Main statement: `ofBytes?_toBytes`.
-/
import MotionContexts.PlannerData
import MotionContexts.Proofs.Json.RoundTrip
import MotionContexts.Proofs.Text.Utf8

namespace MotionContexts.PlannerData

/-! ## 1. The graph -/

/-- A byte is read from the number that is written for it. -/
theorem byte?_ofNat (b : UInt8) : (Json.Numeral.ofNat b.toNat).byte? = some b := by
  have hb : b.toNat < 256 := b.toNat_lt
  simp [Json.Numeral.byte?, Json.Numeral.nat?, Json.Numeral.ofNat, Digit.value_ofNat, hb]

theorem mapM_byte? (graph : List UInt8) :
    (graph.map fun b => Json.ofNat b.toNat).mapM
      (fun b : Json => b.number?.bind Json.Numeral.byte?) = some graph := by
  induction graph with
  | nil => rfl
  | cons b graph ih =>
    have hb : (Json.ofNat b.toNat).number?.bind Json.Numeral.byte? = some b := byte?_ofNat b
    rw [List.map_cons, List.mapM_cons, hb, ih]
    rfl

theorem lastingItems_graph (graph : List UInt8) :
    Json.lastingItems (graph.map fun b => Json.ofNat b.toNat) = true := by
  induction graph with
  | nil => rfl
  | cons b graph ih =>
    have hb : (Json.ofNat b.toNat).lasting = true := Json.Numeral.isValid_ofNat b.toNat
    rw [List.map_cons, Json.lastingItems, hb, ih]
    rfl

/-! ## 2. The envelope -/

theorem lasting_toJson (d : PlannerData) : d.toJson.lasting = true := by
  have hgraph := lastingItems_graph d.graph
  simp [toJson, Json.ofFields, Json.ofString, Json.lasting, Json.lastingFields, hgraph]

theorem ofJson?_toJson (d : PlannerData) : ofJson? d.toJson = some d := by
  let fields : Datum.Fields Json := [
    ("planner_type", .ofString d.plannerType),
    ("graph", .array (d.graph.map fun b => .ofNat b.toNat))]
  have hfields : d.toJson.fields? ["planner_type", "graph"] = some fields := rfl
  have htype : Datum.Fields.required fields "planner_type" Json.text? = some d.plannerType := rfl
  have hgraph : Datum.Fields.required fields "graph"
      (Datum.list? fun b : Json => b.number?.bind Json.Numeral.byte?) = some d.graph :=
    mapM_byte? d.graph
  simp [ofJson?, hfields, htype, hgraph]

/-- **Planner data survives its envelope.** -/
theorem ofBytes?_toBytes (d : PlannerData) : ofBytes? d.toBytes = some d := by
  have hvalue := Json.ofSymbols?_compact (lasting_toJson d)
  rw [ofBytes?, toBytes, Json.ofBytes?, Utf8.symbols_encode, hvalue]
  exact ofJson?_toJson d

end MotionContexts.PlannerData
