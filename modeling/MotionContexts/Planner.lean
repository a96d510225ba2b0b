/-
# Planners

A planner is an instance of a search algorithm.  It is set up by a fixed sequence of calls and
explores afterwards; its exploration graph can be taken out as planner data.  A planner keeps the
LOG of the calls that changed it, so what it was given can be read off the planner itself.

A planner family makes planners: fresh ones, and ones that start from stored data if the algorithm
can resume.

Main statements:
* `log_prepare`: setting a planner up adds its name unless that is empty, every option in order,
  one problem and one setup, and nothing else;
* `graph_prepare`: setting up leaves the exploration graph alone.
-/
import MotionContexts.PlannerData
import MotionContexts.Representation

namespace MotionContexts

/-- A call that changes a planner. -/
inductive PlannerCall where
  | setName (name : String)
  /-- A parameter, and whether the planner knew it. -/
  | setParam (key value : String) (accepted : Bool)
  /-- A problem in a space. -/
  | problem (space : Space)
  | setup
  deriving DecidableEq, Repr

/-- A planner instance. -/
structure Planner where
  /-- The algorithm. -/
  plannerType : String
  /-- The type that its data is marked with. -/
  dataType : String
  name : String
  /-- Whether it started from stored data. -/
  seeded : Bool := false
  /-- The exploration graph. -/
  graph : List UInt8 := []
  /-- Which parameters it accepts. -/
  accepts : String → String → Bool
  /-- The calls that changed it, first one first. -/
  log : List PlannerCall := []

namespace Planner

/-! ## 1. Setting up -/

def setName (p : Planner) (name : String) : Planner :=
  { p with name := name, log := p.log ++ [.setName name] }

def setParam (p : Planner) (key value : String) : Planner :=
  { p with log := p.log ++ [.setParam key value (p.accepts key value)] }

def setProblem (p : Planner) (space : Space) : Planner := { p with log := p.log ++ [.problem space] }

def setup (p : Planner) : Planner := { p with log := p.log ++ [.setup] }

/-- Parameters set one after the other, known or not. -/
def setParams (p : Planner) (options : List (String × String)) : Planner :=
  options.foldl (fun p e => p.setParam e.1 e.2) p

/-- What a new planner goes through before it is handed out; it keeps its own name if the given
one is EMPTY. -/
def prepare (p : Planner) (name : String) (options : Table String) (space : Space) : Planner :=
  let p := if name = "" then p else p.setName name
  ((p.setParams options.entries).setProblem space).setup

/-! ## 2. Exploring -/

/-- Bytes appended to the exploration graph. -/
def explore (p : Planner) (bytes : List UInt8) : Planner := { p with graph := p.graph ++ bytes }

/-- The exploration graph, taken out. -/
def data (p : Planner) : PlannerData := ⟨p.dataType, p.graph⟩

/-! ## 3. What the log tells -/

/-- The parameters in force: of every key the last value that was accepted. -/
def params (p : Planner) : Table String :=
  p.log.foldl (fun t c => match c with
    | .setParam k v true => t.insert k v
    | _ => t) ∅

/-- The space of the last problem. -/
def problem? (p : Planner) : Option Space :=
  p.log.foldl (fun s c => match c with
    | .problem space => some space
    | _ => s) none

theorem setParams_log (options : List (String × String)) (p : Planner) :
    (p.setParams options).log =
        p.log ++ options.map (fun e => .setParam e.1 e.2 (p.accepts e.1 e.2)) ∧
      (p.setParams options).accepts = p.accepts ∧ (p.setParams options).graph = p.graph := by
  induction options generalizing p with
  | nil => simp [setParams]
  | cons e t ih =>
    obtain ⟨h1, h2, h3⟩ := ih (p.setParam e.1 e.2)
    refine ⟨?_, h2, h3⟩
    have h : (p.setParams (e :: t)).log = ((p.setParam e.1 e.2).setParams t).log := rfl
    rw [h, h1]
    simp [setParam]

/-- Setting a planner up adds its name unless that is empty, every option in order, one problem
and one setup. -/
theorem log_prepare (p : Planner) (name : String) (options : Table String) (space : Space) :
    (p.prepare name options space).log =
      p.log ++ ((if name = "" then [] else [.setName name]) ++
        options.entries.map (fun e => .setParam e.1 e.2 (p.accepts e.1 e.2)) ++
        [.problem space, .setup]) := by
  unfold prepare
  by_cases h : name = ""
  · simp [h, setProblem, setup, (setParams_log options.entries p).1]
  · simp only [if_neg h, setProblem, setup]
    rw [(setParams_log options.entries (p.setName name)).1]
    simp [setName]

/-- Setting up leaves the exploration graph alone. -/
theorem graph_prepare (p : Planner) (name : String) (options : Table String) (space : Space) :
    (p.prepare name options space).graph = p.graph := by
  unfold prepare
  by_cases h : name = ""
  · simp [h, setProblem, setup, (setParams_log options.entries p).2.2]
  · simp only [if_neg h, setProblem, setup]
    rw [(setParams_log options.entries (p.setName name)).2.2]
    rfl

end Planner

/-- A way to make planners of one type. -/
structure PlannerFamily where
  plannerType : String
  /-- A fresh planner for a space. -/
  allocate : Space → Planner
  /-- A planner that starts from stored data; not every algorithm can. -/
  allocateWithData : Space → PlannerData → Except DataError Planner :=
    fun _ _ => .error (.unsupported plannerType)

/-! ## 4. The catalog of families -/

/-- Planner families by planner identifier, and the identifier to take where none is named. -/
structure PlannerCatalog where
  families : Table PlannerFamily := ∅
  default : Option String := none

namespace PlannerCatalog

/-- Register a family; another one under this identifier is replaced. -/
def register (c : PlannerCatalog) (id : String) (f : PlannerFamily) : PlannerCatalog :=
  { c with families := c.families.insert id f }

/-- The identifiers, in ascending order. -/
def ids (c : PlannerCatalog) : List String := c.families.keys

/-- The family of an identifier. -/
def find (c : PlannerCatalog) (id : String) : Except ResolutionError PlannerFamily :=
  match c.families.get? id with
  | some f => .ok f
  | none => .error (.unknownAlgorithm id)

/-- The family of an identifier or else of the default one, with the identifier it was found by. -/
def resolve (c : PlannerCatalog) (id : Option String) :
    Except ResolutionError (String × PlannerFamily) :=
  match id.or c.default with
  | some id =>
    match c.find id with
    | .ok f => .ok (id, f)
    | .error e => .error e
  | none => .error (.unknownAlgorithm "")

end PlannerCatalog

end MotionContexts
