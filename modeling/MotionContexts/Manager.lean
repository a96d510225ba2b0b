/-
# The context manager

Resolves a request, or a configuration named directly, to a planning context.  On the way stand the
configurations in force, the registered representations and planners, and the limits for new
contexts; at its end stands the context cache.

A request names a group, which the scene has to know, and means a configuration by its planner
identifier.  Its failures are answered by a code.
-/
import MotionContexts.ContextCache
import MotionContexts.ManagerDocument

namespace MotionContexts

universe u

/-- The scene a request is made against: the groups it knows. -/
abbrev Scene := String → Bool

/-- A context manager. -/
structure Manager (σ : Type u) where
  configurations : Configurations := ∅
  representations : RepresentationCatalog := {}
  planners : PlannerCatalog := {}
  /-- The limits of contexts that are built from now on. -/
  limits : Limits := {}
  cache : ContextCache σ

namespace Manager

variable {σ : Type u}

/-! ## 1. Setup -/

/-- A manager that represents everything in joint space and knows no planner yet. -/
def new (storage : Storage σ) : Manager σ where
  representations := ({} : RepresentationCatalog).register .jointModel
  cache := .new storage

/-- Other configurations in force: every cached context is forgotten. -/
def setConfigurations (m : Manager σ) (cs : Configurations) : Manager σ :=
  { m with configurations := cs, cache := m.cache.clear }

/-- The planner of configurations that name none. -/
def setDefaultPlanner (m : Manager σ) (id : Option String) : Manager σ :=
  { m with planners := { m.planners with default := id } }

/-- The limits of contexts that are built from now on; cached contexts keep theirs. -/
def setLimits (m : Manager σ) (l : Limits) : Manager σ := { m with limits := l }

/-- The type to take for requests that no representation accepts; cached contexts keep theirs. -/
def setDefaultRepresentation (m : Manager σ) (spaceType : String) : Manager σ :=
  { m with representations := { m.representations with defaultType := spaceType } }

def registerPlanner (m : Manager σ) (id : String) (f : PlannerFamily) : Manager σ :=
  { m with planners := m.planners.register id f }

def registerRepresentation (m : Manager σ) (f : Representation) : Manager σ :=
  { m with representations := m.representations.register f }

/-- Limits, default planner and configurations of a document, one after the other; the table comes
FIRST, since only that can fail. -/
def configure (m : Manager σ) (d : ManagerDocument) : Except DocumentError Unit × Manager σ :=
  match d.table with
  | .error e => (.error e, m)
  | .ok cs =>
    let m := m.setLimits d.limits
    let m := m.setDefaultPlanner d.defaultPlanner
    let m := m.setConfigurations cs
    (.ok (), m)

/-- The manager behind a document that could be applied. -/
def apply (m : Manager σ) (d : ManagerDocument) : Except DocumentError (Manager σ) :=
  match m.configure d with
  | (.error e, _) => .error e
  | (.ok _, m) => .ok m

/-- A new manager set up from a document; it is given up if the document cannot be applied. -/
def ofDocument (storage : Storage σ) (d : ManagerDocument) : Except DocumentError (Manager σ) :=
  (new storage).apply d

/-! ## 2. Contexts -/

/-- The context of a configuration; the representation is the one of the hint, or the one to take
for the request. -/
def contextFrom (m : Manager σ) (c : Configuration) (hint : Option String) (request : Request)
    (w : Workspace σ) : Except ResolutionError PlanningContext × Manager σ × Workspace σ :=
  match m.representations.resolve c.group hint request with
  | .error e => (.error e, m, w)
  | .ok f =>
    let (result, cache, w) := m.cache.context
      { configuration := c, representation := f, planners := m.planners, limits := m.limits } w
    (result, { m with cache := cache }, w)

/-- The context of a configuration by name, as for a request on its group without constraints. -/
def context (m : Manager σ) (name : String) (hint : Option String) (w : Workspace σ) :
    Except ResolutionError PlanningContext × Manager σ × Workspace σ :=
  match m.configurations.find name with
  | .error e => (.error e, m, w)
  | .ok c => m.contextFrom c hint { group := c.group } w

/-- The context of the configuration that a request means, or the cause why there is none. -/
def resolve (m : Manager σ) (request : Request) (w : Workspace σ) :
    Except ResolutionError PlanningContext × Manager σ × Workspace σ :=
  match m.configurations.find request.configurationName with
  | .error e => (.error e, m, w)
  | .ok c => m.contextFrom c request.representation request w

/-- The context for a request in a scene. -/
def contextForRequest (m : Manager σ) (scene : Scene) (request : Request) (w : Workspace σ) :
    Except ErrorCode PlanningContext × Manager σ × Workspace σ :=
  if !scene request.group then (.error .invalidGroupName, m, w)
  else
    match m.resolve request w with
    | (.error e, m, w) => (.error e.code, m, w)
    | (.ok c, m, w) => (.ok c, m, w)

/-! ## 3. Planners that are kept -/

/-- Forget a kept planner and the contexts of its configuration; whether there was a planner. -/
def invalidatePlanner (m : Manager σ) (name : String) (w : Workspace σ) :
    Bool × Manager σ × Workspace σ :=
  let (had, cache, w) := m.cache.invalidatePlanner name w
  (had, { m with cache := cache }, w)

/-- Store the data of every registered planner. -/
def shutdown (m : Manager σ) (w : Workspace σ) : FlushReport × Manager σ × Workspace σ :=
  let (report, cache, w) := m.cache.shutdown w
  (report, { m with cache := cache }, w)

/-- The end of a manager. -/
def release (m : Manager σ) (w : Workspace σ) : Workspace σ := m.cache.release w

end Manager

end MotionContexts
