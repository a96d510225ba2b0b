/-
# The context cache

Contexts by group, configuration and space type, over a planner pool.  A context that is there is
handed out as it is, even if the options or limits asked for differ from those it was built with.
One that is not there is built and kept, unless building it fails.

Forgetting all contexts leaves the pool alone; forgetting a kept planner forgets the contexts of its
configuration too.
-/
import MotionContexts.Context
import MotionContexts.KeyedList
import MotionContexts.Limits.Override
import MotionContexts.PlannerPool

namespace MotionContexts

universe u

/-- What a context is asked for with. -/
structure ContextSource where
  configuration : Configuration
  representation : Representation
  planners : PlannerCatalog
  limits : Limits

namespace ContextSource

/-- The key of the context. -/
def key (s : ContextSource) : ContextKey :=
  ⟨s.configuration.group, s.configuration.name, s.representation.spaceType⟩

/-- The option that names the planner. -/
def plannerOption : String := "type"

end ContextSource

/-- Cached contexts over a planner pool. -/
structure ContextCache (σ : Type u) where
  contexts : KeyedList ContextKey PlanningContext := ∅
  pool : PlannerPool σ

namespace ContextCache

variable {σ : Type u}

/-- A cache without contexts, over a pool that keeps nothing yet. -/
def new (storage : Storage σ) : ContextCache σ := { pool := .new storage }

/-! ## 1. Contexts -/

/-- A new context.  The steps that may fail come in this order: overridden limits, the planner
identifier, the space, the options about keeping the planner. -/
def build (pool : PlannerPool σ) (s : ContextSource) (w : Workspace σ) :
    Except ResolutionError PlanningContext × PlannerPool σ × Workspace σ :=
  let c := s.configuration
  let options := c.options.erase ContextSource.plannerOption
  match s.limits.applyOverrides options with
  | (.error e, _, _) => (.error e, pool, w)
  | (.ok _, limits, options) =>
    match s.planners.resolve (c.options.get? ContextSource.plannerOption) with
    | .error e => (.error e, pool, w)
    | .ok (plannerId, family) =>
      match s.representation.build c.group with
      | .error e => (.error e, pool, w)
      | .ok space =>
        match pool.allocate family space c.name options w with
        | (.error e, pool, w) => (.error e, pool, w)
        | (.ok planner, pool, w) =>
          let (number, w) := w.nextContext
          (.ok {
            number := number
            spec := {
              name := c.name
              group := c.group
              plannerId := plannerId
              options := c.options
              limits := limits }
            space := space
            planner := planner }, pool, w)

/-- The context of a source: the cached one, or a new one that is cached from now on. -/
def context (cache : ContextCache σ) (s : ContextSource) (w : Workspace σ) :
    Except ResolutionError PlanningContext × ContextCache σ × Workspace σ :=
  match cache.contexts.get? s.key with
  | some c => (.ok c, cache, w)
  | none =>
    match build cache.pool s w with
    | (.error e, pool, w) => (.error e, { cache with pool := pool }, w)
    | (.ok c, pool, w) =>
      (.ok c, { contexts := cache.contexts.insert s.key c, pool := pool }, w)

/-- The cached context of a key. -/
def get? (cache : ContextCache σ) (key : ContextKey) : Option PlanningContext :=
  cache.contexts.get? key

/-- How many contexts are cached. -/
def size (cache : ContextCache σ) : Nat := cache.contexts.size

/-- Whether no context is cached. -/
def isEmpty (cache : ContextCache σ) : Bool := cache.contexts.isEmpty

/-! ## 2. Forgetting -/

/-- Forget every context; kept planners stay. -/
def clear (cache : ContextCache σ) : ContextCache σ := { cache with contexts := ∅ }

/-- Forget a kept planner and every context of its configuration; whether there was a planner. -/
def invalidatePlanner (cache : ContextCache σ) (name : String) (w : Workspace σ) :
    Bool × ContextCache σ × Workspace σ :=
  let contexts := cache.contexts.filterKeys fun k => k.configuration != name
  let (had, pool, w) := cache.pool.invalidate name w
  (had, { contexts, pool }, w)

/-- Store the data of every registered planner. -/
def shutdown (cache : ContextCache σ) (w : Workspace σ) :
    FlushReport × ContextCache σ × Workspace σ :=
  let (report, pool, w) := cache.pool.shutdown w
  (report, { cache with pool := pool }, w)

/-- The end of a cache. -/
def release (cache : ContextCache σ) (w : Workspace σ) : Workspace σ := cache.pool.release w

/-- The names of the kept planners. -/
def cachedPlanners (cache : ContextCache σ) : List String := cache.pool.cachedNames

end ContextCache

end MotionContexts
