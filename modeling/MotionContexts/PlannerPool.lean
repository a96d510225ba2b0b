/-
# The planner pool

Planners that are kept for later queries live here under the name of their configuration, so their
exploration graph keeps growing from query to query.  Some of them are registered for STORING: their
data goes to a path before they go.

* `allocate` hands a planner out: a fresh one every time, or for a kept name always the same one.
* `invalidate` forgets a kept planner, after an attempt to store its data.
* `shutdown` attempts to store the data of every registered planner.
* `release` is the end of the pool: a shutdown, unless the last one covered everything.

Trouble with the storage never stops any of this: a planner that cannot be started from its data
starts without it, and a store that fails is reported at most.
-/
import MotionContexts.Retention
import MotionContexts.Workspace

namespace MotionContexts

universe u

/-- Kept planners by name, over a storage. -/
structure PlannerPool (σ : Type u) where
  storage : Storage σ
  /-- The instance numbers of the kept planners. -/
  planners : Table Nat := ∅
  /-- The planners registered for storing, and where. -/
  storagePaths : Table Path := ∅
  /-- Whether a shutdown covered everything that is registered. -/
  flushed : Bool := true

/-- What a shutdown did, name by name. -/
structure FlushReport where
  stored : List String := []
  failed : List (String × ResolutionError) := []
  deriving DecidableEq, Repr

/-- Whether nothing failed. -/
def FlushReport.isComplete (r : FlushReport) : Bool := r.failed.isEmpty

namespace PlannerPool

variable {σ : Type u}

/-- A pool that keeps nothing yet. -/
def new (storage : Storage σ) : PlannerPool σ := { storage := storage }

/-! ## 1. Making a planner -/

/-- A planner that starts from the data at a path, if that is there, of the family's own type and
usable. -/
def seed? (s : Storage σ) (family : PlannerFamily) (space : Space) (path : Path)
    (w : Workspace σ) : Option Planner × Workspace σ :=
  match w.load s path with
  | (.error _, w) => (none, w)
  | (.ok data, w) =>
    match data.ensureType family.plannerType with
    | .error _ => (none, w)
    | .ok _ =>
      let w := w.record (.allocateWithData family.plannerType space)
      match family.allocateWithData space data with
      | .error _ => (none, w)
      | .ok p => (some p, w)

/-- A planner that starts from nothing. -/
def fresh (family : PlannerFamily) (space : Space) (w : Workspace σ) : Planner × Workspace σ :=
  (family.allocate space, w.record (.allocate family.plannerType space))

/-- A planner that starts from the data at the path if there is one, else from nothing. -/
def construct (s : Storage σ) (family : PlannerFamily) (space : Space) (loadFrom : Option Path)
    (w : Workspace σ) : Planner × Workspace σ :=
  match loadFrom with
  | none => fresh family space w
  | some path =>
    match seed? s family space path w with
    | (some p, w) => (p, w)
    | (none, w) => fresh family space w

/-- A planner made and set up; its instance number. -/
def build (s : Storage σ) (family : PlannerFamily) (space : Space) (name : String)
    (options : Table String) (loadFrom : Option Path) (w : Workspace σ) : Nat × Workspace σ :=
  let (p, w) := construct s family space loadFrom w
  w.enroll (p.prepare name options space)

/-! ## 2. Handing planners out -/

/-- Keep a planner under a name, and register it for storing if there is a place for its data. -/
def keep (pool : PlannerPool σ) (name : String) (n : Nat) (storeTo : Option Path) :
    PlannerPool σ :=
  match storeTo with
  | none => { pool with planners := pool.planners.insert name n }
  | some path => { pool with
      planners := pool.planners.insert name n
      storagePaths := pool.storagePaths.insert name path
      flushed := false }

/-- A planner for a name: its instance number.  The options of a name that is kept are NOT looked
at beyond the four about keeping. -/
def allocate (pool : PlannerPool σ) (family : PlannerFamily) (space : Space) (name : String)
    (config : Table String) (w : Workspace σ) :
    Except ResolutionError Nat × PlannerPool σ × Workspace σ :=
  match Retention.extract config with
  | (.error e, _) => (.error e, pool, w)
  | (.ok r, options) =>
    if !r.multiQuery then
      let (n, w) := build pool.storage family space name options none w
      (.ok n, pool, w)
    else
      match pool.planners.get? name with
      | some n => (.ok n, pool, w)
      | none =>
        let (n, w) := build pool.storage family space name options r.loadFrom w
        (.ok n, pool.keep name n r.storeTo, w)

/-! ## 3. Storing -/

/-- Store the data of the planner that is kept under a name; there is nothing to do if none is. -/
def storeOne (pool : PlannerPool σ) (name : String) (path : Path) (w : Workspace σ) :
    Except ResolutionError Unit × Workspace σ :=
  match (pool.planners.get? name).bind w.planner? with
  | none => (.ok (), w)
  | some p =>
    match w.store pool.storage p.data path with
    | (.ok _, w) => (.ok (), w)
    | (.error e, w) => (.error (.storeFailed name path e), w)

/-- Store the data of planners one after the other; a failure does not keep the others from it. -/
def storeAll (pool : PlannerPool σ) :
    List (String × Path) → FlushReport → Workspace σ → FlushReport × Workspace σ
  | [], report, w => (report, w)
  | (name, path) :: rest, report, w =>
    match pool.storeOne name path w with
    | (.ok _, w) => pool.storeAll rest { report with stored := report.stored ++ [name] } w
    | (.error e, w) => pool.storeAll rest { report with failed := report.failed ++ [(name, e)] } w

/-- Store the data of every registered planner, in the order of the names. -/
def shutdown (pool : PlannerPool σ) (w : Workspace σ) :
    FlushReport × PlannerPool σ × Workspace σ :=
  let (report, w) := pool.storeAll pool.storagePaths.entries {} w
  (report, { pool with flushed := true }, w)

/-- Forget a kept planner, after an attempt to store its data if it is registered; whether there
was one. -/
def invalidate (pool : PlannerPool σ) (name : String) (w : Workspace σ) :
    Bool × PlannerPool σ × Workspace σ :=
  let w := match pool.storagePaths.get? name with
    | some path => (pool.storeOne name path w).2
    | none => w
  (pool.planners.contains name,
    { pool with
      planners := pool.planners.erase name
      storagePaths := pool.storagePaths.erase name },
    w)

/-- The end of a pool. -/
def release (pool : PlannerPool σ) (w : Workspace σ) : Workspace σ :=
  if pool.flushed then w else (pool.shutdown w).2.2

/-! ## 4. Looking at a pool -/

/-- Whether a planner is kept under a name. -/
def isCached (pool : PlannerPool σ) (name : String) : Bool := pool.planners.contains name

/-- The names of the kept planners, in ascending order. -/
def cachedNames (pool : PlannerPool σ) : List String := pool.planners.keys

end PlannerPool

end MotionContexts
