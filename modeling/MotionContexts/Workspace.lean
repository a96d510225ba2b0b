/-
# Workspaces

What planners and storages do is seen outside the caches that use them: planners live on in the
hands of their users, and storages outlive everybody.  A `Workspace` holds what is outside: the
contents of the storages, every planner ever made under its INSTANCE NUMBER, how many contexts were
ever built, and the record of what was asked of families and storages.

Main statement: `planner?_enroll`, a new planner gets the next number and no other planner changes.
-/
import MotionContexts.Planner
import MotionContexts.Storage

namespace MotionContexts

universe u

/-- What was asked of a planner family or a storage. -/
inductive Call where
  | allocate (plannerType : String) (space : Space)
  | allocateWithData (plannerType : String) (space : Space)
  | load (path : Path) (outcome : Except DataError PlannerData)
  | store (path : Path) (data : PlannerData) (outcome : Except DataError Unit)

/-- What there is outside the caches, over the contents of the storages. -/
structure Workspace (σ : Type u) where
  contents : σ
  /-- Planner `n` of the list has instance number `n`. -/
  planners : List Planner := []
  /-- How many contexts were ever built. -/
  contexts : Nat := 0
  /-- What was asked, first one first. -/
  calls : List Call := []

namespace Workspace

variable {σ : Type u}

/-- One more call on record. -/
def record (w : Workspace σ) (c : Call) : Workspace σ := { w with calls := w.calls ++ [c] }

/-- Load from a storage. -/
def load (w : Workspace σ) (s : Storage σ) (p : Path) :
    Except DataError PlannerData × Workspace σ :=
  let outcome := s.load p w.contents
  (outcome, w.record (.load p outcome))

/-- Store with a storage. -/
def store (w : Workspace σ) (s : Storage σ) (d : PlannerData) (p : Path) :
    Except DataError Unit × Workspace σ :=
  let (outcome, contents) := s.store d p w.contents
  (outcome, { w with contents := contents }.record (.store p d outcome))

/-- The planner of an instance number. -/
def planner? (w : Workspace σ) (n : Nat) : Option Planner := w.planners[n]?

/-- A new planner under the next instance number. -/
def enroll (w : Workspace σ) (p : Planner) : Nat × Workspace σ :=
  (w.planners.length, { w with planners := w.planners ++ [p] })

/-- Let a planner explore; none if there is no such planner. -/
def explore (w : Workspace σ) (n : Nat) (bytes : List UInt8) : Option Planner × Workspace σ :=
  match w.planner? n with
  | none => (none, w)
  | some p => (some (p.explore bytes), { w with planners := w.planners.set n (p.explore bytes) })

/-- The number of a new context. -/
def nextContext (w : Workspace σ) : Nat × Workspace σ :=
  (w.contexts, { w with contexts := w.contexts + 1 })

/-- A new planner gets the next number and no other planner changes. -/
theorem planner?_enroll (w : Workspace σ) (p : Planner) (n : Nat) :
    (w.enroll p).2.planner? n = if n = (w.enroll p).1 then some p else w.planner? n := by
  show (w.planners ++ [p])[n]? = if n = w.planners.length then some p else w.planners[n]?
  by_cases h : n = w.planners.length
  · simp [h]
  · rw [if_neg h, List.getElem?_append]
    split
    · rfl
    · rename_i hge
      have h1 : ([p] : List Planner)[n - w.planners.length]? = none :=
        List.getElem?_eq_none (by rw [List.length_singleton]; omega)
      rw [h1, List.getElem?_eq_none (by omega)]

end Workspace

end MotionContexts
