/-
# What allocating a planner can do

An allocation does one of four things: it refuses options that it cannot read, it makes a planner
that is not kept, it hands out the planner that is kept, or it makes the FIRST planner of a name and
keeps it.  `Allocates` says so, one constructor each, with everything the case does to the pool and
to the workspace.

Making a planner enrolls exactly one, works on the space that was asked for, and stores nothing,
however often loading goes wrong on the way.

Main statements:
* `allocates_of_eq`, the four cases are all there are;
* `build_enrolls`, what making a planner leaves in the workspace;
* `allocate_error`, an allocation that fails has done nothing.
-/
import MotionContexts.Proofs.Options
import MotionContexts.Proofs.Workspace

namespace MotionContexts

universe u

/-! ## 1. The problem of a planner -/

namespace Planner

/-- Setting a planner up ends with a problem in the given space. -/
theorem problem?_prepare (p : Planner) (name : String) (options : Table String) (space : Space) :
    (p.prepare name options space).problem? = some space := by
  rw [problem?, log_prepare]
  simp [List.foldl_append]

theorem problem?_explore (p : Planner) (bytes : List UInt8) :
    (p.explore bytes).problem? = p.problem? := rfl

end Planner

/-! ## 2. Whether the planner is kept -/

namespace Retention

/-- Whether the options say that the planner is to be kept for later queries of its name. -/
def enabled (options : Table String) : Bool :=
  (options.get? multiQueryKey).bind flag? == some true

theorem of_readFlag_ok {key : String} {options : Table String} {b : Bool}
    (h : readFlag key options = .ok b) : b = ((options.get? key).bind flag? == some true) := by
  rcases readFlag_eq_ok_iff.mp h with ⟨hk, rfl⟩ | ⟨raw, hk, hb⟩
  · simp [hk]
  · cases b <;> simp [hk, hb]

/-- The flag about keeping that is read is the one among the options. -/
theorem extract_multiQuery {options rest : Table String} {r : Retention}
    (h : extract options = (.ok r, rest)) : r.multiQuery = enabled options := by
  cases extracts_of_eq h with
  | read hm hl hs => exact of_readFlag_ok hm

end Retention

namespace PlannerPool

variable {σ : Type u}

/-! ## 3. Making a planner -/

theorem quiet_seed? (s : Storage σ) (family : PlannerFamily) (space : Space) (path : Path)
    (w : Workspace σ) : w.Quiet (seed? s family space path w).2 := by
  have hq := w.quiet_load s path
  unfold seed?
  split
  · rename_i e w' h
    rw [h] at hq
    exact hq
  · rename_i data w' h
    rw [h] at hq
    split
    · exact hq
    · dsimp only
      split <;> exact hq.record rfl

/-- Making a planner, from data or not, only puts calls on record, and none of them saves. -/
theorem quiet_construct (s : Storage σ) (family : PlannerFamily) (space : Space)
    (loadFrom : Option Path) (w : Workspace σ) :
    w.Quiet (construct s family space loadFrom w).2 := by
  unfold construct
  split
  · exact (Workspace.Quiet.refl w).record rfl
  · rename_i path
    have hq := quiet_seed? s family space path w
    split
    · rename_i p w' h
      rw [h] at hq
      exact hq
    · rename_i w' h
      rw [h] at hq
      exact hq.record rfl

/-- **What making a planner leaves in the workspace**: one planner more, prepared for the name, the
options and the space. -/
theorem build_enrolls (s : Storage σ) (family : PlannerFamily) (space : Space) (name : String)
    (options : Table String) (loadFrom : Option Path) (w : Workspace σ) :
    w.Enrolls (build s family space name options loadFrom w).2
      (build s family space name options loadFrom w).1
      ((construct s family space loadFrom w).1.prepare name options space) :=
  (quiet_construct s family space loadFrom w).enroll _

/-! ## 4. Keeping a planner -/

@[simp] theorem storage_keep (pool : PlannerPool σ) (name : String) (n : Nat)
    (storeTo : Option Path) : (pool.keep name n storeTo).storage = pool.storage := by
  unfold keep
  split <;> rfl

@[simp] theorem planners_keep (pool : PlannerPool σ) (name : String) (n : Nat)
    (storeTo : Option Path) :
    (pool.keep name n storeTo).planners = pool.planners.insert name n := by
  unfold keep
  split <;> rfl

theorem storagePaths_keep (pool : PlannerPool σ) (name : String) (n : Nat) (storeTo : Option Path)
    (k : String) :
    (pool.keep name n storeTo).storagePaths.get? k =
      if k = name then storeTo.or (pool.storagePaths.get? k) else pool.storagePaths.get? k := by
  unfold keep
  split
  · simp
  · rw [Table.get?_insert, Option.some_or]

theorem flushed_keep (pool : PlannerPool σ) (name : String) (n : Nat) (storeTo : Option Path) :
    (pool.keep name n storeTo).flushed = (storeTo.isNone && pool.flushed) := by
  unfold keep
  split <;> rfl

/-! ## 5. The four cases -/

/-- What an allocation may answer, and the pool and the workspace that it may leave. -/
inductive Allocates (pool : PlannerPool σ) (family : PlannerFamily) (space : Space) (name : String)
    (config : Table String) (w : Workspace σ) :
    Except ResolutionError Nat → PlannerPool σ → Workspace σ → Prop
  /-- The options about keeping cannot be read. -/
  | refused {e : ResolutionError} {rest : Table String}
    (hx : Retention.extract config = (.error e, rest)) :
    Allocates pool family space name config w (.error e) pool w
  /-- A planner that is not kept. -/
  | single {r : Retention} {options : Table String}
    (hx : Retention.extract config = (.ok r, options)) (hr : r.multiQuery = false) :
    Allocates pool family space name config w
      (.ok (build pool.storage family space name options none w).1) pool
      (build pool.storage family space name options none w).2
  /-- The planner that is kept. -/
  | kept {r : Retention} {options : Table String} {n : Nat}
    (hx : Retention.extract config = (.ok r, options)) (hr : r.multiQuery = true)
    (hn : pool.planners.get? name = some n) :
    Allocates pool family space name config w (.ok n) pool w
  /-- The first planner of the name, which is kept from now on. -/
  | first {r : Retention} {options : Table String}
    (hx : Retention.extract config = (.ok r, options)) (hr : r.multiQuery = true)
    (hn : pool.planners.get? name = none) :
    Allocates pool family space name config w
      (.ok (build pool.storage family space name options r.loadFrom w).1)
      (pool.keep name (build pool.storage family space name options r.loadFrom w).1 r.storeTo)
      (build pool.storage family space name options r.loadFrom w).2

/-- **An allocation is one of the four.** -/
theorem allocates_of_eq {pool pool' : PlannerPool σ} {family : PlannerFamily} {space : Space}
    {name : String} {config : Table String} {w w' : Workspace σ}
    {result : Except ResolutionError Nat}
    (h : pool.allocate family space name config w = (result, pool', w')) :
    Allocates pool family space name config w result pool' w' := by
  unfold allocate at h
  split at h
  · rename_i e rest hx
    cases h
    exact .refused hx
  · rename_i r options hx
    split at h
    · rename_i hr
      cases h
      exact .single hx (by simpa using hr)
    · rename_i hr
      split at h
      · rename_i n hn
        cases h
        exact .kept hx (by simpa using hr) hn
      · rename_i hn
        cases h
        exact .first hx (by simpa using hr) hn

/-- **A planner that is handed out** is the one kept under the name, and nothing has changed; or it
was made just now, for the space, and is kept from now on or not. -/
theorem Allocates.reused_or_made {pool pool' : PlannerPool σ} {family : PlannerFamily}
    {space : Space} {name : String} {config : Table String} {w w' : Workspace σ} {n : Nat}
    (h : Allocates pool family space name config w (.ok n) pool' w') :
    (Retention.enabled config = true ∧ pool.planners.get? name = some n ∧ pool' = pool ∧ w' = w) ∨
      ∃ p, w.Enrolls w' n p ∧ p.problem? = some space ∧
        (pool'.planners = pool.planners ∨ pool'.planners = pool.planners.insert name n) := by
  cases h with
  | single hx hr =>
    exact .inr ⟨_, build_enrolls .., Planner.problem?_prepare .., .inl rfl⟩
  | kept hx hr hn =>
    rw [Retention.extract_multiQuery hx] at hr
    exact .inl ⟨hr, hn, rfl, rfl⟩
  | first hx hr hn =>
    exact .inr ⟨_, build_enrolls .., Planner.problem?_prepare .., .inr (planners_keep ..)⟩

/-- An allocation that fails has done nothing. -/
theorem allocate_error {pool pool' : PlannerPool σ} {family : PlannerFamily} {space : Space}
    {name : String} {config : Table String} {w w' : Workspace σ} {e : ResolutionError}
    (h : pool.allocate family space name config w = (.error e, pool', w')) :
    pool' = pool ∧ w' = w := by
  cases allocates_of_eq h with
  | refused hx => exact ⟨rfl, rfl⟩

/-- An allocation saves nothing. -/
theorem Allocates.saves {pool pool' : PlannerPool σ} {family : PlannerFamily} {space : Space}
    {name : String} {config : Table String} {w w' : Workspace σ}
    {result : Except ResolutionError Nat}
    (h : Allocates pool family space name config w result pool' w') : w.saves w' = [] := by
  cases h with
  | refused hx => exact (Workspace.Quiet.refl w).saves
  | single hx hr => exact (build_enrolls ..).saves
  | kept hx hr hn => exact (Workspace.Quiet.refl w).saves
  | first hx hr hn => exact (build_enrolls ..).saves

end PlannerPool

/-! ## 6. A sample -/

namespace Sample

/-- A family whose planners take every parameter; they start from nothing. -/
def roadmaps : PlannerFamily where
  plannerType := "roadmap"
  allocate _ := {
    plannerType := "roadmap"
    dataType := "roadmap"
    name := "roadmap"
    accepts := fun _ _ => true }

/-- Planners like these that can start from stored data; they keep its graph. -/
def resuming : PlannerFamily := { roadmaps with
  allocateWithData := fun space d =>
    .ok { roadmaps.allocate space with seeded := true, graph := d.graph } }

/-- Options that want a planner kept. -/
def kept : Table String := Table.ofList [(Retention.multiQueryKey, "true")]

/-- Options that want a planner kept and its data stored at a path. -/
def keptAt (path : String) : Table String :=
  (kept.insert Retention.storeKey "1").insert Retention.pathKey path

/-- Options that want it started from the data at the path, too. -/
def resumedAt (path : String) : Table String := (keptAt path).insert Retention.loadKey "true"

end Sample

end MotionContexts
