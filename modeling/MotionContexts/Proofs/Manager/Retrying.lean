/-
# When a failed store is tried again

The planners of a manager are stored by the pool of its cache, and the end of a manager is the end
of that pool.  A shutdown reports what it could not store.  Yet the end goes by a flag that a
shutdown sets whatever came of it, and only a registration takes away: a name whose last attempt
failed is attempted again at the end exactly if some planner, of ANY name, was registered since
(`failed_store_retried_iff`).  If none was, what could not be stored is lost
(`failed_store_forgotten`).

The law is that of the pool; cache and manager have it because their runs are runs of the pool in
which the same operations store.
-/
import MotionContexts.Proofs.Manager.Layers
import MotionContexts.Proofs.PlannerPool.Retrying

namespace MotionContexts

universe u

open PlannerPool (Flush)
open PlannerPool.Session (Retries)

/-! ## 1. The pool of a cache -/

namespace ContextCache

variable {σ : Type u}

/-- What the operation stores the data of, if it stores anything. -/
def Operation.flush? : Operation → Option Flush
  | .invalidatePlanner name => some (.one name)
  | .shutdown => some .all
  | _ => none

/-- What comes down to the pool as a context is built stores nothing. -/
theorem flush?_allocation {source : ContextSource} {op : PlannerPool.Operation}
    (h : allocation? source = some op) : op.flush? = none := by
  unfold allocation? at h
  dsimp only at h
  split at h
  · cases h
  · split at h
    · cases h
    · split at h
      · cases h
      · cases h
        rfl

namespace Session

/-- A cache and its pool store in the same operations. -/
theorem flush?_poolOperation (s : Session σ) (op : Operation) :
    (s.poolOperation op).flush? = op.flush? := by
  cases op with
  | context source =>
    rw [poolOperation]
    split
    · rfl
    · cases h : allocation? source with
      | none => rfl
      | some op => exact flush?_allocation h
  | _ => rfl

/-- The end of a cache saves what the end of its pool does. -/
theorem saves_release (s : Session σ) :
    s.workspace.saves (s.cache.release s.workspace) =
      s.pooled.workspace.saves (s.pooled.pool.release s.pooled.workspace) := by
  rw [pooled, PlannerPool.release_uncounted, Workspace.saves_uncounted, release]

/-- **The law of trying again** for the pools of caches. -/
theorem retries (storage : Storage σ) (w : Workspace σ) (ops : List Operation) :
    Retries (fun k => ((new storage w).after ops k).pooled)
      (fun k : Nat => ops[k]?.bind Operation.flush?) ops.length
      (((new storage w).after ops ops.length).workspace.saves
        (((new storage w).after ops ops.length).cache.release
          ((new storage w).after ops ops.length).workspace)) := by
  rw [saves_release]
  refine Retries.of_run (pooled_after _ ops) (fun k => ?_) (Run.length_translate ops _).symm
  rw [getElem?_poolOperations]
  cases ops[k]? with
  | none => rfl
  | some op => exact (flush?_poolOperation _ op).symm

end Session

end ContextCache

/-! ## 2. The pool of a manager -/

namespace Manager

variable {σ : Type u}

/-- What the operation stores the data of, if it stores anything. -/
def Operation.flush? : Operation → Option Flush
  | .invalidatePlanner name => some (.one name)
  | .shutdown => some .all
  | _ => none

namespace Session

/-- A manager and its cache store in the same operations. -/
theorem flush?_cacheOperation (s : Session σ) (op : Operation) :
    (s.cacheOperation op).flush? = op.flush? := by
  cases hs : s.sought? op with
  | some e =>
    rw [cacheOperation_of_sought hs]
    cases op with
    | context name hint => rfl
    | request scene request => rfl
    | _ => cases hs
  | none =>
    rw [cacheOperation_of_not_sought hs]
    cases op with
    | apply d =>
      rw [plainOperation]
      split <;> rfl
    | _ => rfl

/-- The end of a manager saves what the end of its pool does. -/
theorem saves_release (s : Session σ) :
    s.workspace.saves (s.manager.release s.workspace) =
      s.pooled.workspace.saves (s.pooled.pool.release s.pooled.workspace) :=
  s.cached.saves_release

/-- **The law of trying again** for the pools of managers. -/
theorem retries (storage : Storage σ) (w : Workspace σ) (ops : List Operation) :
    Retries (fun k => ((new storage w).after ops k).pooled)
      (fun k : Nat => ops[k]?.bind Operation.flush?) ops.length
      (((new storage w).after ops ops.length).workspace.saves
        (((new storage w).after ops ops.length).manager.release
          ((new storage w).after ops ops.length).workspace)) := by
  rw [saves_release]
  refine Retries.of_run (pooled_after _ ops) (fun k => ?_) (Run.length_translate ops _).symm
  rw [getElem?_poolOperations]
  cases ops[k]? with
  | none => rfl
  | some op =>
    have hcache := flush?_cacheOperation ((new storage w).after ops k) op
    exact ((ContextCache.Session.flush?_poolOperation _ _).trans hcache).symm

end Session

end Manager

/-! ## 3. The theorem -/

/-- **When a failed store is tried again.**  In every run of a new pool, of a new cache and of a new
manager, over any storage: a planner that is registered at the end is attempted to be saved by the
end exactly if some planner was registered behind the last attempt for its name, WHATEVER came of
that attempt.  So a name that a shutdown could not store is attempted again if anybody was registered
since, and else not. -/
theorem failed_store_retried_iff {σ : Type u} (storage : Storage σ) (w : Workspace σ) :
    (∀ ops : List PlannerPool.Operation,
      Retries ((PlannerPool.Session.new storage w).after ops)
        (fun k => ops[k]?.bind PlannerPool.Operation.flush?) ops.length
        (((PlannerPool.Session.new storage w).after ops ops.length).workspace.saves
          (((PlannerPool.Session.new storage w).after ops ops.length).pool.release
            ((PlannerPool.Session.new storage w).after ops ops.length).workspace))) ∧
    (∀ ops : List ContextCache.Operation,
      Retries (fun k => ((ContextCache.Session.new storage w).after ops k).pooled)
        (fun k => ops[k]?.bind ContextCache.Operation.flush?) ops.length
        (((ContextCache.Session.new storage w).after ops ops.length).workspace.saves
          (((ContextCache.Session.new storage w).after ops ops.length).cache.release
            ((ContextCache.Session.new storage w).after ops ops.length).workspace))) ∧
    (∀ ops : List Manager.Operation,
      Retries (fun k => ((Manager.Session.new storage w).after ops k).pooled)
        (fun k => ops[k]?.bind Manager.Operation.flush?) ops.length
        (((Manager.Session.new storage w).after ops ops.length).workspace.saves
          (((Manager.Session.new storage w).after ops ops.length).manager.release
            ((Manager.Session.new storage w).after ops ops.length).workspace))) :=
  ⟨Retries.run storage w, ContextCache.Session.retries storage w, Manager.Session.retries storage w⟩

namespace Sample

/-- Nothing can be stored at one place. -/
def readOnly : Storage Blobs := .refusing .memory [] [⟨"arm.graph"⟩]

/-- A planner that is to be stored there is explored, and the pool is shut down. -/
def failedRun : List PlannerPool.Operation :=
  [.allocate roadmaps ⟨"JointModel", "arm"⟩ "arm" (keptAt "arm.graph"), .explore 0 [5], .shutdown]

/-- Then a planner is registered under another name. -/
def retriedRun : List PlannerPool.Operation :=
  failedRun ++ [.allocate roadmaps ⟨"JointModel", "leg"⟩ "leg" (keptAt "leg.graph")]

end Sample

open Sample in
theorem failed_store_retried_iff_retriedRun :
    (∃ e, ((PlannerPool.Session.new readOnly { contents := ∅ }).after retriedRun 2).attempt? "arm"
        .all = some (.error e)) ∧
    (⟨"arm.graph"⟩, ⟨"roadmap", [5]⟩) ∈
      ((PlannerPool.Session.new readOnly { contents := ∅ }).after retriedRun 4).workspace.saves
        (((PlannerPool.Session.new readOnly { contents := ∅ }).after retriedRun 4).pool.release
          ((PlannerPool.Session.new readOnly { contents := ∅ }).after retriedRun 4).workspace) := by
  obtain ⟨hpool, -, -⟩ := failed_store_retried_iff readOnly { contents := ∅ }
  refine ⟨⟨_, rfl⟩, ?retried⟩
  case retried =>
    refine (hpool retriedRun "arm" ⟨"arm.graph"⟩ 0 _ ⟨rfl, rfl⟩ rfl 2 .all _ (by decide) rfl rfl
      ?last).mpr ⟨3, "leg", ⟨"leg.graph"⟩, 1, by decide, by decide, ?new, rfl, rfl⟩
    case last =>
      intro j f hkj hj hf
      obtain rfl : j = 3 := by
        have hlen : retriedRun.length = 4 := rfl
        omega
      cases hf
    case new =>
      rintro ⟨h, -⟩
      cases h

open Sample in
/-- **What a shutdown could not store is lost**: the store failed and is reported as failed, the
planner is still registered, and the end does NOTHING. -/
theorem failed_store_forgotten :
    (∃ e, ((PlannerPool.Session.new readOnly { contents := ∅ }).after failedRun 2).attempt? "arm"
        .all = some (.error e)) ∧
    ((PlannerPool.Session.new readOnly { contents := ∅ }).after failedRun 3).Registered "arm"
      ⟨"arm.graph"⟩ 0 ∧
    ((PlannerPool.Session.new readOnly { contents := ∅ }).after failedRun 3).pool.release
      ((PlannerPool.Session.new readOnly { contents := ∅ }).after failedRun 3).workspace =
        ((PlannerPool.Session.new readOnly { contents := ∅ }).after failedRun 3).workspace :=
  ⟨⟨_, rfl⟩, ⟨rfl, rfl⟩, rfl⟩

end MotionContexts
