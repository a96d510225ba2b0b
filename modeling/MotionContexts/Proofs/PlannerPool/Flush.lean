/-
# What storing does

Three operations of a pool store planner data: `invalidate` that of one name, `shutdown` that of all
that are registered, `release` the same unless the last shutdown covered everything.  Whatever the
storage answers, each of them ATTEMPTS to save exactly what is said here, in the order of the names,
and leaves every planner as it is.

Main statements: `saved_shutdown`, `saved_invalidate` and `saved_release`.
-/
import MotionContexts.PlannerPool
import MotionContexts.Proofs.Workspace

namespace MotionContexts.PlannerPool

universe u

variable {σ : Type u}

/-- What is to be saved for a name and a path: the data of the planner kept under the name. -/
def saveOf? (pool : PlannerPool σ) (w : Workspace σ) (e : String × Path) :
    Option (Path × PlannerData) :=
  ((pool.planners.get? e.1).bind w.planner?).map fun p => (e.2, p.data)

theorem saveOf?_eq_some_iff {pool : PlannerPool σ} {w : Workspace σ} {e : String × Path}
    {s : Path × PlannerData} :
    pool.saveOf? w e = some s ↔
      ∃ n p, pool.planners.get? e.1 = some n ∧ w.planner? n = some p ∧ (e.2, p.data) = s := by
  rw [saveOf?, Option.map_eq_some_iff]
  constructor
  · rintro ⟨p, hp, hs⟩
    obtain ⟨n, hn, hp⟩ := Option.bind_eq_some_iff.mp hp
    exact ⟨n, p, hn, hp, hs⟩
  · rintro ⟨n, p, hn, hp, hs⟩
    exact ⟨p, Option.bind_eq_some_iff.mpr ⟨n, hn, hp⟩, hs⟩

/-- What is to be saved is read off the planners alone. -/
theorem saveOf?_congr (pool : PlannerPool σ) {w w' : Workspace σ} {l : List (Path × PlannerData)}
    (h : w.Saved w' l) : pool.saveOf? w' = pool.saveOf? w := by
  have hp : w'.planner? = w.planner? := funext h.planner?
  funext e
  rw [saveOf?, hp, saveOf?]

theorem saved_storeOne (pool : PlannerPool σ) (name : String) (path : Path) (w : Workspace σ) :
    w.Saved (pool.storeOne name path w).2 (pool.saveOf? w (name, path)).toList := by
  unfold storeOne saveOf?
  split
  · rename_i hn
    rw [hn]
    exact .refl w
  · rename_i p hp
    rw [hp]
    have hs := w.saved_store pool.storage p.data path
    split <;> rename_i h <;> rw [h] at hs <;> exact hs

theorem saved_storeAll (pool : PlannerPool σ) :
    ∀ (l : List (String × Path)) (report : FlushReport) (w : Workspace σ),
      w.Saved (pool.storeAll l report w).2 (l.filterMap (pool.saveOf? w))
  | [], _, w => .refl w
  | (name, path) :: rest, report, w => by
    have h₁ := pool.saved_storeOne name path w
    have hl : ((name, path) :: rest).filterMap (pool.saveOf? w) =
        (pool.saveOf? w (name, path)).toList ++ rest.filterMap (pool.saveOf? w) := by
      rw [List.filterMap_cons]
      cases pool.saveOf? w (name, path) <;> rfl
    -- the planners are the same after the first store, so the rest is to be saved as before it
    have hc := pool.saveOf?_congr h₁
    rw [hl]
    unfold storeAll
    split <;> rename_i w' h <;> rw [h] at h₁ hc <;> refine h₁.trans ?_ <;> rw [← hc]
    · exact pool.saved_storeAll rest _ w'
    · exact pool.saved_storeAll rest _ w'

/-- **A shutdown attempts to save every registered planner**, in the order of the names. -/
theorem saved_shutdown (pool : PlannerPool σ) (w : Workspace σ) :
    w.Saved (pool.shutdown w).2.2 (pool.storagePaths.entries.filterMap (pool.saveOf? w)) :=
  pool.saved_storeAll _ _ w

/-- **Forgetting a planner attempts to save it first**, if it is registered. -/
theorem saved_invalidate (pool : PlannerPool σ) (name : String) (w : Workspace σ) :
    w.Saved (pool.invalidate name w).2.2
      ((pool.storagePaths.get? name).bind fun path => pool.saveOf? w (name, path)).toList := by
  unfold invalidate
  dsimp only
  split
  · rename_i path hp
    rw [hp]
    exact pool.saved_storeOne name path w
  · rename_i hp
    rw [hp]
    exact .refl w

@[simp] theorem planners_invalidate (pool : PlannerPool σ) (name : String) (w : Workspace σ) :
    (pool.invalidate name w).2.1.planners = pool.planners.erase name := rfl

/-- **The end of a pool attempts to save everything or nothing.** -/
theorem saved_release (pool : PlannerPool σ) (w : Workspace σ) :
    w.Saved (pool.release w)
      (if pool.flushed then [] else pool.storagePaths.entries.filterMap (pool.saveOf? w)) := by
  unfold release
  split
  · exact .refl w
  · exact pool.saved_shutdown w

end MotionContexts.PlannerPool
