/-
# Two pools over different storages

Take two pools that were treated alike, each over a storage of its own.  Loading may succeed here
and fail there, so the planners of the two need not be the same.  But they are ALIKE: the planners
of one number were made by the same family for the same space, fresh or from data, and were set up
with the same name, options and space.  If families are uniform, alike planners differ in their
seeding and their graph at most.

Everything else agrees: what an allocation answers, which numbers are kept under which names, where
data is to be stored, and whether a shutdown is due.  Each operation is shown to lead from agreeing
pools and alike workspaces to such.

Main statements:
* `Agrees.allocate`, an allocation answers the same over both storages;
* `Planner.Alike.eq`, what alike planners of uniform families have in common;
* `allocate_error_source?`, no failure of a storage is the answer of an allocation.
-/
import MotionContexts.Proofs.PlannerPool.Instances

namespace MotionContexts

universe u v

/-! ## 1. Alike planners -/

namespace Planner

/-- One family, among those in question, made both planners for one space, fresh or from data; both
were set up in the same way, and whatever they explored since. -/
def Alike (among : PlannerFamily → Prop) (p q : Planner) : Prop :=
  ∃ family space name options made made' bytes bytes', among family ∧ family.Makes space made ∧
    family.Makes space made' ∧ p = (made.prepare name options space).explore bytes ∧
    q = (made'.prepare name options space).explore bytes'

/-- Exploring on both sides leaves planners alike. -/
theorem Alike.explore {among : PlannerFamily → Prop} {p q : Planner} (h : p.Alike among q)
    (a b : List UInt8) : (p.explore a).Alike among (q.explore b) := by
  obtain ⟨family, space, name, options, made, made', bytes, bytes', hf, hm, hm', rfl, rfl⟩ := h
  exact ⟨family, space, name, options, made, made', bytes ++ a, bytes' ++ b, hf, hm, hm',
    explore_explore .., explore_explore ..⟩

/-- **Alike planners of uniform families differ in their seeding and their graph at most.** -/
theorem Alike.eq {among : PlannerFamily → Prop} {p q : Planner} (h : p.Alike among q)
    (huniform : ∀ f, among f → f.Uniform) :
    p = q.reseed p.seeded p.graph := by
  obtain ⟨family, space, name, options, made, made', bytes, bytes', hf, hm, hm', rfl, rfl⟩ := h
  have hp := hm.eq (huniform family hf)
  have hq := hm'.eq (huniform family hf)
  rw [hp, hq, prepare_reseed, prepare_reseed]
  rfl

end Planner

/-! ## 2. Alike workspaces -/

namespace Workspace

variable {σ : Type u} {τ : Type v}

/-- The planners of one number are alike, and as many contexts were built. -/
structure Alike (among : PlannerFamily → Prop) (w : Workspace σ) (v : Workspace τ) : Prop where
  contexts : w.contexts = v.contexts
  length : w.planners.length = v.planners.length
  planner : ∀ n p q, w.planner? n = some p → v.planner? n = some q → p.Alike among q

variable {among : PlannerFamily → Prop} {w w' : Workspace σ} {v v' : Workspace τ}

/-- What storages and records do is not looked at. -/
theorem Alike.congr (h : w.Alike among v) (hw : w'.planners = w.planners)
    (hwc : w'.contexts = w.contexts) (hv : v'.planners = v.planners)
    (hvc : v'.contexts = v.contexts) : w'.Alike among v' where
  contexts := by rw [hwc, hvc, h.contexts]
  length := by rw [hw, hv, h.length]
  planner n p q hp hq := by
    rw [planner?, hw] at hp
    rw [planner?, hv] at hq
    exact h.planner n p q hp hq

theorem Alike.saved (h : w.Alike among v) {l l' : List (Path × PlannerData)} (hw : w.Saved w' l)
    (hv : v.Saved v' l') : w'.Alike among v' :=
  h.congr hw.planners hw.contexts hv.planners hv.contexts

/-- Alike planners that are enrolled get the same number. -/
theorem Alike.enrolls (h : w.Alike among v) {n m : Nat} {p q : Planner} (hw : w.Enrolls w' n p)
    (hv : v.Enrolls v' m q) (hpq : p.Alike among q) : n = m ∧ w'.Alike among v' := by
  have hn : n = m := by rw [hw.number, hv.number, h.length]
  refine ⟨hn, ?contexts, ?length, fun k p' q' hp hq => ?planner⟩
  case contexts => rw [hw.contexts, hv.contexts, h.contexts]
  case length => rw [hw.length, hv.length, h.length]
  case planner =>
    rw [hw.planner?] at hp
    rw [hv.planner?, ← hn] at hq
    by_cases hk : k = n
    · rw [if_pos hk] at hp hq
      cases hp
      cases hq
      exact hpq
    · rw [if_neg hk] at hp hq
      exact h.planner k p' q' hp hq

theorem Alike.explore (h : w.Alike among v) (n : Nat) (bytes : List UInt8) :
    (w.explore n bytes).2.Alike among (v.explore n bytes).2 where
  contexts := by rw [contexts_explore, contexts_explore, h.contexts]
  length := by rw [length_planners_explore, length_planners_explore, h.length]
  planner k p q hp hq := by
    rw [planner?_explore] at hp hq
    by_cases hk : k = n
    · rw [if_pos hk] at hp hq
      obtain ⟨p₀, hp₀, rfl⟩ := Option.map_eq_some_iff.mp hp
      obtain ⟨q₀, hq₀, rfl⟩ := Option.map_eq_some_iff.mp hq
      exact (h.planner k p₀ q₀ hp₀ hq₀).explore bytes bytes
    · rw [if_neg hk] at hp hq
      exact h.planner k p q hp hq

theorem Alike.nextContext (h : w.Alike among v) :
    w.nextContext.1 = v.nextContext.1 ∧ w.nextContext.2.Alike among v.nextContext.2 :=
  ⟨h.contexts, congrArg (· + 1) h.contexts, h.length, h.planner⟩

end Workspace

namespace PlannerPool

variable {σ : Type u} {τ : Type v}

/-! ## 3. Agreeing pools -/

/-- The pools keep the same numbers under the same names, would store to the same paths, and are
both due for a shutdown or both not. -/
structure Agrees (pool : PlannerPool σ) (pool' : PlannerPool τ) : Prop where
  planners : pool.planners = pool'.planners
  storagePaths : pool.storagePaths = pool'.storagePaths
  flushed : pool.flushed = pool'.flushed

variable {among : PlannerFamily → Prop} {pool : PlannerPool σ} {pool' : PlannerPool τ}
  {w : Workspace σ} {v : Workspace τ}

theorem Agrees.new (storage : Storage σ) (storage' : Storage τ) :
    (new storage).Agrees (new storage') := ⟨rfl, rfl, rfl⟩

theorem Agrees.keep (h : pool.Agrees pool') (name : String) (n : Nat) (storeTo : Option Path) :
    (pool.keep name n storeTo).Agrees (pool'.keep name n storeTo) := by
  unfold PlannerPool.keep
  cases storeTo with
  | none => exact ⟨congrArg (·.insert name n) h.planners, h.storagePaths, h.flushed⟩
  | some path =>
    exact ⟨congrArg (·.insert name n) h.planners, congrArg (·.insert name path) h.storagePaths, rfl⟩

/-- Planners built over two storages, from data or not, are alike and get the same number. -/
theorem alike_build (s : Storage σ) (s' : Storage τ) {family : PlannerFamily} (hf : among family)
    (space : Space) (name : String) (options : Table String) (loadFrom : Option Path)
    (hw : w.Alike among v) :
    (build s family space name options loadFrom w).1 =
        (build s' family space name options loadFrom v).1 ∧
      (build s family space name options loadFrom w).2.Alike among
        (build s' family space name options loadFrom v).2 := by
  refine hw.enrolls (build_enrolls ..) (build_enrolls ..) ?_
  exact ⟨family, space, name, options, _, _, [], [], hf, construct_makes .., construct_makes ..,
    (Planner.explore_nil _).symm, (Planner.explore_nil _).symm⟩

/-- **An allocation answers the same over both storages**, and leaves agreeing pools. -/
theorem Agrees.allocate (h : pool.Agrees pool') (hw : w.Alike among v) {family : PlannerFamily}
    (hf : among family) (space : Space) (name : String) (config : Table String) :
    (pool.allocate family space name config w).1 =
        (pool'.allocate family space name config v).1 ∧
      (pool.allocate family space name config w).2.1.Agrees
        (pool'.allocate family space name config v).2.1 ∧
      (pool.allocate family space name config w).2.2.Alike among
        (pool'.allocate family space name config v).2.2 := by
  have hbuild := fun options loadFrom =>
    alike_build pool.storage pool'.storage hf space name options loadFrom hw
  unfold PlannerPool.allocate
  rcases Retention.extract config with ⟨e | r, options⟩
  · exact ⟨rfl, h, hw⟩
  · dsimp only
    cases r.multiQuery
    · -- a planner that is not kept
      obtain ⟨hn, hv⟩ := hbuild options none
      exact ⟨congrArg Except.ok hn, h, hv⟩
    · rw [h.planners]
      cases pool'.planners.get? name with
      | some n => exact ⟨rfl, h, hw⟩
      | none =>
        obtain ⟨hn, hv⟩ := hbuild options r.loadFrom
        refine ⟨congrArg Except.ok hn, ?_, hv⟩
        dsimp only
        rw [hn]
        exact h.keep name _ r.storeTo

/-- Forgetting a planner answers the same, whether or not its data could be stored. -/
theorem Agrees.invalidate (h : pool.Agrees pool') (hw : w.Alike among v) (name : String) :
    (pool.invalidate name w).1 = (pool'.invalidate name v).1 ∧
      (pool.invalidate name w).2.1.Agrees (pool'.invalidate name v).2.1 ∧
      (pool.invalidate name w).2.2.Alike among (pool'.invalidate name v).2.2 := by
  refine ⟨?answer, ⟨?planners, ?paths, h.flushed⟩, ?workspace⟩
  case answer => exact congrArg (·.contains name) h.planners
  case planners => exact congrArg (·.erase name) h.planners
  case paths => exact congrArg (·.erase name) h.storagePaths
  case workspace => exact hw.saved (saved_invalidate ..) (saved_invalidate ..)

theorem Agrees.shutdown (h : pool.Agrees pool') (hw : w.Alike among v) :
    (pool.shutdown w).2.1.Agrees (pool'.shutdown v).2.1 ∧
      (pool.shutdown w).2.2.Alike among (pool'.shutdown v).2.2 :=
  ⟨⟨h.planners, h.storagePaths, rfl⟩, hw.saved (saved_shutdown ..) (saved_shutdown ..)⟩

end PlannerPool

/-! ## 4. Causes of failure -/

namespace ResolutionError

/-- There is no failure behind a cause exactly if it is neither about loading nor about storing. -/
theorem source?_eq_none_iff (e : ResolutionError) :
    e.source? = none ↔ ∀ name path d, e ≠ .loadFailed name path d ∧ e ≠ .storeFailed name path d := by
  cases e <;> simp [source?]

end ResolutionError

namespace Retention

theorem extract_error {options rest : Table String} {e : ResolutionError}
    (h : extract options = (.error e, rest)) : e.source? = none := by
  cases extracts_of_eq h with
  | refused hkeys hearlier hbad =>
    obtain ⟨raw, -, -, rfl⟩ := readFlag_eq_error_iff.mp hbad
    rfl

end Retention

/-- **No failure of a storage is the answer of an allocation**, whatever it loads on the way. -/
theorem PlannerPool.allocate_error_source? {σ : Type u} {pool : PlannerPool σ}
    {family : PlannerFamily} {space : Space} {name : String} {config : Table String}
    {w : Workspace σ} {e : ResolutionError}
    (h : (pool.allocate family space name config w).1 = .error e) : e.source? = none := by
  rcases ha : pool.allocate family space name config w with ⟨result, pool', w'⟩
  rw [ha] at h
  dsimp only at h
  subst h
  cases allocates_of_eq ha with
  | refused hx => exact Retention.extract_error hx

end MotionContexts
