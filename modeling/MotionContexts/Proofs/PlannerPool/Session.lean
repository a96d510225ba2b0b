/-
# A pool at work

A `Session` is a pool together with the workspace it works in, and an `Operation` is what may happen
to them: planners are handed out, explored and forgotten, and their data is stored.  What a planner
does in the hands of its user is exploring, and only that.

A planner is REGISTERED under a name and a path if the pool keeps it under the name and is to store
its data at the path.  Registering, removing and saving are read off the states before and after a
step, and this module says exactly which operations do them.

Main statements:
* `registered_step_iff`, which registrations there are after a step;
* `mem_saves_step_iff` and `mem_saves_release_iff`, what is saved in a step and at the end;
* `flushed_step_iff`, when a step leaves the pool without need of a shutdown.
-/
import MotionContexts.Proofs.PlannerPool.Allocation
import MotionContexts.Proofs.PlannerPool.Flush

namespace MotionContexts.PlannerPool

universe u

/-- What may happen to a pool and to its planners. -/
inductive Operation where
  | allocate (family : PlannerFamily) (space : Space) (name : String) (config : Table String)
  | explore (n : Nat) (bytes : List UInt8)
  | invalidate (name : String)
  | shutdown

/-- Where the options want the data of a planner stored, if they want it kept. -/
def placeOf? (config : Table String) : Option Path :=
  match Retention.extract config with
  | (.error _, _) => none
  | (.ok r, _) => if r.multiQuery then r.storeTo else none

/-- The name and the path under which an operation registers a planner, should it make a first one
of the name. -/
def Operation.place? : Operation → Option (String × Path)
  | .allocate _ _ name config => (placeOf? config).map fun path => (name, path)
  | _ => none

/-- A pool and the workspace it works in. -/
structure Session (σ : Type u) where
  pool : PlannerPool σ
  workspace : Workspace σ

namespace Session

variable {σ : Type u}

/-! ## 1. Steps and runs -/

/-- A new pool in a workspace. -/
def new (storage : Storage σ) (w : Workspace σ) : Session σ := ⟨.new storage, w⟩

/-- One operation. -/
def step (s : Session σ) : Operation → Session σ
  | .allocate family space name config =>
    let (_, pool, w) := s.pool.allocate family space name config s.workspace
    ⟨pool, w⟩
  | .explore n bytes => { s with workspace := (s.workspace.explore n bytes).2 }
  | .invalidate name =>
    let (_, pool, w) := s.pool.invalidate name s.workspace
    ⟨pool, w⟩
  | .shutdown =>
    let (_, pool, w) := s.pool.shutdown s.workspace
    ⟨pool, w⟩

/-- One operation after the other. -/
def run (s : Session σ) (ops : List Operation) : Session σ := ops.foldl step s

/-- The state after the first operations of a run, so many of them. -/
def after (s : Session σ) (ops : List Operation) (k : Nat) : Session σ := s.run (ops.take k)

theorem after_succ (s : Session σ) {ops : List Operation} {k : Nat} {op : Operation}
    (h : ops[k]? = some op) : s.after ops (k + 1) = (s.after ops k).step op := by
  unfold after run
  rw [List.take_add_one, h, Option.toList_some, List.foldl_append]
  rfl

/-- What the operation of a run is attempting to save; behind the last operation comes the END of
the pool. -/
def savedAt (s : Session σ) (ops : List Operation) (k : Nat) : List (Path × PlannerData) :=
  match ops[k]? with
  | some op => (s.after ops k).workspace.saves ((s.after ops k).step op).workspace
  | none => (s.after ops k).workspace.saves ((s.after ops k).pool.release (s.after ops k).workspace)

/-! ## 2. Registered planners -/

/-- The planner of the number is kept under the name, to be stored at the path. -/
def Registered (s : Session σ) (name : String) (path : Path) (n : Nat) : Prop :=
  s.pool.planners.get? name = some n ∧ s.pool.storagePaths.get? name = some path

/-- The operation registers the planner of the number. -/
def Registers (s : Session σ) (op : Operation) (name : String) (path : Path) (n : Nat) : Prop :=
  ¬ s.Registered name path n ∧ (s.step op).Registered name path n

/-- What holds in every state of a pool that started empty. -/
structure Sound (s : Session σ) : Prop where
  /-- A name with a path has a planner. -/
  kept : ∀ name, s.pool.planners.get? name = none → s.pool.storagePaths.get? name = none
  /-- A planner that is kept exists. -/
  enrolled : ∀ name n, s.pool.planners.get? name = some n → n < s.workspace.planners.length

theorem Sound.new (storage : Storage σ) (w : Workspace σ) : (new storage w).Sound where
  kept _ _ := rfl
  enrolled _ _ h := by cases h

/-- What the storage holds has no say in it. -/
theorem Sound.over {s : Session σ} (hs : s.Sound) (contents : σ) :
    (⟨s.pool, { s.workspace with contents := contents }⟩ : Session σ).Sound :=
  ⟨hs.kept, hs.enrolled⟩

/-! ## 3. What one step does -/

/-- A step that allocates, as one of the four cases of an allocation. -/
theorem step_allocate (s : Session σ) (family : PlannerFamily) (space : Space) (name : String)
    (config : Table String) :
    ∃ result pool w, Allocates s.pool family space name config s.workspace result pool w ∧
      s.step (.allocate family space name config) = ⟨pool, w⟩ := by
  rcases h : s.pool.allocate family space name config s.workspace with ⟨result, pool, w⟩
  refine ⟨result, pool, w, allocates_of_eq h, ?_⟩
  rw [step, h]

theorem step_invalidate (s : Session σ) (name : String) :
    s.step (.invalidate name) =
      ⟨{ s.pool with
          planners := s.pool.planners.erase name
          storagePaths := s.pool.storagePaths.erase name },
        (s.pool.invalidate name s.workspace).2.2⟩ := rfl

theorem step_shutdown (s : Session σ) :
    s.step .shutdown = ⟨{ s.pool with flushed := true }, (s.pool.shutdown s.workspace).2.2⟩ := rfl

theorem step_explore (s : Session σ) (n : Nat) (bytes : List UInt8) :
    s.step (.explore n bytes) = ⟨s.pool, (s.workspace.explore n bytes).2⟩ := rfl

/-- A pool stays over its storage. -/
theorem storage_step (s : Session σ) (op : Operation) :
    (s.step op).pool.storage = s.pool.storage := by
  cases op with
  | allocate family space name config =>
    obtain ⟨result, pool, w, ha, he⟩ := s.step_allocate family space name config
    rw [he]
    cases ha with
    | first hx hr hn => exact storage_keep ..
    | _ => rfl
  | _ => rfl

theorem storage_run (s : Session σ) (ops : List Operation) :
    (s.run ops).pool.storage = s.pool.storage := by
  induction ops generalizing s with
  | nil => rfl
  | cons op ops ih => exact (ih (s.step op)).trans (s.storage_step op)

theorem place?_allocate_iff {family : PlannerFamily} {space : Space} {name name' : String}
    {path : Path} {config rest : Table String} {r : Retention}
    (hx : Retention.extract config = (.ok r, rest)) :
    (Operation.allocate family space name' config).place? = some (name, path) ↔
      r.multiQuery = true ∧ name = name' ∧ r.storeTo = some path := by
  rw [Operation.place?, placeOf?, hx]
  dsimp only
  cases r.multiQuery
  · simp
  · cases r.storeTo <;> simp [eq_comm]

theorem place?_allocate_error {family : PlannerFamily} {space : Space} {name : String}
    {config rest : Table String} {e : ResolutionError}
    (hx : Retention.extract config = (.error e, rest)) :
    (Operation.allocate family space name config).place? = none := by
  rw [Operation.place?, placeOf?, hx]
  rfl

theorem Sound.step {s : Session σ} (hs : s.Sound) (op : Operation) : (s.step op).Sound := by
  cases op with
  | allocate family space name config =>
    obtain ⟨result, pool, w, ha, he⟩ := s.step_allocate family space name config
    rw [he]
    cases ha with
    | refused hx => exact hs
    | kept hx hr hn => exact hs
    | @single r options hx hr =>
      have hb := build_enrolls s.pool.storage family space name options none s.workspace
      refine ⟨hs.kept, fun k n hk => ?_⟩
      have hlt := hs.enrolled k n hk
      dsimp only
      rw [hb.length]
      omega
    | @first r options hx hr hn =>
      have hb := build_enrolls s.pool.storage family space name options r.loadFrom s.workspace
      refine ⟨fun k hk => ?_, fun k n hk => ?_⟩
      · rw [planners_keep, Table.get?_insert] at hk
        split at hk
        · cases hk
        · rename_i hne
          dsimp only
          rw [storagePaths_keep, if_neg hne]
          exact hs.kept k hk
      · rw [planners_keep, Table.get?_insert] at hk
        dsimp only
        rw [hb.length]
        split at hk
        · cases hk
          rw [hb.number]
          omega
        · have hlt := hs.enrolled k n hk
          omega
  | explore n bytes =>
    rw [step_explore]
    refine ⟨hs.kept, fun k m hk => ?_⟩
    rw [Workspace.length_planners_explore]
    exact hs.enrolled k m hk
  | invalidate name =>
    rw [step_invalidate]
    have hw := saved_invalidate s.pool name s.workspace
    refine ⟨fun k hk => ?_, fun k n hk => ?_⟩ <;> rw [Table.get?_erase] at hk
    · rw [Table.get?_erase]
      split
      · rfl
      · rename_i hne
        rw [if_neg hne] at hk
        exact hs.kept k hk
    · rw [hw.planners]
      split at hk
      · cases hk
      · exact hs.enrolled k n hk
  | shutdown =>
    rw [step_shutdown]
    have hw := saved_shutdown s.pool s.workspace
    refine ⟨hs.kept, fun k n hk => ?_⟩
    rw [hw.planners]
    exact hs.enrolled k n hk

theorem Sound.run {s : Session σ} (hs : s.Sound) : ∀ ops : List Operation, (s.run ops).Sound := by
  intro ops
  induction ops generalizing s with
  | nil => exact hs
  | cons op ops ih => exact ih (hs.step op)

theorem Sound.after {s : Session σ} (hs : s.Sound) (ops : List Operation) (k : Nat) :
    (s.after ops k).Sound := hs.run _

/-- **The registrations after a step**: those from before, but for the name that is forgotten, and
the new one of a first planner. -/
theorem registered_step_iff {s : Session σ} (hs : s.Sound) (op : Operation) (name : String)
    (path : Path) (n : Nat) :
    (s.step op).Registered name path n ↔
      (s.Registered name path n ∧ op ≠ .invalidate name) ∨
        (op.place? = some (name, path) ∧ s.pool.planners.get? name = none ∧
          n = s.workspace.planners.length) := by
  cases op with
  | allocate family space name' config =>
    obtain ⟨result, pool, w, ha, he⟩ := s.step_allocate family space name' config
    rw [he]
    cases ha with
    | refused hx =>
      rw [place?_allocate_error hx]
      simp [Registered]
    | single hx hr => simp [place?_allocate_iff hx, hr, Registered]
    | kept hx hr hn =>
      rw [place?_allocate_iff hx]
      constructor
      · intro h
        exact .inl ⟨h, by simp⟩
      · rintro (⟨h, -⟩ | ⟨⟨-, rfl, -⟩, hnone, -⟩)
        · exact h
        · rw [hn] at hnone
          cases hnone
    | @first r options hx hr hn =>
      have hb := build_enrolls s.pool.storage family space name' options r.loadFrom s.workspace
      rw [place?_allocate_iff hx, Registered, planners_keep, storagePaths_keep, Table.get?_insert,
        hb.number]
      by_cases hk : name = name'
      · -- the name had no planner, hence no path
        subst hk
        simp [Registered, hn, hs.kept name hn, hr, eq_comm, and_comm]
      · simp [Registered, hk]
  | explore n bytes => simp [step_explore, Registered, Operation.place?]
  | invalidate name' =>
    rw [step_invalidate, Registered, Table.get?_erase, Table.get?_erase]
    by_cases hk : name = name'
    · simp [hk, Operation.place?]
    · have hk' : ¬ name' = name := fun h => hk h.symm
      simp [Registered, hk, hk', Operation.place?]
  | shutdown => simp [step_shutdown, Registered, Operation.place?]

/-- **A step leaves the pool without need of a shutdown** if it is one, or if there was none before
and nothing is registered. -/
theorem flushed_step_iff (s : Session σ) (op : Operation) :
    (s.step op).pool.flushed = true ↔
      op = .shutdown ∨ (s.pool.flushed = true ∧
        ∀ name path, op.place? = some (name, path) → s.pool.planners.get? name ≠ none) := by
  cases op with
  | allocate family space name config =>
    obtain ⟨result, pool, w, ha, he⟩ := s.step_allocate family space name config
    rw [he]
    cases ha with
    | refused hx => simp [place?_allocate_error hx]
    | single hx hr => simp [place?_allocate_iff hx, hr]
    | kept hx hr hn =>
      constructor
      · intro h
        refine .inr ⟨h, fun name' path hp => ?_⟩
        obtain ⟨-, rfl, -⟩ := (place?_allocate_iff hx).mp hp
        rw [hn]
        exact Option.some_ne_none _
      · rintro (h | ⟨h, -⟩)
        · cases h
        · exact h
    | @first r options hx hr hn =>
      rw [flushed_keep]
      cases hp : r.storeTo <;> simp [place?_allocate_iff hx, hp, hr, hn]
  | explore n bytes => simp [step_explore, Operation.place?]
  | invalidate name => simp [step_invalidate, Operation.place?]
  | shutdown => simp [step_shutdown]

/-- The data to save for the registered names, be it all of them or one. -/
theorem mem_filterMap_saveOf?_iff (s : Session σ) (path : Path) (d : PlannerData) :
    (path, d) ∈ s.pool.storagePaths.entries.filterMap (s.pool.saveOf? s.workspace) ↔
      ∃ name n p, s.Registered name path n ∧ s.workspace.planner? n = some p ∧ d = p.data := by
  rw [List.mem_filterMap]
  constructor
  · rintro ⟨⟨name, path'⟩, he, hsave⟩
    obtain ⟨n, p, hn, hp, hd⟩ := saveOf?_eq_some_iff.mp hsave
    cases hd
    exact ⟨name, n, p, ⟨hn, (Table.get?_eq_some_iff _).mpr he⟩, hp, rfl⟩
  · rintro ⟨name, n, p, ⟨hn, hpath⟩, hp, rfl⟩
    have hmem := (Table.get?_eq_some_iff _).mp hpath
    exact ⟨(name, path), hmem, saveOf?_eq_some_iff.mpr ⟨n, p, hn, hp, rfl⟩⟩

/-- **What is saved in a step**: the data of registered planners, in a shutdown or as the planner is
forgotten. -/
theorem mem_saves_step_iff (s : Session σ) (op : Operation) (path : Path) (d : PlannerData) :
    (path, d) ∈ s.workspace.saves (s.step op).workspace ↔
      ∃ name n p, s.Registered name path n ∧ s.workspace.planner? n = some p ∧ d = p.data ∧
        (op = .shutdown ∨ op = .invalidate name) := by
  cases op with
  | allocate family space name config =>
    obtain ⟨result, pool, w, ha, he⟩ := s.step_allocate family space name config
    have hw : s.workspace.saves w = [] := ha.saves
    simp [he, hw]
  | explore n bytes =>
    rw [step_explore, Workspace.saves_of_calls_eq (Workspace.calls_explore ..)]
    simp
  | invalidate name' =>
    rw [step_invalidate, (saved_invalidate ..).saves, Option.mem_toList, Option.bind_eq_some_iff]
    constructor
    · rintro ⟨path', hpath, hsave⟩
      obtain ⟨n, p, hn, hp, hd⟩ := saveOf?_eq_some_iff.mp hsave
      cases hd
      exact ⟨name', n, p, ⟨hn, hpath⟩, hp, rfl, .inr rfl⟩
    · rintro ⟨name, n, p, ⟨hn, hpath⟩, hp, rfl, h | h⟩
      · cases h
      · cases h
        exact ⟨path, hpath, saveOf?_eq_some_iff.mpr ⟨n, p, hn, hp, rfl⟩⟩
  | shutdown =>
    rw [step_shutdown, (saved_shutdown ..).saves, mem_filterMap_saveOf?_iff]
    simp

/-- **What is saved at the end**: the data of every registered planner, unless there is no need. -/
theorem mem_saves_release_iff (s : Session σ) (path : Path) (d : PlannerData) :
    (path, d) ∈ s.workspace.saves (s.pool.release s.workspace) ↔
      s.pool.flushed = false ∧
        ∃ name n p, s.Registered name path n ∧ s.workspace.planner? n = some p ∧ d = p.data := by
  rw [(saved_release ..).saves]
  cases s.pool.flushed
  · simp only [mem_filterMap_saveOf?_iff, true_and, Bool.false_eq_true, if_false]
  · simp

end Session

end MotionContexts.PlannerPool
