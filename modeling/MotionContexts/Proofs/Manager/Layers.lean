/-
# A run of a manager, layer by layer

A manager has a cache, and its cache has a pool.  Whatever a manager is told comes to one operation
of its cache, and whatever a cache is told comes to one operation of its pool; so a run of a manager
is a run of its cache and a run of its pool, of the same length, and what holds in every run of a
pool holds for the pools of caches and managers.

Where nothing comes down to the lower layer, the operation there is one that does NOTHING: a cached
context is looked at, or a planner explores no bytes.  A pool does not count contexts, so it is seen
in a workspace without their count (`Workspace.uncounted`).

Main statements:
* `handsOut?_cacheOperation` and `cached_perform`, what an operation of a manager is for its cache;
* `pooled_step`, what an operation of a cache is for its pool;
* `pooled_after`, for caches and for managers: the states of the pool in a run.
-/
import MotionContexts.Proofs.ContextCache.Sharing
import MotionContexts.Proofs.PlannerPool.Supply
import MotionContexts.Proofs.Manager.Session

namespace MotionContexts

universe u v

/-! ## 1. Runs seen through a view -/

namespace Run

variable {S : Type u} {T : Type v} {O P : Type} {step : S → O → S} {as : S → O → P}

/-- The operations of a run, each as what it is in the state that it finds. -/
def translate (step : S → O → S) (as : S → O → P) : S → List O → List P
  | _, [] => []
  | s, op :: ops => as s op :: translate step as (step s op) ops

theorem length_translate :
    ∀ (ops : List O) (s : S), (translate step as s ops).length = ops.length
  | [], _ => rfl
  | op :: ops, s => by
    rw [translate, List.length_cons, List.length_cons, length_translate ops]

theorem getElem?_translate :
    ∀ (ops : List O) (s : S) (k : Nat),
      (translate step as s ops)[k]? = ops[k]?.map (as ((ops.take k).foldl step s))
  | [], _, _ => rfl
  | _ :: _, _, 0 => rfl
  | op :: ops, s, k + 1 => by
    rw [translate, List.getElem?_cons_succ, List.getElem?_cons_succ, getElem?_translate ops]
    rfl

theorem take_translate :
    ∀ (ops : List O) (s : S) (k : Nat),
      (translate step as s ops).take k = translate step as s (ops.take k)
  | [], _, k => by rw [translate, List.take_nil, List.take_nil, translate]
  | _ :: _, _, 0 => rfl
  | op :: ops, s, k + 1 => by
    rw [translate, List.take_succ_cons, take_translate ops, List.take_succ_cons, translate]

/-- A view that follows every step follows every run. -/
theorem foldl_translate {view : S → T} {step' : T → P → T}
    (h : ∀ s op, view (step s op) = step' (view s) (as s op)) :
    ∀ (ops : List O) (s : S),
      view (ops.foldl step s) = (translate step as s ops).foldl step' (view s)
  | [], _ => rfl
  | op :: ops, s => by
    rw [List.foldl_cons, foldl_translate h ops, translate, List.foldl_cons, h]

end Run

/-! ## 2. Workspaces without a count of contexts -/

namespace Workspace

variable {σ : Type u}

/-- The workspace with no contexts counted. -/
def uncounted (w : Workspace σ) : Workspace σ := { w with contexts := 0 }

theorem saves_uncounted (w w' : Workspace σ) : w.uncounted.saves w'.uncounted = w.saves w' := rfl

theorem store_uncounted (w : Workspace σ) (s : Storage σ) (d : PlannerData) (p : Path) :
    w.uncounted.store s d p = ((w.store s d p).1, (w.store s d p).2.uncounted) := rfl

theorem explore_uncounted (w : Workspace σ) (n : Nat) (bytes : List UInt8) :
    (w.uncounted.explore n bytes).2 = (w.explore n bytes).2.uncounted := by
  unfold explore
  have h : w.uncounted.planner? n = w.planner? n := rfl
  rw [h]
  split <;> rfl

/-- To explore no bytes is to do nothing. -/
theorem explore_nil (w : Workspace σ) (n : Nat) : (w.explore n []).2 = w := by
  unfold explore
  split
  · rfl
  · rename_i p hp
    have hset : w.planners.set n p = w.planners := by
      refine List.ext_getElem? fun k => ?_
      rw [List.getElem?_set]
      split
      · rename_i hk
        subst hk
        rw [if_pos (lt_of_planner?_eq_some hp)]
        exact hp.symm
      · rfl
    simp only [Planner.explore_nil, hset]

end Workspace

namespace PlannerPool

variable {σ : Type u} (pool : PlannerPool σ) (w : Workspace σ)

/-- An allocation does not look at the count of contexts. -/
theorem allocate_uncounted (family : PlannerFamily) (space : Space) (name : String)
    (config : Table String) :
    pool.allocate family space name config w.uncounted =
      ((pool.allocate family space name config w).1, (pool.allocate family space name config w).2.1,
        (pool.allocate family space name config w).2.2.uncounted) := by
  have hcontents : w.uncounted.contents = w.contents := rfl
  rw [allocate_eq_supply, allocate_eq_supply, hcontents]
  cases pool.supply family space name config w.contents <;> rfl

theorem storeOne_uncounted (name : String) (path : Path) :
    pool.storeOne name path w.uncounted =
      ((pool.storeOne name path w).1, (pool.storeOne name path w).2.uncounted) := by
  unfold storeOne
  have hp : w.uncounted.planner? = w.planner? := rfl
  rw [hp]
  split
  · rfl
  · rename_i p _
    rw [Workspace.store_uncounted]
    rcases w.store pool.storage p.data path with ⟨_ | _, w'⟩ <;> rfl

theorem storeAll_uncounted :
    ∀ (l : List (String × Path)) (report : FlushReport) (w : Workspace σ),
      pool.storeAll l report w.uncounted =
        ((pool.storeAll l report w).1, (pool.storeAll l report w).2.uncounted)
  | [], _, _ => rfl
  | (name, path) :: l, report, w => by
    unfold storeAll
    rw [storeOne_uncounted]
    rcases pool.storeOne name path w with ⟨_ | _, w'⟩
    · exact storeAll_uncounted l _ w'
    · exact storeAll_uncounted l _ w'

/-- A shutdown does not look at the count of contexts. -/
theorem shutdown_uncounted :
    pool.shutdown w.uncounted =
      ((pool.shutdown w).1, (pool.shutdown w).2.1, (pool.shutdown w).2.2.uncounted) := by
  unfold shutdown
  rw [storeAll_uncounted]

/-- Nor does forgetting a planner. -/
theorem invalidate_uncounted (name : String) :
    pool.invalidate name w.uncounted =
      ((pool.invalidate name w).1, (pool.invalidate name w).2.1,
        (pool.invalidate name w).2.2.uncounted) := by
  unfold invalidate
  dsimp only
  split
  · rw [storeOne_uncounted]
  · rfl

theorem release_uncounted : pool.release w.uncounted = (pool.release w).uncounted := by
  unfold release
  split
  · rfl
  · rw [shutdown_uncounted]

end PlannerPool

/-! ## 3. The pool of a cache -/

namespace ContextCache

variable {σ : Type u}

/-- What comes down to the pool as a context is built: an allocation, unless a step in front of it
fails. -/
def allocation? (s : ContextSource) : Option PlannerPool.Operation :=
  let c := s.configuration
  match s.limits.applyOverrides (c.options.erase ContextSource.plannerOption) with
  | (.error _, _) => none
  | (.ok _, _, options) =>
    match s.planners.resolve (c.options.get? ContextSource.plannerOption) with
    | .error _ => none
    | .ok (_, family) =>
      match s.representation.build c.group with
      | .error _ => none
      | .ok space => some (.allocate family space c.name options)

namespace Session

/-- The pool of a cache, at work. -/
def pooled (s : Session σ) : PlannerPool.Session σ := ⟨s.cache.pool, s.workspace.uncounted⟩

/-- What an operation of a cache is for its pool. -/
def poolOperation (s : Session σ) : Operation → PlannerPool.Operation
  | .context source =>
    if s.cache.contexts.contains source.key then .explore 0 []
    else (allocation? source).getD (.explore 0 [])
  | .get _ => .explore 0 []
  | .clear => .explore 0 []
  | .invalidatePlanner name => .invalidate name
  | .shutdown => .shutdown
  | .explore n bytes => .explore n bytes

/-- To explore no bytes leaves a pool as it is. -/
theorem step_explore_nil (s : PlannerPool.Session σ) (n : Nat) : s.step (.explore n []) = s := by
  rw [PlannerPool.Session.step_explore, Workspace.explore_nil]

/-- Building a context is for the pool the allocation that comes down to it. -/
theorem pooled_build (pool : PlannerPool σ) (source : ContextSource) (w : Workspace σ) :
    (⟨(build pool source w).2.1, (build pool source w).2.2.uncounted⟩ : PlannerPool.Session σ) =
      PlannerPool.Session.step ⟨pool, w.uncounted⟩ ((allocation? source).getD (.explore 0 [])) := by
  have hidle := step_explore_nil ⟨pool, w.uncounted⟩ 0
  unfold build allocation?
  dsimp only
  rcases source.limits.applyOverrides
    (source.configuration.options.erase ContextSource.plannerOption) with ⟨_ | _, limits, options⟩
  · exact hidle.symm
  · dsimp only
    rcases source.planners.resolve
      (source.configuration.options.get? ContextSource.plannerOption) with _ | ⟨plannerId, family⟩
    · exact hidle.symm
    · dsimp only
      rcases source.representation.build source.configuration.group with _ | space
      · exact hidle.symm
      · dsimp only
        rw [Option.getD_some, PlannerPool.Session.step, PlannerPool.allocate_uncounted]
        rcases pool.allocate family space source.configuration.name options w with ⟨_ | n, pool', w'⟩
          <;> rfl

/-- **What an operation of a cache is for its pool.** -/
theorem pooled_step (s : Session σ) (op : Operation) :
    (s.step op).pooled = s.pooled.step (s.poolOperation op) := by
  cases op with
  | context source =>
    have hb := pooled_build s.cache.pool source s.workspace
    rw [poolOperation, KeyedList.contains]
    unfold step ContextCache.context
    dsimp only
    cases s.cache.contexts.get? source.key with
    | some c => exact (step_explore_nil s.pooled 0).symm
    | none =>
      rw [Option.isSome_none, if_neg Bool.false_ne_true, pooled, pooled, ← hb]
      rcases build s.cache.pool source s.workspace with ⟨_ | c, pool, w⟩ <;> rfl
  | get key => exact (step_explore_nil s.pooled 0).symm
  | clear => exact (step_explore_nil s.pooled 0).symm
  | invalidatePlanner name =>
    have h := s.cache.pool.invalidate_uncounted s.workspace name
    rw [poolOperation, PlannerPool.Session.step]
    simp only [pooled, h]
    rfl
  | shutdown =>
    have h := s.cache.pool.shutdown_uncounted s.workspace
    rw [poolOperation, PlannerPool.Session.step]
    simp only [pooled, h]
    rfl
  | explore n bytes =>
    have h := s.workspace.explore_uncounted n bytes
    rw [poolOperation, PlannerPool.Session.step_explore]
    simp only [pooled, h]
    rfl

/-- The context that an operation hands out, if it is asked for one. -/
def handsOut? (s : Session σ) : Operation → Option PlanningContext
  | .context source => (s.cache.context source s.workspace).1.toOption
  | _ => none

/-- The state after the first operations of a run, so many of them. -/
def after (s : Session σ) (ops : List Operation) (k : Nat) : Session σ := s.run (ops.take k)

/-- A run of a cache as a run of its pool. -/
def poolOperations (s : Session σ) (ops : List Operation) : List PlannerPool.Operation :=
  Run.translate step poolOperation s ops

theorem getElem?_poolOperations (s : Session σ) (ops : List Operation) (k : Nat) :
    (s.poolOperations ops)[k]? = ops[k]?.map (s.after ops k).poolOperation :=
  Run.getElem?_translate ops s k

/-- **The states of the pool of a cache**, in every run. -/
theorem pooled_after (s : Session σ) (ops : List Operation) (k : Nat) :
    (s.after ops k).pooled = s.pooled.after (s.poolOperations ops) k := by
  rw [PlannerPool.Session.after, poolOperations, Run.take_translate]
  exact Run.foldl_translate pooled_step (ops.take k) s

end Session

end ContextCache

/-! ## 4. The cache of a manager -/

namespace Manager

variable {σ : Type u}

/-- Both ways to ask for a context: the configuration of a name, and a request to it. -/
def lookUp (m : Manager σ) (name : String) (hint : Option String)
    (request : Configuration → Request) (w : Workspace σ) :
    Except ResolutionError PlanningContext × Manager σ × Workspace σ :=
  match m.configurations.find name with
  | .error e => (.error e, m, w)
  | .ok c => m.contextFrom c hint (request c) w

theorem context_eq_lookUp (m : Manager σ) (name : String) (hint : Option String)
    (w : Workspace σ) : m.context name hint w = m.lookUp name hint (fun c => { group := c.group }) w :=
  rfl

theorem resolve_eq_lookUp (m : Manager σ) (request : Request) (w : Workspace σ) :
    m.resolve request w =
      m.lookUp request.configurationName request.representation (fun _ => request) w := rfl

/-- The configuration in force under the name, and the representation that the request is to get. -/
def sought? (m : Manager σ) (name : String) (hint : Option String)
    (request : Configuration → Request) : Option (Configuration × Representation) :=
  match m.configurations.find name with
  | .error _ => none
  | .ok c =>
    match m.representations.resolve c.group hint (request c) with
    | .error _ => none
    | .ok f => some (c, f)

/-- What the cache is asked for a context with. -/
def source (m : Manager σ) (c : Configuration) (f : Representation) : ContextSource where
  configuration := c
  representation := f
  planners := m.planners
  limits := m.limits

/-- The manager with what the cache answers to an operation. -/
def ask (m : Manager σ) (c : Configuration) (f : Representation) (w : Workspace σ) :
    Except ResolutionError PlanningContext × Manager σ × Workspace σ :=
  let (result, cache, w) := m.cache.context (m.source c f) w
  (result, { m with cache := cache }, w)

/-- A look-up that gets as far as the cache is answered by the cache. -/
theorem lookUp_of_sought {m : Manager σ} {name : String} {hint : Option String}
    {request : Configuration → Request} {c : Configuration} {f : Representation}
    (h : m.sought? name hint request = some (c, f)) (w : Workspace σ) :
    m.lookUp name hint request w = m.ask c f w := by
  unfold sought? at h
  split at h
  · cases h
  · rename_i c' hc
    split at h
    · cases h
    · rename_i f' hf
      cases h
      rw [lookUp, hc]
      dsimp only
      rw [contextFrom, hf]
      rfl

/-- A look-up that does not get as far fails, and does nothing. -/
theorem lookUp_of_not_sought {m : Manager σ} {name : String} {hint : Option String}
    {request : Configuration → Request} (h : m.sought? name hint request = none)
    (w : Workspace σ) : ∃ e, m.lookUp name hint request w = (.error e, m, w) := by
  unfold sought? at h
  unfold lookUp
  split at h
  · rename_i e _
    exact ⟨e, rfl⟩
  · rename_i c _
    split at h
    · rename_i e he
      exact ⟨e, by rw [contextFrom, he]⟩
    · cases h

namespace Session

/-- The configuration and the representation that an operation looks a context up for, if it gets
as far as the cache. -/
def sought? (s : Session σ) : Operation → Option (Configuration × Representation)
  | .context name hint => s.manager.sought? name hint fun c => { group := c.group }
  | .request scene request =>
    if scene request.group then
      s.manager.sought? request.configurationName request.representation fun _ => request
    else none
  | _ => none

theorem perform_of_sought {s : Session σ} {op : Operation} {c : Configuration} {f : Representation}
    (h : s.sought? op = some (c, f)) :
    s.perform op = ((s.manager.ask c f s.workspace).1.toOption,
      ⟨(s.manager.ask c f s.workspace).2.1, (s.manager.ask c f s.workspace).2.2⟩) := by
  cases op with
  | context name hint =>
    rw [perform, context_eq_lookUp, lookUp_of_sought h]
  | request scene request =>
    rw [sought?] at h
    split at h
    · rename_i hscene
      rw [perform, contextForRequest, resolve_eq_lookUp, lookUp_of_sought h, hscene]
      rcases s.manager.ask c f s.workspace with ⟨_ | _, m, w⟩ <;> rfl
    · cases h
  | _ => cases h

theorem perform_context_of_not_sought {s : Session σ} {name : String} {hint : Option String}
    (h : s.sought? (.context name hint) = none) : s.perform (.context name hint) = (none, s) := by
  obtain ⟨e, he⟩ := lookUp_of_not_sought h s.workspace
  rw [perform, context_eq_lookUp, he]
  rfl

theorem perform_request_of_not_sought {s : Session σ} {scene : Scene} {request : Request}
    (h : s.sought? (.request scene request) = none) :
    s.perform (.request scene request) = (none, s) := by
  rw [perform, contextForRequest, resolve_eq_lookUp]
  rw [sought?] at h
  split at h
  · rename_i hscene
    obtain ⟨e, he⟩ := lookUp_of_not_sought h s.workspace
    rw [hscene, he]
    rfl
  · rename_i hscene
    rw [Bool.not_eq_true] at hscene
    rw [hscene]
    rfl

/-- The cache of a manager, at work. -/
def cached (s : Session σ) : ContextCache.Session σ := ⟨s.manager.cache, s.workspace⟩

/-- An operation of the cache that does nothing. -/
def idle : ContextCache.Operation := .get ⟨"", "", ""⟩

/-- What the cache is told by an operation that looks no context up. -/
def plainOperation : Operation → ContextCache.Operation
  | .setConfigurations _ => .clear
  | .apply d => if d.table.isOk then .clear else idle
  | .invalidatePlanner name => .invalidatePlanner name
  | .shutdown => .shutdown
  | .explore n bytes => .explore n bytes
  | _ => idle

/-- What an operation of a manager is for its cache. -/
def cacheOperation (s : Session σ) (op : Operation) : ContextCache.Operation :=
  match s.sought? op with
  | some (c, f) => .context (s.manager.source c f)
  | none => plainOperation op

theorem cacheOperation_of_sought {s : Session σ} {op : Operation} {c : Configuration}
    {f : Representation} (h : s.sought? op = some (c, f)) :
    s.cacheOperation op = .context (s.manager.source c f) := by
  unfold cacheOperation
  rw [h]

theorem cacheOperation_of_not_sought {s : Session σ} {op : Operation} (h : s.sought? op = none) :
    s.cacheOperation op = plainOperation op := by
  unfold cacheOperation
  rw [h]

/-- The context that an operation of a manager hands out is the one that its cache does. -/
theorem handsOut?_cacheOperation (s : Session σ) (op : Operation) :
    s.cached.handsOut? (s.cacheOperation op) = (s.perform op).1 := by
  cases hs : s.sought? op with
  | some e =>
    obtain ⟨c, f⟩ := e
    rw [cacheOperation_of_sought hs, perform_of_sought hs]
    rfl
  | none =>
    rw [cacheOperation_of_not_sought hs]
    cases op with
    | context name hint =>
      rw [perform_context_of_not_sought hs]
      rfl
    | request scene request =>
      rw [perform_request_of_not_sought hs]
      rfl
    | apply d =>
      rw [plainOperation, perform, configure]
      cases d.table <;> rfl
    | _ => rfl

/-- **What an operation of a manager is for its cache.** -/
theorem cached_perform (s : Session σ) (op : Operation) :
    (s.perform op).2.cached = s.cached.step (s.cacheOperation op) := by
  cases hs : s.sought? op with
  | some e =>
    obtain ⟨c, f⟩ := e
    rw [cacheOperation_of_sought hs, perform_of_sought hs]
    rfl
  | none =>
    rw [cacheOperation_of_not_sought hs]
    cases op with
    | context name hint =>
      rw [perform_context_of_not_sought hs]
      rfl
    | request scene request =>
      rw [perform_request_of_not_sought hs]
      rfl
    | apply d =>
      rw [plainOperation, perform, configure]
      cases d.table <;> rfl
    | _ => rfl

/-- The pool of a manager, at work. -/
def pooled (s : Session σ) : PlannerPool.Session σ := s.cached.pooled

/-- What an operation of a manager is for the pool of its cache. -/
def poolOperation (s : Session σ) (op : Operation) : PlannerPool.Operation :=
  s.cached.poolOperation (s.cacheOperation op)

theorem pooled_perform (s : Session σ) (op : Operation) :
    (s.perform op).2.pooled = s.pooled.step (s.poolOperation op) := by
  rw [pooled, cached_perform, ContextCache.Session.pooled_step]
  rfl

/-- A run of a manager as a run of its pool. -/
def poolOperations (s : Session σ) (ops : List Operation) : List PlannerPool.Operation :=
  Run.translate (fun s op => (s.perform op).2) poolOperation s ops

theorem run_eq_foldl (s : Session σ) (ops : List Operation) :
    s.run ops = ops.foldl (fun s op => (s.perform op).2) s := by
  induction ops generalizing s with
  | nil => rfl
  | cons op ops ih => exact ih _

theorem getElem?_poolOperations (s : Session σ) (ops : List Operation) (k : Nat) :
    (s.poolOperations ops)[k]? = ops[k]?.map (s.after ops k).poolOperation := by
  rw [after, run_eq_foldl]
  exact Run.getElem?_translate ops s k

/-- **The states of the pool of a manager**, in every run. -/
theorem pooled_after (s : Session σ) (ops : List Operation) (k : Nat) :
    (s.after ops k).pooled = s.pooled.after (s.poolOperations ops) k := by
  rw [after, run_eq_foldl, PlannerPool.Session.after, poolOperations, Run.take_translate]
  exact Run.foldl_translate pooled_perform (ops.take k) s

end Session

end Manager

end MotionContexts
