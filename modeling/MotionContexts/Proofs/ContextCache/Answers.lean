/-
# What asking a cache for a context can do

A cache answers in one of three ways: with the context that it has, with a failure, or with a new
context.  `Answers` says so, one constructor each.  Nothing is done before the last step that may
fail, the allocation of the planner, and an allocation that fails has done nothing either; so behind
EVERY failure there is the state from before.

The options that an allocation sees are not those of the configuration: the planner option and the
overridden limits are taken out first.  Those about keeping a planner get through as they are.

Main statements:
* `answers_of_eq`, the three cases are all there are;
* `enabled_of_applyOverrides`, whether the planner is kept is read off the configuration.
-/
import MotionContexts.ContextCache
import MotionContexts.Proofs.PlannerPool.Allocation

namespace MotionContexts

universe u

/-! ## 1. What is left of the options -/

namespace Limits

/-- Overrides leave an option alone that names none of the limits. -/
theorem get?_override {key : String} :
    ∀ {ks : List LimitKey} {l l' : Limits} {options rest : Table String}
      {u : Except ResolutionError Unit}, (∀ k ∈ ks, k.name ≠ key) →
      override ks l options = (u, l', rest) → rest.get? key = options.get? key
  | [], _, _, _, _, _, _, h => by
    cases h
    rfl
  | k :: ks, l, l', options, rest, u, hk, h => by
    have hne : ¬ key = k.name := fun he => hk k (List.mem_cons_self ..) he.symm
    have hks : ∀ j ∈ ks, j.name ≠ key := fun j hj => hk j (List.mem_cons_of_mem _ hj)
    have her : (options.erase k.name).get? key = options.get? key := by
      rw [Table.get?_erase, if_neg hne]
    unfold override at h
    split at h
    · exact get?_override hks h
    · split at h
      · exact (get?_override hks h).trans her
      · cases h
        exact her

/-- **The options about keeping a planner** get through as they are. -/
theorem get?_applyOverrides {key : String} (hkey : key ∈ Retention.keys) {l l' : Limits}
    {options rest : Table String} {u : Except ResolutionError Unit}
    (h : l.applyOverrides (options.erase ContextSource.plannerOption) = (u, l', rest)) :
    rest.get? key = options.get? key := by
  have hlimits : ∀ key ∈ Retention.keys, ∀ k ∈ LimitKey.all, k.name ≠ key := by decide
  have hplanner : ∀ key ∈ Retention.keys, ¬ key = ContextSource.plannerOption := by decide
  rw [get?_override (hlimits key hkey) h, Table.get?_erase, if_neg (hplanner key hkey)]

/-- Whether the planner is kept is read off the options of the configuration. -/
theorem enabled_of_applyOverrides {l l' : Limits} {options rest : Table String}
    {u : Except ResolutionError Unit}
    (h : l.applyOverrides (options.erase ContextSource.plannerOption) = (u, l', rest)) :
    Retention.enabled rest = Retention.enabled options := by
  have hkey : Retention.multiQueryKey ∈ Retention.keys := by decide
  rw [Retention.enabled, get?_applyOverrides hkey h, Retention.enabled]

end Limits

/-! ## 2. New contexts -/

namespace ContextCache

variable {σ : Type u}

/-- What building a context may answer, and the pool and the workspace that it may leave. -/
inductive Builds (pool : PlannerPool σ) (s : ContextSource) (w : Workspace σ) :
    Except ResolutionError PlanningContext → PlannerPool σ → Workspace σ → Prop
  /-- One of the steps failed. -/
  | failed (e : ResolutionError) : Builds pool s w (.error e) pool w
  /-- A new context. -/
  | built {limits : Limits} {options : Table String} {plannerId : String} {family : PlannerFamily}
    {space : Space} {n : Nat} {pool' : PlannerPool σ} {w' : Workspace σ}
    (hl : s.limits.applyOverrides (s.configuration.options.erase ContextSource.plannerOption) =
      (.ok (), limits, options))
    (hp : s.planners.resolve (s.configuration.options.get? ContextSource.plannerOption) =
      .ok (plannerId, family))
    (hb : s.representation.build s.configuration.group = .ok space)
    (ha : PlannerPool.Allocates pool family space s.configuration.name options w (.ok n) pool' w') :
    Builds pool s w
      (.ok {
        number := w'.contexts
        spec := {
          name := s.configuration.name
          group := s.configuration.group
          plannerId := plannerId
          options := s.configuration.options
          limits := limits }
        space := space
        planner := n })
      pool' { w' with contexts := w'.contexts + 1 }

theorem builds_of_eq {pool pool' : PlannerPool σ} {s : ContextSource} {w w' : Workspace σ}
    {result : Except ResolutionError PlanningContext} (h : build pool s w = (result, pool', w')) :
    Builds pool s w result pool' w' := by
  unfold build at h
  dsimp only at h
  split at h
  · cases h
    exact .failed _
  · rename_i limits options hl
    split at h
    · cases h
      exact .failed _
    · rename_i plannerId family hp
      split at h
      · cases h
        exact .failed _
      · rename_i space hb
        split at h
        · rename_i e pool₁ w₁ ha
          obtain ⟨rfl, rfl⟩ := PlannerPool.allocate_error ha
          cases h
          exact .failed e
        · rename_i n pool₁ w₁ ha
          cases h
          exact .built hl hp hb (PlannerPool.allocates_of_eq ha)

/-- **The planner of a new context** was handed out for the name and the space of the context;
whether it is kept is read off the options of the context. -/
theorem Builds.allocates {pool pool' : PlannerPool σ} {s : ContextSource} {w w' : Workspace σ}
    {c : PlanningContext} (h : Builds pool s w (.ok c) pool' w') :
    ∃ family options w₁,
      PlannerPool.Allocates pool family c.space c.spec.name options w (.ok c.planner) pool' w₁ ∧
      w' = { w₁ with contexts := w₁.contexts + 1 } ∧
      Retention.enabled options = Retention.enabled c.spec.options := by
  cases h with
  | built hl hp hb ha => exact ⟨_, _, _, ha, rfl, Limits.enabled_of_applyOverrides hl⟩

/-! ## 3. The three cases -/

/-- What asking for a context may answer, and the cache and the workspace that it may leave. -/
inductive Answers (cache : ContextCache σ) (s : ContextSource) (w : Workspace σ) :
    Except ResolutionError PlanningContext → ContextCache σ → Workspace σ → Prop
  /-- The context that is there. -/
  | cached {c : PlanningContext} (hc : cache.contexts.get? s.key = some c) :
    Answers cache s w (.ok c) cache w
  /-- There is none, and none could be built. -/
  | failed {e : ResolutionError} (hc : cache.contexts.get? s.key = none) :
    Answers cache s w (.error e) cache w
  /-- A new one, which is there from now on. -/
  | built {c : PlanningContext} {pool : PlannerPool σ} {w' : Workspace σ}
    (hc : cache.contexts.get? s.key = none) (hb : Builds cache.pool s w (.ok c) pool w') :
    Answers cache s w (.ok c) ⟨cache.contexts.insert s.key c, pool⟩ w'

/-- **A cache answers in one of the three ways.** -/
theorem answers_of_eq {cache cache' : ContextCache σ} {s : ContextSource} {w w' : Workspace σ}
    {result : Except ResolutionError PlanningContext}
    (h : cache.context s w = (result, cache', w')) :
    Answers cache s w result cache' w' := by
  unfold context at h
  split at h
  · rename_i c hc
    cases h
    exact .cached hc
  · rename_i hc
    split at h
    · rename_i e pool w₁ hb
      cases h
      cases builds_of_eq hb with
      | failed => exact .failed hc
    · rename_i c pool w₁ hb
      cases h
      exact .built hc (builds_of_eq hb)

/-- A cache that fails to answer has done nothing. -/
theorem context_error {cache cache' : ContextCache σ} {s : ContextSource} {w w' : Workspace σ}
    {e : ResolutionError} (h : cache.context s w = (.error e, cache', w')) :
    cache' = cache ∧ w' = w := by
  cases answers_of_eq h with
  | failed hc => exact ⟨rfl, rfl⟩

/-! ## 4. Forgetting a planner -/

/-- Forgetting a planner forgets the contexts of its configuration, and no other context. -/
theorem get?_invalidatePlanner (cache : ContextCache σ) (name : String) (w : Workspace σ)
    (k : ContextKey) :
    (cache.invalidatePlanner name w).2.1.contexts.get? k =
      if k.configuration = name then none else cache.contexts.get? k := by
  show (cache.contexts.filterKeys fun k => k.configuration != name).get? k = _
  rw [KeyedList.get?_filterKeys]
  by_cases h : k.configuration = name <;> simp [h]

theorem pool_invalidatePlanner (cache : ContextCache σ) (name : String) (w : Workspace σ) :
    (cache.invalidatePlanner name w).2.1.pool = (cache.pool.invalidate name w).2.1 := rfl

end ContextCache

end MotionContexts
