/-
# Two new contexts, in either order

Asking a cache for a context either changes nothing, or it adds one context under its key, and
perhaps one planner under the name of its configuration.  What is added is settled by the source,
the storage, and what the cache has under this key and this name; so additions under DIFFERENT names
do not see each other (`finding_enter`).

They do not commute on the nose.  New planners and new contexts get the next numbers, so whoever
comes first gets the smaller ones.  Behind two additions the states are equal up to the numbers: a
permutation that exchanges the new ones and fixes the old ones takes one state to the other.

Main statements:
* `context_eq_finding`, asking for a context is entering what is found for it;
* `Numbered.step`, every number in use stays below the next one;
* `Addition.commute`, two additions in either order.
-/
import Mathlib.Logic.Equiv.Basic
import MotionContexts.Proofs.ContextCache.Sharing
import MotionContexts.Proofs.PlannerPool.Supply

namespace MotionContexts

universe u

variable {σ : Type u}

/-! ## 1. Other numbers -/

/-- Other numbers for the planners and the contexts. -/
structure Renumbering where
  planner : Equiv.Perm Nat
  context : Equiv.Perm Nat

/-- The numbers as they are. -/
def Renumbering.refl : Renumbering := ⟨Equiv.refl Nat, Equiv.refl Nat⟩

/-- The numbers that are in use stay. -/
structure Renumbering.Fixes (r : Renumbering) (w : Workspace σ) : Prop where
  planner : ∀ n, n < w.planners.length → r.planner n = n
  context : ∀ n, n < w.contexts → r.context n = n

theorem Renumbering.Fixes.refl (w : Workspace σ) : Renumbering.refl.Fixes w :=
  ⟨fun _ _ => rfl, fun _ _ => rfl⟩

namespace PlanningContext

/-- A context under another number, with a planner under another number. -/
def renumber (r : Renumbering) (c : PlanningContext) : PlanningContext :=
  { c with number := r.context c.number, planner := r.planner c.planner }

/-- The numbers of the context and its planner are in use. -/
structure Within (c : PlanningContext) (w : Workspace σ) : Prop where
  planner : c.planner < w.planners.length
  number : c.number < w.contexts

@[simp] theorem renumber_refl (c : PlanningContext) : c.renumber .refl = c := rfl

theorem Within.renumber {c : PlanningContext} {w : Workspace σ} (h : c.Within w) {r : Renumbering}
    (hr : r.Fixes w) : c.renumber r = c := by
  unfold PlanningContext.renumber
  rw [hr.planner _ h.planner, hr.context _ h.number]

theorem Within.mono {c : PlanningContext} {w w' : Workspace σ} (h : c.Within w)
    (hp : w.planners.length ≤ w'.planners.length) (hc : w.contexts ≤ w'.contexts) : c.Within w' :=
  ⟨Nat.lt_of_lt_of_le h.planner hp, Nat.lt_of_lt_of_le h.number hc⟩

end PlanningContext

/-! ## 2. Two supplies -/

namespace Supply

/-- The number of a kept planner is in use. -/
def Within (x : Supply) (w : Workspace σ) : Prop := ∀ n, x = kept n → n < w.planners.length

theorem Within.number {x : Supply} {w : Workspace σ} (h : x.Within w) :
    x.number w < (x.enroll w).planners.length := by
  cases x with
  | kept n =>
    have hn := h n rfl
    simpa [Supply.number, enroll, planners] using hn
  | made p calls keep => simp [Supply.number, enroll, planners]

theorem length_enroll (x : Supply) (w : Workspace σ) :
    w.planners.length ≤ (x.enroll w).planners.length := by
  simp [enroll]

/-- The numbers of two new planners exchanged, where the next number is `n`. -/
def exchange (x y : Supply) (n : Nat) : Equiv.Perm Nat :=
  match x, y with
  | made _ _ _, made _ _ _ => Equiv.swap n (n + 1)
  | _, _ => Equiv.refl Nat

theorem exchange_of_lt (x y : Supply) {n k : Nat} (h : k < n) : exchange x y n k = k := by
  unfold exchange
  split
  · exact Equiv.swap_apply_of_ne_of_ne (by omega) (by omega)
  · rfl

/-- The planner of the first one gets the number that it has as the second one. -/
theorem exchange_first (x y : Supply) (w : Workspace σ) :
    exchange x y w.planners.length (x.number w) = x.number (y.enroll w) := by
  cases x with
  | kept n => rfl
  | made p calls keep =>
    cases y with
    | kept m => simp [exchange, number, enroll, planners]
    | made q calls' keep' => simp [exchange, number, enroll, planners]

/-- And the planner of the second one the number that it has as the first one. -/
theorem exchange_second (x y : Supply) (w : Workspace σ) :
    exchange x y w.planners.length (y.number (x.enroll w)) = y.number w := by
  cases y with
  | kept m => cases x <;> rfl
  | made q calls keep =>
    cases x with
    | kept n => simp [exchange, number, enroll, planners]
    | made p calls' keep' => simp [exchange, number, enroll, planners]

theorem getElem?_swap_last {α : Type} (l : List α) (a b : α) (k : Nat) :
    (l ++ [b, a])[Equiv.swap l.length (l.length + 1) k]? = (l ++ [a, b])[k]? := by
  by_cases h : k = l.length
  · subst h
    rw [Equiv.swap_apply_left, List.getElem?_append_right (by omega),
      List.getElem?_append_right (by omega)]
    simp
  · by_cases h' : k = l.length + 1
    · subst h'
      rw [Equiv.swap_apply_right, List.getElem?_append_right (by omega),
        List.getElem?_append_right (by omega)]
      simp
    · rw [Equiv.swap_apply_of_ne_of_ne h h']
      by_cases hlt : k < l.length
      · rw [List.getElem?_append_left hlt, List.getElem?_append_left hlt]
      · rw [List.getElem?_eq_none (by simp; omega), List.getElem?_eq_none (by simp; omega)]

/-- **The planners behind the numbers** are the same in either order. -/
theorem planner?_exchange (x y : Supply) (w : Workspace σ) (k : Nat) :
    (x.enroll (y.enroll w)).planner? (exchange x y w.planners.length k) =
      (y.enroll (x.enroll w)).planner? k := by
  simp only [Workspace.planner?, enroll]
  cases x with
  | kept n => simp [exchange, planners]
  | made p calls keep =>
    cases y with
    | kept m => simp [exchange, planners]
    | made q calls' keep' =>
      simp only [planners, exchange, List.append_assoc, List.cons_append, List.nil_append]
      exact getElem?_swap_last w.planners p q k

end Supply

/-! ## 3. Additions -/

namespace ContextCache

/-- A new context and the supply of its planner, whatever their numbers are. -/
structure Addition where
  spaceType : String
  spec : ContextSpec
  space : Space
  supply : Supply

namespace Addition

/-- The key that it is cached under. -/
def key (x : Addition) : ContextKey := ⟨x.spec.group, x.spec.name, x.spaceType⟩

/-- The new context, under the next numbers. -/
def context (x : Addition) (w : Workspace σ) : PlanningContext where
  number := w.contexts
  spec := x.spec
  space := x.space
  planner := x.supply.number w

/-- The addition, entered. -/
def enter (x : Addition) (s : Session σ) : Session σ where
  cache := {
    contexts := s.cache.contexts.insert x.key (x.context s.workspace)
    pool := x.supply.keepIn x.spec.name (x.supply.number s.workspace) s.cache.pool }
  workspace := { x.supply.enroll s.workspace with contexts := s.workspace.contexts + 1 }

theorem get?_enter (x : Addition) (s : Session σ) (k : ContextKey) :
    (x.enter s).cache.get? k =
      if k = x.key then some (x.context s.workspace) else s.cache.get? k :=
  KeyedList.get?_insert ..

theorem planners_enter (x : Addition) (s : Session σ) (k : String) :
    (x.enter s).cache.pool.planners.get? k =
      if k = x.spec.name ∧ x.supply.keeps = true then some (x.supply.number s.workspace)
      else s.cache.pool.planners.get? k :=
  Supply.planners_keepIn ..

theorem size_enter {x : Addition} {s : Session σ} (h : s.cache.get? x.key = none) :
    (x.enter s).cache.size = s.cache.size + 1 := by
  have hno : s.cache.contexts.contains x.key = false := by
    have hget : s.cache.contexts.get? x.key = none := h
    rw [KeyedList.contains, hget, Option.isSome_none]
  exact (KeyedList.size_insert ..).trans (by rw [hno]; rfl)

end Addition

/-- What is found for a context: it is settled without any change, or a context is to be added. -/
inductive Finding (α : Type) where
  | settled (a : α)
  | new (x : Addition)

namespace Finding

variable {α β : Type}

/-- The finding, entered. -/
def enter (f : Finding α) (s : Session σ) : Session σ :=
  match f with
  | settled _ => s
  | new x => x.enter s

/-- The answer, where a new context is handed out. -/
def answer (f : Finding α) (hand : PlanningContext → α) (w : Workspace σ) : α :=
  match f with
  | settled a => a
  | new x => hand (x.context w)

/-- A settled answer, put differently. -/
def map (report : α → β) : Finding α → Finding β
  | settled a => settled (report a)
  | new x => new x

/-- The calls that a new context takes. -/
def calls (f : Finding α) : List Call :=
  match f with
  | settled _ => []
  | new x => x.supply.calls

theorem calls_enter (f : Finding α) (s : Session σ) :
    (f.enter s).workspace.calls = s.workspace.calls ++ f.calls := by
  cases f with
  | settled a => exact (List.append_nil _).symm
  | new x => rfl

/-- Planners that are there are left alone. -/
theorem planner?_enter (f : Finding α) (s : Session σ) {n : Nat}
    (h : n < s.workspace.planners.length) :
    (f.enter s).workspace.planner? n = s.workspace.planner? n := by
  cases f with
  | settled a => rfl
  | new x => exact List.getElem?_append_left h

theorem enter_map (report : α → β) (f : Finding α) (s : Session σ) :
    (f.map report).enter s = f.enter s := by
  cases f <;> rfl

end Finding

/-! ## 4. What is found for a context -/

/-- The context to be added, over these contents, or the cause why there is none. -/
def addition (pool : PlannerPool σ) (s : ContextSource) (contents : σ) :
    Except ResolutionError Addition :=
  let c := s.configuration
  match s.limits.applyOverrides (c.options.erase ContextSource.plannerOption) with
  | (.error e, _, _) => .error e
  | (.ok _, limits, options) =>
    match s.planners.resolve (c.options.get? ContextSource.plannerOption) with
    | .error e => .error e
    | .ok (plannerId, family) =>
      match s.representation.build c.group with
      | .error e => .error e
      | .ok space =>
        match pool.supply family space c.name options contents with
        | .error e => .error e
        | .ok supply =>
          .ok {
            spaceType := s.representation.spaceType
            spec := {
              name := c.name
              group := c.group
              plannerId := plannerId
              options := c.options
              limits := limits }
            space := space
            supply := supply }

/-- Building a context is entering what is to be added. -/
theorem build_eq_addition (pool : PlannerPool σ) (s : ContextSource) (w : Workspace σ) :
    build pool s w =
      match addition pool s w.contents with
      | .error e => (.error e, pool, w)
      | .ok x => (.ok (x.context w),
          x.supply.keepIn x.spec.name (x.supply.number w) pool,
          { x.supply.enroll w with contexts := w.contexts + 1 }) := by
  unfold build addition
  dsimp only
  rcases s.limits.applyOverrides (s.configuration.options.erase ContextSource.plannerOption) with
    ⟨e | _, limits, options⟩
  · rfl
  · dsimp only
    rcases s.planners.resolve (s.configuration.options.get? ContextSource.plannerOption) with
      e | ⟨plannerId, family⟩
    · rfl
    · dsimp only
      rcases s.representation.build s.configuration.group with e | space
      · rfl
      · dsimp only
        rw [PlannerPool.allocate_eq_supply]
        rcases pool.supply family space s.configuration.name options w.contents with e | x <;> rfl

theorem addition_congr {pool pool' : PlannerPool σ} {s : ContextSource}
    (hstorage : pool'.storage = pool.storage)
    (hkept : pool'.planners.get? s.configuration.name = pool.planners.get? s.configuration.name)
    (contents : σ) : addition pool' s contents = addition pool s contents := by
  unfold addition
  dsimp only
  simp only [PlannerPool.supply_congr hstorage hkept]

/-- An addition is made under the name of the configuration, and under the key that was asked
for; a kept planner among its parts is kept under this name. -/
theorem of_addition {pool : PlannerPool σ} {s : ContextSource} {contents : σ} {x : Addition}
    (h : addition pool s contents = .ok x) :
    x.key = s.key ∧ x.spec.name = s.configuration.name ∧
      ∀ n, x.supply = .kept n → pool.planners.get? x.spec.name = some n := by
  unfold addition at h
  dsimp only at h
  split at h
  · cases h
  · split at h
    · cases h
    · split at h
      · cases h
      · split at h
        · cases h
        · rename_i supply hsupply
          cases h
          refine ⟨rfl, rfl, fun n hn => ?_⟩
          obtain rfl : supply = .kept n := hn
          exact PlannerPool.get?_of_supply hsupply

namespace Session

/-- What is found for a context: the cached one, a cause of failure, or a context to be added. -/
def finding (s : Session σ) (source : ContextSource) :
    Finding (Except ResolutionError PlanningContext) :=
  match s.cache.get? source.key with
  | some c => .settled (.ok c)
  | none =>
    match addition s.cache.pool source s.workspace.contents with
    | .error e => .settled (.error e)
    | .ok x => .new x

/-- **Asking for a context is entering what is found for it.** -/
theorem context_eq_finding (s : Session σ) (source : ContextSource) :
    s.cache.context source s.workspace =
      ((s.finding source).answer .ok s.workspace, ((s.finding source).enter s).cache,
        ((s.finding source).enter s).workspace) := by
  unfold ContextCache.context finding ContextCache.get?
  cases s.cache.contexts.get? source.key with
  | some c => rfl
  | none =>
    dsimp only
    rw [build_eq_addition]
    cases hx : addition s.cache.pool source s.workspace.contents with
    | error e => rfl
    | ok x =>
      dsimp only
      rw [← (of_addition hx).1]
      rfl

theorem step_eq_finding (s : Session σ) (source : ContextSource) :
    s.step (.context source) = (s.finding source).enter s := by
  rw [step, context_eq_finding]

theorem of_finding_new {s : Session σ} {source : ContextSource} {x : Addition}
    (h : s.finding source = .new x) :
    addition s.cache.pool source s.workspace.contents = .ok x := by
  unfold finding at h
  split at h
  · cases h
  · split at h
    · cases h
    · rename_i hx
      cases h
      exact hx

/-- A context is added only where there is none. -/
theorem get?_of_finding_new {s : Session σ} {source : ContextSource} {x : Addition}
    (h : s.finding source = .new x) : s.cache.get? x.key = none := by
  rw [(of_addition (of_finding_new h)).1]
  unfold finding at h
  split at h
  · cases h
  · assumption

/-- **Additions under other names are not seen.** -/
theorem finding_enter {s : Session σ} {source : ContextSource} {x : Addition}
    (h : x.spec.name ≠ source.configuration.name) :
    (x.enter s).finding source = s.finding source := by
  have hkey : ¬ source.key = x.key := fun he => h (congrArg ContextKey.configuration he).symm
  have hname : ¬ (source.configuration.name = x.spec.name ∧ x.supply.keeps = true) :=
    fun he => h he.1.symm
  have hget : (x.enter s).cache.get? source.key = s.cache.get? source.key := by
    rw [x.get?_enter, if_neg hkey]
  have hadd : addition (x.enter s).cache.pool source (x.enter s).workspace.contents =
      addition s.cache.pool source s.workspace.contents := by
    exact addition_congr (Supply.storage_keepIn ..) ((x.planners_enter ..).trans (if_neg hname)) _
  unfold finding
  rw [hget, hadd]

/-! ## 5. Numbers in use -/

/-- Every number in use is below the next one. -/
structure Numbered (s : Session σ) : Prop where
  kept : ∀ name n, s.cache.pool.planners.get? name = some n → n < s.workspace.planners.length
  cached : ∀ k c, s.cache.get? k = some c → c.Within s.workspace

theorem Numbered.new (storage : Storage σ) (w : Workspace σ) : (new storage w).Numbered where
  kept _ _ h := by cases h
  cached _ _ h := by cases h

/-- The numbers of an addition that is found are in use, except those of what is new. -/
theorem Numbered.within {s : Session σ} (h : s.Numbered) {source : ContextSource} {x : Addition}
    (hx : s.finding source = .new x) : x.supply.Within s.workspace := by
  obtain ⟨-, -, hkept⟩ := of_addition (of_finding_new hx)
  exact fun n hn => h.kept _ n (hkept n hn)

theorem Addition.within_context {s : Session σ} {x : Addition} (hx : x.supply.Within s.workspace) :
    (x.context s.workspace).Within (x.enter s).workspace :=
  ⟨hx.number, Nat.lt_succ_self _⟩

theorem Numbered.enter {s : Session σ} (h : s.Numbered) {x : Addition}
    (hx : x.supply.Within s.workspace) : (x.enter s).Numbered where
  kept name n hn := by
    rw [x.planners_enter] at hn
    split at hn
    · cases hn
      exact hx.number
    · exact Nat.lt_of_lt_of_le (h.kept name n hn) (x.supply.length_enroll _)
  cached k c hc := by
    rw [x.get?_enter] at hc
    split at hc
    · cases hc
      exact Addition.within_context hx
    · exact (h.cached k c hc).mono (x.supply.length_enroll _) (Nat.le_succ _)

theorem Numbered.fewer {s s' : Session σ} (h : s.Numbered) (hf : s.Fewer s')
    (hc : s.workspace.contexts ≤ s'.workspace.contexts) : s'.Numbered where
  kept name n hn := Nat.lt_of_lt_of_le (h.kept name n (hf.pool name n hn)) hf.planners
  cached k c hk := (h.cached k c (hf.cached k c hk)).mono hf.planners hc

/-- Only asking for a context counts one. -/
theorem contexts_step (s : Session σ) {op : Operation} (hop : ∀ source, op ≠ .context source) :
    (s.step op).workspace.contexts = s.workspace.contexts := by
  cases op with
  | context source => exact absurd rfl (hop source)
  | get key => rfl
  | clear => rfl
  | invalidatePlanner name =>
    exact (PlannerPool.saved_invalidate s.cache.pool name s.workspace).contexts
  | shutdown => exact (PlannerPool.saved_shutdown s.cache.pool s.workspace).contexts
  | explore n bytes => exact Workspace.contexts_explore ..

/-- **One operation keeps the numbers in use below the next ones.** -/
theorem Numbered.step {s : Session σ} (h : s.Numbered) (op : Operation) : (s.step op).Numbered := by
  have hplain : (∀ source, op ≠ .context source) → (s.step op).Numbered := fun hop =>
    h.fewer (s.fewer_step hop) (Nat.le_of_eq (s.contexts_step hop).symm)
  cases op with
  | context source =>
    rw [step_eq_finding]
    cases hf : s.finding source with
    | settled a => exact h
    | new x => exact h.enter (h.within hf)
  | _ => exact hplain fun _ hop => by cases hop

/-! ## 6. Two additions -/

/-- `t` is `s` with other numbers. -/
structure Renames (r : Renumbering) (s t : Session σ) : Prop where
  cached : ∀ k, t.cache.get? k = (s.cache.get? k).map (·.renumber r)
  size : t.cache.size = s.cache.size
  storage : t.cache.pool.storage = s.cache.pool.storage
  kept : ∀ name, t.cache.pool.planners.get? name =
    (s.cache.pool.planners.get? name).map r.planner
  storagePaths : t.cache.pool.storagePaths = s.cache.pool.storagePaths
  flushed : t.cache.pool.flushed = s.cache.pool.flushed
  contents : t.workspace.contents = s.workspace.contents
  planner : ∀ n, t.workspace.planner? (r.planner n) = s.workspace.planner? n
  planners : t.workspace.planners.length = s.workspace.planners.length
  contexts : t.workspace.contexts = s.workspace.contexts

theorem Renames.refl (s : Session σ) : s.Renames .refl s where
  cached k := by cases s.cache.get? k <;> rfl
  size := rfl
  storage := rfl
  kept name := by cases s.cache.pool.planners.get? name <;> rfl
  storagePaths := rfl
  flushed := rfl
  contents := rfl
  planner _ := rfl
  planners := rfl
  contexts := rfl

end Session

namespace Addition

/-- The numbers that are new to two additions, exchanged. -/
def exchange (x y : Addition) (w : Workspace σ) : Renumbering where
  planner := Supply.exchange x.supply y.supply w.planners.length
  context := Equiv.swap w.contexts (w.contexts + 1)

variable (x y : Addition) (s : Session σ)

theorem fixes_exchange (w : Workspace σ) : (exchange x y w).Fixes w where
  planner n hn := Supply.exchange_of_lt x.supply y.supply hn
  context n hn := Equiv.swap_apply_of_ne_of_ne (Nat.ne_of_lt hn) (by omega)

/-- The context of the first addition, as it is if it is the second one. -/
theorem context_first :
    x.context (y.enter s).workspace =
      (x.context s.workspace).renumber (exchange x y s.workspace) := by
  have hplanner := Supply.exchange_first x.supply y.supply s.workspace
  have hnumber : Equiv.swap s.workspace.contexts (s.workspace.contexts + 1) s.workspace.contexts =
      s.workspace.contexts + 1 := Equiv.swap_apply_left ..
  simp only [PlanningContext.renumber, exchange, context, hplanner, hnumber]
  rfl

/-- The context of the second addition, as it is if it is the first one. -/
theorem context_second :
    y.context s.workspace =
      (y.context (x.enter s).workspace).renumber (exchange x y s.workspace) := by
  have hplanner : Supply.exchange x.supply y.supply s.workspace.planners.length
      (y.supply.number (x.enter s).workspace) = y.supply.number s.workspace :=
    Supply.exchange_second x.supply y.supply s.workspace
  have hnumber : Equiv.swap s.workspace.contexts (s.workspace.contexts + 1)
      (x.enter s).workspace.contexts = s.workspace.contexts := Equiv.swap_apply_right ..
  simp only [PlanningContext.renumber, exchange, context, hplanner, hnumber]

/-- Two values put in at different places, in either order and with other numbers. -/
theorem map_ite_exchange {α : Type} {f : α → α} {p q : Prop} [Decidable p] [Decidable q]
    {a a' b b' : α} {old : Option α} (h : ¬ (p ∧ q)) (ha : f a = a') (hb : f b' = b)
    (hold : old.map f = old) :
    (if p then some a' else if q then some b else old) =
      (if q then some b' else if p then some a else old).map f := by
  by_cases hp : p
  · have hq : ¬ q := fun hq => h ⟨hp, hq⟩
    rw [if_pos hp, if_neg hq, if_pos hp, Option.map_some, ha]
  · rw [if_neg hp, if_neg hp]
    by_cases hq : q
    · rw [if_pos hq, if_pos hq, Option.map_some, hb]
    · rw [if_neg hq, if_neg hq, hold]

variable {x y s}

theorem get?_commute (hs : s.Numbered) (hname : x.spec.name ≠ y.spec.name) (k : ContextKey) :
    (x.enter (y.enter s)).cache.get? k =
      ((y.enter (x.enter s)).cache.get? k).map (·.renumber (exchange x y s.workspace)) := by
  rw [get?_enter, get?_enter, get?_enter, get?_enter]
  refine map_ite_exchange ?_ (x.context_first y s).symm (x.context_second y s).symm ?_
  · rintro ⟨hkx, hky⟩
    exact hname (congrArg ContextKey.configuration (hkx.symm.trans hky))
  · cases hk : s.cache.get? k with
    | none => rfl
    | some c => rw [Option.map_some, (hs.cached k c hk).renumber (fixes_exchange x y s.workspace)]

theorem planners_commute (hs : s.Numbered) (hname : x.spec.name ≠ y.spec.name) (k : String) :
    (x.enter (y.enter s)).cache.pool.planners.get? k =
      ((y.enter (x.enter s)).cache.pool.planners.get? k).map
        (exchange x y s.workspace).planner := by
  rw [planners_enter, planners_enter, planners_enter, planners_enter]
  refine map_ite_exchange ?_ (x.supply.exchange_first y.supply s.workspace)
    (x.supply.exchange_second y.supply s.workspace) ?_
  · rintro ⟨⟨hkx, -⟩, hky, -⟩
    exact hname (hkx.symm.trans hky)
  · cases hk : s.cache.pool.planners.get? k with
    | none => rfl
    | some n =>
      rw [Option.map_some, (fixes_exchange x y s.workspace).planner n (hs.kept k n hk)]

theorem storagePaths_commute (hname : x.spec.name ≠ y.spec.name) :
    (x.enter (y.enter s)).cache.pool.storagePaths =
      (y.enter (x.enter s)).cache.pool.storagePaths := by
  refine Table.ext_get? fun k => ?_
  simp only [enter, Supply.storagePaths_keepIn]
  by_cases hkx : k = x.spec.name
  · have hky : ¬ k = y.spec.name := fun h => hname (hkx.symm.trans h)
    rw [if_pos hkx, if_neg hky, if_neg hky, if_pos hkx]
  · rw [if_neg hkx, if_neg hkx]

/-- **Two additions in either order**: the same up to the numbers, which are exchanged where they
are new. -/
theorem commute (hs : s.Numbered) (hname : x.spec.name ≠ y.spec.name)
    (hx : s.cache.get? x.key = none) (hy : s.cache.get? y.key = none) :
    (y.enter (x.enter s)).Renames (exchange x y s.workspace) (x.enter (y.enter s)) := by
  have hkey : x.key ≠ y.key := fun he => hname (congrArg ContextKey.configuration he)
  have hx' : (y.enter s).cache.get? x.key = none := by rw [get?_enter, if_neg hkey, hx]
  have hy' : (x.enter s).cache.get? y.key = none := by rw [get?_enter, if_neg hkey.symm, hy]
  refine ⟨get?_commute hs hname, ?size, ?storage, planners_commute hs hname,
    storagePaths_commute hname, ?flushed, rfl,
    fun n => x.supply.planner?_exchange y.supply s.workspace n, ?planners, rfl⟩
  case size => rw [size_enter hx', size_enter hy, size_enter hy', size_enter hx]
  case storage => simp only [enter, Supply.storage_keepIn]
  case flushed =>
    simp only [enter, Supply.flushed_keepIn]
    exact Bool.and_left_comm ..
  case planners =>
    simp only [enter, Supply.enroll, List.length_append]
    omega

end Addition

end ContextCache

end MotionContexts
