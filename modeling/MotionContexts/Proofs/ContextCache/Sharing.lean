/-
# Which contexts share a planner

The cache holds contexts by group, configuration and space type, its pool holds planners by
configuration alone, and the two change on their own: dropping all contexts leaves the pool alone, a
planner is made only where a context is built, and a configuration may want its planner kept at one
time and not at another.  Yet at every moment a cached context that wants its planner kept has THE
planner that the pool keeps under its configuration, and any other one has a planner that nobody
else has.  So two contexts share a planner exactly if both want it kept, under one name.

What carries this is that forgetting a planner drops the contexts of the configuration too: no
context is left behind with a planner that the pool has forgotten.  `Forgotten` follows such a
planner through the rest of a run; it never comes back.

Main statement: `shared_iff_kept_under_one_name`, for every run of a new cache.
-/
import MotionContexts.Proofs.ContextCache.Answers
import MotionContexts.Proofs.PlannerPool.Instances

namespace MotionContexts

universe u

namespace ContextCache

open Retention (enabled)

/-- What may happen to a cache and to the planners of its contexts. -/
inductive Operation where
  | context (source : ContextSource)
  | get (key : ContextKey)
  | clear
  | invalidatePlanner (name : String)
  | shutdown
  | explore (n : Nat) (bytes : List UInt8)

/-- A cache and the workspace it works in. -/
structure Session (σ : Type u) where
  cache : ContextCache σ
  workspace : Workspace σ

namespace Session

variable {σ : Type u}

/-! ## 1. Steps and runs -/

/-- A new cache in a workspace. -/
def new (storage : Storage σ) (w : Workspace σ) : Session σ := ⟨.new storage, w⟩

/-- One operation; looking a cached context up leaves everything as it is. -/
def step (s : Session σ) : Operation → Session σ
  | .context source =>
    let (_, cache, w) := s.cache.context source s.workspace
    ⟨cache, w⟩
  | .get _ => s
  | .clear => { s with cache := s.cache.clear }
  | .invalidatePlanner name =>
    let (_, cache, w) := s.cache.invalidatePlanner name s.workspace
    ⟨cache, w⟩
  | .shutdown =>
    let (_, cache, w) := s.cache.shutdown s.workspace
    ⟨cache, w⟩
  | .explore n bytes => { s with workspace := (s.workspace.explore n bytes).2 }

/-- One operation after the other. -/
def run (s : Session σ) (ops : List Operation) : Session σ := ops.foldl step s

/-! ## 2. The invariant -/

/-- Planners of cached contexts: kept ones are those of the pool, the others belong to one context
each. -/
structure Shares (s : Session σ) : Prop where
  distinct : s.cache.pool.Distinct s.workspace
  /-- A context that wants its planner kept has the one that is kept. -/
  kept : ∀ k c, s.cache.get? k = some c → enabled c.spec.options = true →
    s.cache.pool.planners.get? k.configuration = some c.planner
  /-- The planner of another context exists and is not kept. -/
  own : ∀ k c, s.cache.get? k = some c → enabled c.spec.options = false →
    c.planner < s.workspace.planners.length ∧
      ∀ name, s.cache.pool.planners.get? name ≠ some c.planner
  /-- Nor is it the planner of a further context. -/
  unshared : ∀ k k' c c', s.cache.get? k = some c → s.cache.get? k' = some c' →
    enabled c.spec.options = false → c'.planner = c.planner → k' = k

theorem Shares.new (storage : Storage σ) (w : Workspace σ) : (new storage w).Shares where
  distinct := .new storage w
  kept _ _ h := by cases h
  own _ _ h := by cases h
  unshared _ _ _ _ h := by cases h

/-- The planner of a cached context exists. -/
theorem Shares.lt {s : Session σ} (h : s.Shares) {k : ContextKey} {c : PlanningContext}
    (hc : s.cache.get? k = some c) : c.planner < s.workspace.planners.length := by
  cases he : enabled c.spec.options with
  | false => exact (h.own k c hc he).1
  | true => exact h.distinct.enrolled _ _ (h.kept k c hc he)

/-- `s'` is `s` with fewer contexts and fewer kept planners, but each context that is left has the
planner of its configuration kept as it was. -/
structure Fewer (s s' : Session σ) : Prop where
  planners : s.workspace.planners.length ≤ s'.workspace.planners.length
  cached : ∀ k c, s'.cache.get? k = some c → s.cache.get? k = some c
  pool : ∀ name n, s'.cache.pool.planners.get? name = some n →
    s.cache.pool.planners.get? name = some n
  kept : ∀ k c, s'.cache.get? k = some c →
    s'.cache.pool.planners.get? k.configuration = s.cache.pool.planners.get? k.configuration

/-- What is left shares planners as it did. -/
theorem Shares.fewer {s s' : Session σ} (h : s.Shares) (hf : s.Fewer s') : s'.Shares where
  distinct := h.distinct.fewer hf.planners hf.pool
  kept k c hc he := by
    rw [hf.kept k c hc]
    exact h.kept k c (hf.cached k c hc) he
  own k c hc he := by
    obtain ⟨hlt, hno⟩ := h.own k c (hf.cached k c hc) he
    exact ⟨Nat.lt_of_lt_of_le hlt hf.planners, fun name hn => hno name (hf.pool name _ hn)⟩
  unshared k k' c c' hc hc' := h.unshared k k' c c' (hf.cached k c hc) (hf.cached k' c' hc')

/-! ## 3. A new context -/

/-- A context that is put where there was none: every cached context is this one or an old one. -/
theorem get?_insert_cases {cache : ContextCache σ} {key k : ContextKey} {c d : PlanningContext}
    {pool : PlannerPool σ}
    (h : ContextCache.get? ⟨cache.contexts.insert key c, pool⟩ k = some d) :
    (k = key ∧ d = c) ∨ (k ≠ key ∧ cache.get? k = some d) := by
  simp only [ContextCache.get?, KeyedList.get?_insert] at h
  split at h
  · rename_i hk
    cases h
    exact .inl ⟨hk, rfl⟩
  · rename_i hk
    exact .inr ⟨hk, h⟩

/-- The new context has the planner that was kept all along. -/
theorem Shares.reuse {s : Session σ} (h : s.Shares) {key : ContextKey} {c : PlanningContext}
    (he : enabled c.spec.options = true)
    (hn : s.cache.pool.planners.get? key.configuration = some c.planner) {w : Workspace σ}
    (hw : w.planners = s.workspace.planners) :
    Shares ⟨⟨s.cache.contexts.insert key c, s.cache.pool⟩, w⟩ where
  distinct := h.distinct.fewer (Nat.le_of_eq (by rw [hw])) fun _ _ hn => hn
  kept k d hd hed := by
    rcases get?_insert_cases hd with ⟨rfl, rfl⟩ | ⟨-, hd⟩
    · exact hn
    · exact h.kept k d hd hed
  own k d hd hed := by
    rcases get?_insert_cases hd with ⟨rfl, rfl⟩ | ⟨-, hd⟩
    · rw [he] at hed
      cases hed
    · rw [hw]
      exact h.own k d hd hed
  unshared k k' d d' hd hd' hed heq := by
    rcases get?_insert_cases hd with ⟨rfl, rfl⟩ | ⟨-, hold⟩
    · rw [he] at hed
      cases hed
    · rcases get?_insert_cases hd' with ⟨rfl, rfl⟩ | ⟨-, hd'⟩
      · -- a kept planner belongs to no context alone
        rw [heq] at hn
        exact absurd hn ((h.own k d hold hed).2 _)
      · exact h.unshared k k' d d' hold hd' hed heq

/-- The new context has a planner that was made just now: it is kept from now on, under a name that
had no planner, or it is not kept. -/
theorem Shares.made {s : Session σ} (h : s.Shares) {key : ContextKey} {c : PlanningContext}
    {pool : PlannerPool σ} {w : Workspace σ} (hnew : c.planner = s.workspace.planners.length)
    (hlen : w.planners.length = c.planner + 1)
    (hpool : (enabled c.spec.options = false ∧ pool = s.cache.pool) ∨
      (enabled c.spec.options = true ∧ s.cache.pool.planners.get? key.configuration = none ∧
        pool.planners = s.cache.pool.planners.insert key.configuration c.planner)) :
    Shares ⟨⟨s.cache.contexts.insert key c, pool⟩, w⟩ := by
  -- what the pool keeps is the new planner or an older one
  have hnames : ∀ name n, pool.planners.get? name = some n →
      (n = c.planner ∧ enabled c.spec.options = true) ∨
        s.cache.pool.planners.get? name = some n := by
    intro name n hn
    rcases hpool with ⟨-, rfl⟩ | ⟨he, -, hp⟩
    · exact .inr hn
    · rw [hp, Table.get?_insert] at hn
      split at hn
      · cases hn
        exact .inl ⟨rfl, he⟩
      · exact .inr hn
  refine ⟨?distinct, fun k d hd hed => ?kept, fun k d hd hed => ?own,
    fun k k' d d' hd hd' hed heq => ?unshared⟩
  case distinct =>
    rcases hpool with ⟨-, rfl⟩ | ⟨-, -, hp⟩
    · exact h.distinct.fewer (by dsimp only; omega) fun _ _ hn => hn
    · exact h.distinct.insert hnew hlen hp
  case kept =>
    rcases get?_insert_cases hd with ⟨rfl, rfl⟩ | ⟨-, hd⟩
    · rcases hpool with ⟨hno, -⟩ | ⟨-, -, hp⟩
      · rw [hno] at hed
        cases hed
      · dsimp only
        rw [hp, Table.get?_insert_self]
    · have hold := h.kept k d hd hed
      rcases hpool with ⟨-, rfl⟩ | ⟨-, hnone, hp⟩
      · exact hold
      · have hne : ¬ k.configuration = key.configuration := by
          intro he
          rw [he, hnone] at hold
          cases hold
        dsimp only
        rw [hp, Table.get?_insert, if_neg hne]
        exact hold
  case own =>
    rcases get?_insert_cases hd with ⟨rfl, rfl⟩ | ⟨-, hd⟩
    · refine ⟨by dsimp only; omega, fun name hn => ?_⟩
      rcases hnames name _ hn with ⟨-, he⟩ | hn
      · rw [he] at hed
        cases hed
      · have hlt := h.distinct.enrolled name _ hn
        omega
    · obtain ⟨hlt, hno⟩ := h.own k d hd hed
      refine ⟨by dsimp only; omega, fun name hn => ?_⟩
      rcases hnames name _ hn with ⟨heq, -⟩ | hn
      · omega
      · exact hno name hn
  case unshared =>
    rcases get?_insert_cases hd with ⟨rfl, rfl⟩ | ⟨-, hold⟩ <;>
      rcases get?_insert_cases hd' with ⟨rfl, rfl⟩ | ⟨-, hold'⟩
    · rfl
    · have hlt := h.lt hold'
      omega
    · have hlt := h.lt hold
      omega
    · exact h.unshared k k' d d' hold hold' hed heq

/-! ## 4. One operation -/

theorem step_context (s : Session σ) (source : ContextSource) :
    ∃ result cache w, Answers s.cache source s.workspace result cache w ∧
      s.step (.context source) = ⟨cache, w⟩ := by
  rcases h : s.cache.context source s.workspace with ⟨result, cache, w⟩
  refine ⟨result, cache, w, answers_of_eq h, ?_⟩
  rw [step, h]

/-- A context that is built has the name of the key that it stands under from now on. -/
theorem Builds.configuration {pool pool' : PlannerPool σ} {source : ContextSource}
    {w w' : Workspace σ} {c : PlanningContext} (h : Builds pool source w (.ok c) pool' w') :
    source.key.configuration = c.spec.name := by
  cases h with
  | built hl hp hb ha => rfl

theorem fewer_invalidatePlanner (s : Session σ) (name : String) :
    s.Fewer (s.step (.invalidatePlanner name)) := by
  have hcached : ∀ k c, (s.step (.invalidatePlanner name)).cache.get? k = some c →
      k.configuration ≠ name ∧ s.cache.get? k = some c := by
    intro k c hc
    rw [ContextCache.get?, Session.step, get?_invalidatePlanner] at hc
    split at hc
    · cases hc
    · rename_i hne
      exact ⟨hne, hc⟩
  have hpool : ∀ k, (s.step (.invalidatePlanner name)).cache.pool.planners.get? k =
      if k = name then none else s.cache.pool.planners.get? k := fun k => Table.get?_erase ..
  have hw := PlannerPool.saved_invalidate s.cache.pool name s.workspace
  refine ⟨Nat.le_of_eq (congrArg List.length hw.planners.symm), fun k c hc => (hcached k c hc).2,
    fun k n hn => ?_, fun k c hc => ?_⟩
  · rw [hpool] at hn
    split at hn
    · cases hn
    · exact hn
  · rw [hpool, if_neg (hcached k c hc).1]

/-- Only asking for a context adds any. -/
theorem fewer_step (s : Session σ) {op : Operation} (hop : ∀ source, op ≠ .context source) :
    s.Fewer (s.step op) := by
  cases op with
  | context source => exact absurd rfl (hop source)
  | get key => exact ⟨Nat.le_refl _, fun _ _ hc => hc, fun _ _ hn => hn, fun _ _ _ => rfl⟩
  | clear =>
    have hnone : ∀ k c, ¬ (s.step .clear).cache.get? k = some c := fun _ _ hc => by cases hc
    exact ⟨Nat.le_refl _, fun k c hc => absurd hc (hnone k c), fun _ _ hn => hn,
      fun k c hc => absurd hc (hnone k c)⟩
  | invalidatePlanner name => exact s.fewer_invalidatePlanner name
  | shutdown =>
    have hw := PlannerPool.saved_shutdown s.cache.pool s.workspace
    exact ⟨Nat.le_of_eq (congrArg List.length hw.planners.symm), fun _ _ hc => hc,
      fun _ _ hn => hn, fun _ _ _ => rfl⟩
  | explore n bytes =>
    exact ⟨Nat.le_of_eq (Workspace.length_planners_explore ..).symm, fun _ _ hc => hc,
      fun _ _ hn => hn, fun _ _ _ => rfl⟩

/-- **One operation keeps the sharing as it should be.** -/
theorem Shares.step {s : Session σ} (h : s.Shares) (op : Operation) : (s.step op).Shares := by
  cases op with
  | context source =>
    obtain ⟨result, cache, w, ha, he⟩ := s.step_context source
    rw [he]
    cases ha with
    | cached hc => exact h
    | failed hc => exact h
    | @built c pool w hc hb =>
      have hname := Builds.configuration hb
      obtain ⟨family, options, w₁, ha, rfl, ho⟩ := hb.allocates
      rw [← hname] at ha
      rcases ha.kept_or_own_or_first with
        ⟨hen, hn, rfl, rfl⟩ | ⟨hen, rfl, p, hw⟩ | ⟨hen, hnone, hp, p, hw⟩ <;> rw [ho] at hen
      · exact h.reuse hen hn rfl
      · exact h.made hw.number (by rw [hw.number]; exact hw.length) (.inl ⟨hen, rfl⟩)
      · exact h.made hw.number (by rw [hw.number]; exact hw.length) (.inr ⟨hen, hnone, hp⟩)
  | _ => exact h.fewer (s.fewer_step fun _ hop => by cases hop)

theorem Shares.run {s : Session σ} (h : s.Shares) (ops : List Operation) : (s.run ops).Shares := by
  induction ops generalizing s with
  | nil => exact h
  | cons op ops ih => exact ih (h.step op)

/-! ## 5. Planners that are forgotten -/

/-- The planner of the number was made, but neither the pool nor a cached context has it. -/
structure Forgotten (s : Session σ) (n : Nat) : Prop where
  lt : n < s.workspace.planners.length
  pool : ∀ name, s.cache.pool.planners.get? name ≠ some n
  cached : ∀ k c, s.cache.get? k = some c → c.planner ≠ n

theorem Forgotten.fewer {s s' : Session σ} {n : Nat} (h : s.Forgotten n) (hf : s.Fewer s') :
    s'.Forgotten n where
  lt := Nat.lt_of_lt_of_le h.lt hf.planners
  pool name hn := h.pool name (hf.pool name n hn)
  cached k c hc := h.cached k c (hf.cached k c hc)

/-- **A planner that is forgotten never comes back.** -/
theorem Forgotten.step {s : Session σ} {n : Nat} (h : s.Forgotten n) (op : Operation) :
    (s.step op).Forgotten n := by
  cases op with
  | context source =>
    obtain ⟨result, cache, w, ha, he⟩ := s.step_context source
    rw [he]
    cases ha with
    | cached hc => exact h
    | failed hc => exact h
    | @built c pool w hc hb =>
      obtain ⟨family, options, w₁, ha, rfl, -⟩ := hb.allocates
      have hlt := h.lt
      have hcached : c.planner ≠ n → ∀ k d,
          ContextCache.get? ⟨s.cache.contexts.insert source.key c, pool⟩ k = some d →
            d.planner ≠ n := by
        intro hne k d hd
        rcases get?_insert_cases hd with ⟨-, rfl⟩ | ⟨-, hd⟩
        · exact hne
        · exact h.cached k d hd
      -- the planner of the new context is one that is kept, or has a number of its own
      rcases ha.kept_or_own_or_first with
        ⟨-, hn, rfl, rfl⟩ | ⟨-, rfl, p, hw⟩ | ⟨-, -, hp, p, hw⟩
      · exact ⟨hlt, h.pool, hcached fun heq => h.pool _ (heq ▸ hn)⟩
      all_goals
        have hnew := hw.number
        have hlen := hw.length
      · exact ⟨by dsimp only; omega, h.pool, hcached (by omega)⟩
      · refine ⟨by dsimp only; omega, fun name hn => ?_, hcached (by omega)⟩
        dsimp only at hn
        rw [hp, Table.get?_insert] at hn
        split at hn
        · cases hn
          omega
        · exact h.pool name hn
  | _ => exact h.fewer (s.fewer_step fun _ hop => by cases hop)

theorem Forgotten.run {s : Session σ} {n : Nat} (h : s.Forgotten n) (ops : List Operation) :
    (s.run ops).Forgotten n := by
  induction ops generalizing s with
  | nil => exact h
  | cons op ops ih => exact ih (h.step op)

/-- Forgetting what a name keeps leaves nobody with it. -/
theorem Shares.forgotten {s : Session σ} (h : s.Shares) {name : String} {n : Nat}
    (hn : s.cache.pool.planners.get? name = some n) :
    (s.step (.invalidatePlanner name)).Forgotten n := by
  have hw := PlannerPool.saved_invalidate s.cache.pool name s.workspace
  refine ⟨?lt, fun k hk => ?pool, fun k c hc heq => ?cached⟩
  case lt =>
    have hlen : (s.step (.invalidatePlanner name)).workspace.planners.length =
        s.workspace.planners.length := congrArg List.length hw.planners
    rw [hlen]
    exact h.distinct.enrolled name n hn
  case pool =>
    have hk' : (s.cache.pool.planners.erase name).get? k = some n := hk
    rw [Table.get?_erase] at hk'
    split at hk'
    · cases hk'
    · rename_i hne
      exact hne (h.distinct.injective k name n hk' hn)
  case cached =>
    rw [ContextCache.get?, Session.step, get?_invalidatePlanner] at hc
    split at hc
    · cases hc
    · rename_i hne
      subst heq
      cases he : enabled c.spec.options with
      | false => exact (h.own k c hc he).2 name hn
      | true => exact hne (h.distinct.injective _ _ _ (h.kept k c hc he) hn)

/-! ## 6. The law of sharing -/

/-- **Two contexts share a planner exactly if both want it kept, under one name.**  After every run
of a new cache, over any storage and in any workspace:

1. a cached context whose options want its planner kept has the planner that the pool keeps under
   the configuration of its key, and the planner of any other cached context is not kept at all;
2. contexts cached under different keys have one planner exactly if the options of both want it
   kept and their configurations have one name;
3. a planner that is forgotten is from then on the planner of no cached context. -/
theorem shared_iff_kept_under_one_name (storage : Storage σ) (w : Workspace σ)
    (ops : List Operation) :
    (∀ k c, ((new storage w).run ops).cache.get? k = some c →
      (enabled c.spec.options = true →
        ((new storage w).run ops).cache.pool.planners.get? k.configuration = some c.planner) ∧
      (enabled c.spec.options = false →
        ∀ name, ((new storage w).run ops).cache.pool.planners.get? name ≠ some c.planner)) ∧
    (∀ k k' c c', k ≠ k' → ((new storage w).run ops).cache.get? k = some c →
      ((new storage w).run ops).cache.get? k' = some c' →
      (c.planner = c'.planner ↔ enabled c.spec.options = true ∧ enabled c'.spec.options = true ∧
        k.configuration = k'.configuration)) ∧
    (∀ name n later, ((new storage w).run ops).cache.pool.planners.get? name = some n →
      ∀ k c, ((new storage w).run (ops ++ .invalidatePlanner name :: later)).cache.get? k = some c →
        c.planner ≠ n) := by
  have h := (Shares.new storage w).run ops
  refine ⟨?own, ?shared, ?forgotten⟩
  case own => exact fun k c hc => ⟨h.kept k c hc, fun he => (h.own k c hc he).2⟩
  case shared =>
    intro k k' c c' hk hc hc'
    constructor
    · intro heq
      cases he : enabled c.spec.options with
      | false => exact absurd (h.unshared k k' c c' hc hc' he heq.symm).symm hk
      | true =>
        cases he' : enabled c'.spec.options with
        | false => exact absurd (h.unshared k' k c' c hc' hc he' heq) hk
        | true =>
          have hn := h.kept k c hc he
          have hn' := h.kept k' c' hc' he'
          rw [heq] at hn
          exact ⟨rfl, rfl, h.distinct.injective _ _ _ hn hn'⟩
    · rintro ⟨he, he', hname⟩
      have hn := h.kept k c hc he
      rw [hname, h.kept k' c' hc' he'] at hn
      exact (Option.some.inj hn).symm
  case forgotten =>
    intro name n later hn k c hc
    have hrun : (new storage w).run (ops ++ .invalidatePlanner name :: later) =
        (((new storage w).run ops).step (.invalidatePlanner name)).run later := List.foldl_append
    rw [hrun] at hc
    exact ((h.forgotten hn).run later).cached k c hc

end Session

end ContextCache

/-! ## 7. A sample -/

namespace Sample

/-- What a context is asked for with, from a configuration for a roadmap planner. -/
def source (options : Table String) (f : Representation) : ContextSource where
  configuration := ⟨"arm", "arm", options.insert ContextSource.plannerOption "roadmap"⟩
  representation := f
  planners := ({} : PlannerCatalog).register "roadmap" roadmaps
  limits := {}

/-- One configuration that keeps its planner, in joint space and in pose space. -/
def twoSpaces : List ContextCache.Operation :=
  [.context (source kept .jointModel), .context (source kept (.poseModel ["arm"]))]

end Sample

namespace ContextCache.Session

open Sample

theorem shared_iff_kept_under_one_name_twoSpaces :
    (∃ c c', ((new .memory { contents := ∅ }).run twoSpaces).cache.get?
        ⟨"arm", "arm", "JointModel"⟩ = some c ∧
      ((new .memory { contents := ∅ }).run twoSpaces).cache.get? ⟨"arm", "arm", "PoseModel"⟩ =
        some c' ∧
      ((new .memory { contents := ∅ }).run twoSpaces).cache.pool.planners.get? "arm" =
        some c.planner ∧
      c.planner = c'.planner) ∧
    ∃ c, ((new .memory { contents := ∅ }).run (twoSpaces ++ [.invalidatePlanner "arm",
        .context (source ∅ .jointModel)])).cache.get? ⟨"arm", "arm", "JointModel"⟩ = some c ∧
      c.planner ≠ 0 := by
  obtain ⟨h₁, h₂, h₃⟩ := shared_iff_kept_under_one_name .memory { contents := ∅ } twoSpaces
  refine ⟨⟨_, _, rfl, rfl, (h₁ ⟨"arm", "arm", "JointModel"⟩ _ rfl).1 (by decide), ?shared⟩,
    _, rfl, ?forgotten⟩
  case shared =>
    exact (h₂ ⟨"arm", "arm", "JointModel"⟩ ⟨"arm", "arm", "PoseModel"⟩ _ _ (by decide) rfl rfl).mpr
      ⟨by decide, by decide, rfl⟩
  case forgotten =>
    exact h₃ "arm" 0 [.context (source ∅ .jointModel)] rfl ⟨"arm", "arm", "JointModel"⟩ _ rfl

end ContextCache.Session

end MotionContexts
