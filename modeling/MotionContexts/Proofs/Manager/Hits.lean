/-
# Cache hits are stable

Between two look-ups a manager may be told anything.  Only three operations take a context out of
the cache: new configurations, a document that is applied, and forgetting the planner of the
context's configuration.  As long as none of them happens, what was handed out under a key is
handed out again, whichever way it is asked for, and NOTHING is done for it: no planner is made and
no data is loaded or stored.

It takes one fact about one key: behind an operation a context is cached under it if the operation
looked it up, or if it was cached before and the operation does not drop it (`get?_perform`).  Over
a run, a context is cached exactly if it was looked up and not dropped since (`get?_after`); so the
cache holds as many contexts as there are keys of this kind, failed look-ups and all other
operations left aside.

Main statement: `hits_are_stable`, for every run of a new manager.
-/
import MotionContexts.Proofs.Manager.Layers

namespace MotionContexts

universe u

/-! ## 1. One key of a cache -/

namespace ContextCache

variable {σ : Type u}

/-- Whether the operation takes the context of the key out of the cache. -/
def Operation.Drops : Operation → ContextKey → Prop
  | .clear, _ => True
  | .invalidatePlanner name, k => k.configuration = name
  | _, _ => False

/-- What is there is handed out, and that is all. -/
theorem context_of_cached {cache : ContextCache σ} {source : ContextSource} {c : PlanningContext}
    (h : cache.get? source.key = some c) (w : Workspace σ) :
    cache.context source w = (.ok c, cache, w) := by
  have hc : cache.contexts.get? source.key = some c := h
  unfold context
  rw [hc]

/-- Behind a look-up there is what it handed out, and what was there. -/
theorem get?_context (cache : ContextCache σ) (source : ContextSource) (w : Workspace σ)
    (k : ContextKey) (c : PlanningContext) :
    (cache.context source w).2.1.get? k = some c ↔
      (source.key = k ∧ (cache.context source w).1.toOption = some c) ∨
        cache.get? k = some c := by
  rcases h : cache.context source w with ⟨result, cache', w'⟩
  cases answers_of_eq h with
  | @cached d hd =>
    refine ⟨.inr, fun hor => ?_⟩
    rcases hor with ⟨rfl, hcd⟩ | hc
    · cases hcd
      exact hd
    · exact hc
  | failed =>
    refine ⟨.inr, fun hor => ?_⟩
    rcases hor with ⟨-, he⟩ | hc
    · cases he
    · exact hc
  | @built d pool _ hnone _ =>
    constructor
    · intro hc
      rcases Session.get?_insert_cases hc with ⟨rfl, rfl⟩ | ⟨-, hc⟩
      · exact .inl ⟨rfl, rfl⟩
      · exact .inr hc
    · rintro (⟨rfl, hcd⟩ | hc)
      · cases hcd
        exact KeyedList.get?_insert_self ..
      · have hne : k ≠ source.key := by
          rintro rfl
          rw [ContextCache.get?, hnone] at hc
          cases hc
        show (cache.contexts.insert source.key d).get? k = some c
        rw [KeyedList.get?_insert, if_neg hne]
        exact hc

/-- **What an operation does to one key of a cache.** -/
theorem Session.get?_step (s : Session σ) (op : Operation) (k : ContextKey) (c : PlanningContext) :
    (s.step op).cache.get? k = some c ↔
      (∃ source, op = .context source ∧ source.key = k ∧ s.handsOut? op = some c) ∨
        (¬ op.Drops k ∧ s.cache.get? k = some c) := by
  cases op with
  | context source =>
    rw [show (s.step (.context source)).cache = (s.cache.context source s.workspace).2.1 from rfl,
      get?_context]
    constructor
    · rintro (⟨hk, hc⟩ | hc)
      · exact .inl ⟨source, rfl, hk, hc⟩
      · exact .inr ⟨id, hc⟩
    · rintro (⟨_, ⟨⟩, hk, hc⟩ | ⟨-, hc⟩)
      · exact .inl ⟨hk, hc⟩
      · exact .inr hc
  | clear =>
    constructor
    · intro hc
      cases hc
    · rintro (⟨_, ⟨⟩, -⟩ | ⟨hno, -⟩)
      exact absurd trivial hno
  | invalidatePlanner name =>
    rw [show (s.step (.invalidatePlanner name)).cache =
      (s.cache.invalidatePlanner name s.workspace).2.1 from rfl, ContextCache.get?,
      get?_invalidatePlanner]
    constructor
    · intro hc
      split at hc
      · cases hc
      · rename_i hne
        exact .inr ⟨hne, hc⟩
    · rintro (⟨_, ⟨⟩, -⟩ | ⟨hno, hc⟩)
      have hne : ¬ k.configuration = name := hno
      rw [if_neg hne]
      exact hc
  | _ =>
    constructor
    · exact fun hc => .inr ⟨id, hc⟩
    · rintro (⟨_, ⟨⟩, -⟩ | ⟨-, hc⟩)
      exact hc

end ContextCache

namespace Manager

variable {σ : Type u}

/-! ## 2. One key of a manager -/

/-- Whether the operation takes the context of the key out of the cache. -/
def Operation.Drops : Operation → ContextKey → Prop
  | .setConfigurations _, _ => True
  | .apply d, _ => d.table.isOk = true
  | .invalidatePlanner name, k => k.configuration = name
  | _, _ => False

namespace Session

/-- The key that an operation looks a context up under: the group and the name of the configuration
that it finds, and the type of the representation that is chosen for it.  There is none if it looks
no context up, or fails before it gets to the cache. -/
def key? (s : Session σ) (op : Operation) : Option ContextKey :=
  (s.sought? op).map fun e => (s.manager.source e.1 e.2).key

/-- An operation that looks a context up does not drop any. -/
theorem not_drops_of_sought {s : Session σ} {op : Operation} {e : Configuration × Representation}
    (h : s.sought? op = some e) (k : ContextKey) : ¬ op.Drops k := by
  cases op with
  | context name hint => exact id
  | request scene request => exact id
  | _ => cases h

/-- What an operation drops is what it drops from the cache. -/
theorem drops_cacheOperation (s : Session σ) (op : Operation) (k : ContextKey) :
    (s.cacheOperation op).Drops k ↔ op.Drops k := by
  cases hs : s.sought? op with
  | some e =>
    rw [cacheOperation_of_sought hs]
    exact ⟨False.elim, fun h => absurd h (not_drops_of_sought hs k)⟩
  | none =>
    rw [cacheOperation_of_not_sought hs]
    cases op with
    | apply d =>
      rw [plainOperation, Operation.Drops]
      split
      · rename_i h
        exact ⟨fun _ => h, fun _ => trivial⟩
      · rename_i h
        exact ⟨False.elim, fun hd => h hd⟩
    | _ => exact Iff.rfl

/-- An operation looks a context up under a key exactly if its cache does. -/
theorem key?_eq_some_iff {s : Session σ} {op : Operation} {k : ContextKey} :
    s.key? op = some k ↔ ∃ source, s.cacheOperation op = .context source ∧ source.key = k := by
  unfold key?
  cases hs : s.sought? op with
  | some e =>
    rw [cacheOperation_of_sought hs]
    constructor
    · rintro ⟨⟩
      exact ⟨_, rfl, rfl⟩
    · rintro ⟨_, ⟨⟩, rfl⟩
      rfl
  | none =>
    rw [cacheOperation_of_not_sought hs]
    constructor
    · intro h
      cases h
    · rintro ⟨source, h, -⟩
      cases op with
      | apply d =>
        rw [plainOperation] at h
        split at h <;> cases h
      | _ => cases h

/-- **What an operation does to one key**: a context is cached under it if it was looked up just
now, or if it was cached before and is not dropped. -/
theorem get?_perform (s : Session σ) (op : Operation) (k : ContextKey) (c : PlanningContext) :
    (s.perform op).2.manager.cache.get? k = some c ↔
      (s.key? op = some k ∧ (s.perform op).1 = some c) ∨
        (¬ op.Drops k ∧ s.manager.cache.get? k = some c) := by
  have hcache : (s.perform op).2.manager.cache = (s.cached.step (s.cacheOperation op)).cache :=
    congrArg ContextCache.Session.cache (s.cached_perform op)
  rw [hcache, ContextCache.Session.get?_step, drops_cacheOperation, handsOut?_cacheOperation,
    key?_eq_some_iff]
  constructor
  · rintro (⟨source, hop, hk, hc⟩ | hold)
    · exact .inl ⟨⟨source, hop, hk⟩, hc⟩
    · exact .inr hold
  · rintro (⟨⟨source, hop, hk⟩, hc⟩ | hold)
    · exact .inl ⟨source, hop, hk, hc⟩
    · exact .inr hold

/-- **A hit does nothing** but hand out what is cached. -/
theorem perform_of_cached {s : Session σ} {op : Operation} {k : ContextKey} {c : PlanningContext}
    (hk : s.key? op = some k) (hc : s.manager.cache.get? k = some c) : s.perform op = (some c, s) := by
  unfold key? at hk
  cases hs : s.sought? op with
  | none =>
    rw [hs] at hk
    cases hk
  | some e =>
    rw [hs] at hk
    cases hk
    rw [perform_of_sought hs, ask, ContextCache.context_of_cached hc]
    rfl

/-! ## 3. One key over a run -/

/-- At the operation `i` of a run the context was looked up under the key. -/
def LooksUpAt (s : Session σ) (ops : List Operation) (k : ContextKey) (c : PlanningContext)
    (i : Nat) : Prop :=
  ∃ op, ops[i]? = some op ∧ (s.after ops i).key? op = some k ∧
    ((s.after ops i).perform op).1 = some c

/-- No operation between `i` and `j` drops the key. -/
def Undisturbed (ops : List Operation) (k : ContextKey) (i j : Nat) : Prop :=
  ∀ m op, i < m → m < j → ops[m]? = some op → ¬ op.Drops k

theorem Undisturbed.succ_iff {ops : List Operation} {k : ContextKey} {i j : Nat} {op : Operation}
    (hop : ops[j]? = some op) (hij : i < j) :
    Undisturbed ops k i (j + 1) ↔ Undisturbed ops k i j ∧ ¬ op.Drops k := by
  constructor
  · intro h
    exact ⟨fun m op him hmj => h m op him (by omega), h j op hij (by omega) hop⟩
  · rintro ⟨h, hno⟩ m op' him hmj hop'
    rcases Nat.lt_or_eq_of_le (Nat.le_of_lt_succ hmj) with hlt | rfl
    · exact h m op' him hlt hop'
    · rw [hop] at hop'
      cases hop'
      exact hno

/-- Nothing is between an operation and the next. -/
theorem Undisturbed.self_succ (ops : List Operation) (k : ContextKey) (i : Nat) :
    Undisturbed ops k i (i + 1) := fun m _ him hmj => by omega

/-- **What is cached is what was looked up and not dropped since.** -/
theorem get?_after {s : Session σ} (hs : ∀ k, s.manager.cache.get? k = none) (ops : List Operation)
    (k : ContextKey) (c : PlanningContext) {j : Nat} (hj : j ≤ ops.length) :
    (s.after ops j).manager.cache.get? k = some c ↔
      ∃ i, i < j ∧ s.LooksUpAt ops k c i ∧ Undisturbed ops k i j := by
  induction j with
  | zero =>
    refine ⟨fun h => ?_, fun ⟨i, hi, _⟩ => absurd hi (Nat.not_lt_zero i)⟩
    rw [show s.after ops 0 = s from rfl, hs k] at h
    cases h
  | succ j ih =>
    have hop : ops[j]? = some ops[j] := List.getElem?_eq_getElem hj
    rw [s.after_succ hop, get?_perform, ih (Nat.le_of_succ_le hj)]
    constructor
    · rintro (⟨hk, hc⟩ | ⟨hno, i, hij, hl, hu⟩)
      · exact ⟨j, Nat.lt_succ_self j, ⟨_, hop, hk, hc⟩, .self_succ ops k j⟩
      · exact ⟨i, Nat.lt_succ_of_lt hij, hl, (Undisturbed.succ_iff hop hij).mpr ⟨hu, hno⟩⟩
    · rintro ⟨i, hij, hl, hu⟩
      -- the last look-up that counts is this very operation, or an earlier one
      rcases Nat.lt_or_eq_of_le (Nat.le_of_lt_succ hij) with hlt | rfl
      · obtain ⟨hu, hno⟩ := (Undisturbed.succ_iff hop hlt).mp hu
        exact .inr ⟨hno, i, hlt, hl, hu⟩
      · obtain ⟨op, hop', hk, hc⟩ := hl
        obtain rfl : op = ops[i] := Option.some.inj (hop'.symm.trans hop)
        exact .inl ⟨hk, hc⟩

/-! ## 4. The theorem -/

/-- The keys of a cache, each once. -/
theorem exists_keys (cache : ContextCache σ) :
    ∃ keys : List ContextKey, keys.Nodup ∧ (∀ k, k ∈ keys ↔ ∃ c, cache.get? k = some c) ∧
      cache.size = keys.length := by
  refine ⟨cache.contexts.entries.map (·.1), cache.contexts.nodup, fun k => ?_,
    (List.length_map ..).symm⟩
  rw [← KeyedList.contains_iff_mem_keys, KeyedList.contains, Option.isSome_iff_exists]
  rfl

/-- **Cache hits are stable.**  In every run of a new manager: once a context was looked up, each
later operation that looks up its key, by name or by request, hands out the SAME context, as long as
no operation in between drops the key; and it leaves manager and workspace as they are, so no
context is built, no planner made, and no call of a storage added to those on record.  At every
moment of the run the manager has exactly as many contexts as there are keys that were looked up and
not dropped since. -/
theorem hits_are_stable (storage : Storage σ) (w : Workspace σ) (ops : List Operation) :
    (∀ i j k c, i < j → j ≤ ops.length → (new storage w).LooksUpAt ops k c i →
      Undisturbed ops k i j → ∀ op, ((new storage w).after ops j).key? op = some k →
        ((new storage w).after ops j).perform op = (some c, (new storage w).after ops j)) ∧
    (∀ j, j ≤ ops.length → ∃ keys : List ContextKey, keys.Nodup ∧
      (∀ k, k ∈ keys ↔
        ∃ c i, i < j ∧ (new storage w).LooksUpAt ops k c i ∧ Undisturbed ops k i j) ∧
      ((new storage w).after ops j).manager.cache.size = keys.length) := by
  have hnew : ∀ k, (new storage w).manager.cache.get? k = none := fun _ => rfl
  refine ⟨?hits, fun j hj => ?size⟩
  case hits =>
    intro i j k c hij hj hl hu op hk
    exact perform_of_cached hk ((get?_after hnew ops k c hj).mpr ⟨i, hij, hl, hu⟩)
  case size =>
    obtain ⟨keys, hnodup, hmem, hsize⟩ := exists_keys ((new storage w).after ops j).manager.cache
    refine ⟨keys, hnodup, fun k => (hmem k).trans ?_, hsize⟩
    exact exists_congr fun c => get?_after hnew ops k c hj

/-! ## 5. A sample -/

open MotionContexts.Sample

/-- A context is looked up; then settings change, a look-up fails, the planner of another
configuration is forgotten, and the manager is shut down. -/
def busyRun : List Operation :=
  [.registerPlanner "roadmap" roadmaps, .setConfigurations (.ofList [arm kept]),
    .context "arm" none, .setLimits {}, .registerPlanner "roadmap" resuming,
    .setDefaultPlanner (some "tree"), .context "leg" none, .invalidatePlanner "leg", .shutdown]

theorem undisturbed_busyRun : Undisturbed busyRun ⟨"arm", "arm", "JointModel"⟩ 2 9 := by
  intro m op hlow hhigh hop
  have hmem : op ∈ busyRun.drop 3 := by
    have hdrop : (busyRun.drop 3)[m - 3]? = some op := by
      rw [List.getElem?_drop, show 3 + (m - 3) = m by omega]
      exact hop
    exact List.mem_of_getElem? hdrop
  simp only [busyRun, List.drop_succ_cons, List.drop_zero, List.mem_cons, List.not_mem_nil,
    or_false] at hmem
  rcases hmem with rfl | rfl | rfl | rfl | rfl | rfl <;> simp [Operation.Drops]

theorem hits_are_stable_busyRun :
    ∃ c, (((new .memory { contents := ∅ }).after busyRun 2).perform (.context "arm" none)).1 =
        some c ∧
      ((new .memory { contents := ∅ }).after busyRun 9).perform
          (.request (fun _ => true) { group := "arm", representation := some "JointModel" }) =
        (some c, (new .memory { contents := ∅ }).after busyRun 9) := by
  obtain ⟨hits, -⟩ := hits_are_stable .memory { contents := ∅ } busyRun
  refine ⟨_, rfl, hits 2 9 ⟨"arm", "arm", "JointModel"⟩ _ (by decide) (by decide) ?looked
    undisturbed_busyRun _ rfl⟩
  case looked => exact ⟨_, rfl, rfl, rfl⟩

end Session

end Manager

end MotionContexts
