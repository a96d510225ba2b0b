/-
# No storage decides whether planning works

Planner data may be missing, damaged or out of reach, and it may be impossible to store it.  None of
this is seen in what a manager answers.  Run the same operations on two new managers, over storages
that have nothing to do with each other: operation by operation the two give the same answer, the
same context or the same cause of failure, and their states agree in everything but what the
planners have explored and what the storages were asked.

The proof goes through the layers.  Pools, caches, managers and sessions each have a relation
`Agrees`, and each operation leads from agreeing states to agreeing states with one answer.  The
planners behind the numbers are alike (`Planner.Alike`): made by one family for one space and set up
in the same way.

Main statement: `storage_decides_nothing`.
-/
import MotionContexts.Proofs.Manager.Session
import MotionContexts.Proofs.PlannerPool.Agreement

namespace MotionContexts

universe u v

variable {σ : Type u} {τ : Type v} {among : PlannerFamily → Prop}

/-! ## 1. Caches -/

namespace ContextCache

/-- The caches have the same contexts, with the same numbers, over agreeing pools. -/
structure Agrees (cache : ContextCache σ) (cache' : ContextCache τ) : Prop where
  contexts : cache.contexts = cache'.contexts
  pool : cache.pool.Agrees cache'.pool

variable {cache : ContextCache σ} {cache' : ContextCache τ} {w : Workspace σ} {v : Workspace τ}

/-- Contexts built over two storages are equal, or have failed for one cause. -/
theorem agrees_build {pool : PlannerPool σ} {pool' : PlannerPool τ} (h : pool.Agrees pool')
    (hw : w.Alike among v) (s : ContextSource)
    (hf : ∀ id plannerId f, s.planners.resolve id = .ok (plannerId, f) → among f) :
    (build pool s w).1 = (build pool' s v).1 ∧
      (build pool s w).2.1.Agrees (build pool' s v).2.1 ∧
      (build pool s w).2.2.Alike among (build pool' s v).2.2 := by
  unfold build
  dsimp only
  split
  · exact ⟨rfl, h, hw⟩
  · rename_i limits options hl
    split
    · exact ⟨rfl, h, hw⟩
    · rename_i plannerId family hp
      split
      · exact ⟨rfl, h, hw⟩
      · rename_i space hb
        obtain ⟨hn, hpool, hv⟩ :=
          h.allocate hw (hf _ _ _ hp) space s.configuration.name options
        generalize pool.allocate family space s.configuration.name options w = a at hn hpool hv ⊢
        generalize pool'.allocate family space s.configuration.name options v = a' at hn hpool hv ⊢
        obtain ⟨result, p₁, w₁⟩ := a
        obtain ⟨result', p₂, v₁⟩ := a'
        obtain rfl : result = result' := hn
        cases result with
        | error e => exact ⟨rfl, hpool, hv⟩
        | ok n =>
          obtain ⟨hnumber, hv⟩ := hv.nextContext
          refine ⟨?_, hpool, hv⟩
          dsimp only
          rw [hnumber]

/-- **A cache answers the same over both storages.** -/
theorem Agrees.context (h : cache.Agrees cache') (hw : w.Alike among v) (s : ContextSource)
    (hf : ∀ id plannerId f, s.planners.resolve id = .ok (plannerId, f) → among f) :
    (cache.context s w).1 = (cache'.context s v).1 ∧
      (cache.context s w).2.1.Agrees (cache'.context s v).2.1 ∧
      (cache.context s w).2.2.Alike among (cache'.context s v).2.2 := by
  have hget : cache.contexts.get? s.key = cache'.contexts.get? s.key := by rw [h.contexts]
  unfold ContextCache.context
  rw [hget]
  split
  · exact ⟨rfl, h, hw⟩
  · obtain ⟨hc, hpool, hv⟩ := agrees_build h.pool hw s hf
    generalize build cache.pool s w = b at hc hpool hv ⊢
    generalize build cache'.pool s v = b' at hc hpool hv ⊢
    obtain ⟨result, p₁, w₁⟩ := b
    obtain ⟨result', p₂, v₁⟩ := b'
    obtain rfl : result = result' := hc
    cases result with
    | error e => exact ⟨rfl, ⟨h.contexts, hpool⟩, hv⟩
    | ok c => exact ⟨rfl, ⟨congrArg (·.insert s.key c) h.contexts, hpool⟩, hv⟩

theorem Agrees.invalidatePlanner (h : cache.Agrees cache') (hw : w.Alike among v) (name : String) :
    (cache.invalidatePlanner name w).1 = (cache'.invalidatePlanner name v).1 ∧
      (cache.invalidatePlanner name w).2.1.Agrees (cache'.invalidatePlanner name v).2.1 ∧
      (cache.invalidatePlanner name w).2.2.Alike among (cache'.invalidatePlanner name v).2.2 := by
  obtain ⟨hhad, hpool, hv⟩ := h.pool.invalidate hw name
  have hcontexts := congrArg (·.filterKeys fun k => k.configuration != name) h.contexts
  exact ⟨hhad, ⟨hcontexts, hpool⟩, hv⟩

theorem Agrees.shutdown (h : cache.Agrees cache') (hw : w.Alike among v) :
    (cache.shutdown w).2.1.Agrees (cache'.shutdown v).2.1 ∧
      (cache.shutdown w).2.2.Alike among (cache'.shutdown v).2.2 := by
  obtain ⟨hpool, hv⟩ := h.pool.shutdown hw
  exact ⟨⟨h.contexts, hpool⟩, hv⟩

end ContextCache

/-! ## 2. Managers -/

namespace Manager

/-- The managers have the same settings, over agreeing caches. -/
structure Agrees (m : Manager σ) (m' : Manager τ) : Prop where
  configurations : m.configurations = m'.configurations
  representations : m.representations = m'.representations
  planners : m.planners = m'.planners
  limits : m.limits = m'.limits
  cache : m.cache.Agrees m'.cache

/-- Every registered family is among those in question. -/
def Admits (m : Manager σ) (among : PlannerFamily → Prop) : Prop :=
  ∀ id f, m.planners.families.get? id = some f → among f

variable {m : Manager σ} {m' : Manager τ} {w : Workspace σ} {v : Workspace τ}

theorem Agrees.new (storage : Storage σ) (storage' : Storage τ) :
    (new storage).Agrees (new storage') := ⟨rfl, rfl, rfl, rfl, rfl, .new storage storage'⟩

theorem Agrees.withCache (h : m.Agrees m') {cache : ContextCache σ} {cache' : ContextCache τ}
    (hc : cache.Agrees cache') : Agrees { m with cache := cache } { m' with cache := cache' } :=
  ⟨h.configurations, h.representations, h.planners, h.limits, hc⟩

theorem Agrees.contextFrom (h : m.Agrees m') (hw : w.Alike among v) (hf : m.Admits among)
    (c : Configuration) (hint : Option String) (request : Request) :
    (m.contextFrom c hint request w).1 = (m'.contextFrom c hint request v).1 ∧
      (m.contextFrom c hint request w).2.1.Agrees (m'.contextFrom c hint request v).2.1 ∧
      (m.contextFrom c hint request w).2.2.Alike among (m'.contextFrom c hint request v).2.2 := by
  have hresolve : m.representations.resolve c.group hint request =
      m'.representations.resolve c.group hint request := by rw [h.representations]
  unfold Manager.contextFrom
  rw [hresolve]
  cases m'.representations.resolve c.group hint request with
  | error e => exact ⟨rfl, h, hw⟩
  | ok f =>
    have hplanners : ∀ id plannerId f, m.planners.resolve id = .ok (plannerId, f) → among f :=
      fun id plannerId f hp => hf plannerId f (PlannerCatalog.get?_of_resolve hp)
    obtain ⟨hc, hcache, hv⟩ := h.cache.context hw ⟨c, f, m.planners, m.limits⟩ hplanners
    have hsource : (⟨c, f, m'.planners, m'.limits⟩ : ContextSource) =
        ⟨c, f, m.planners, m.limits⟩ := by rw [h.planners, h.limits]
    dsimp only
    rw [hsource]
    exact ⟨hc, h.withCache hcache, hv⟩

/-- **A look-up by name answers the same over both storages.** -/
theorem Agrees.context (h : m.Agrees m') (hw : w.Alike among v) (hf : m.Admits among)
    (name : String) (hint : Option String) :
    (m.context name hint w).1 = (m'.context name hint v).1 ∧
      (m.context name hint w).2.1.Agrees (m'.context name hint v).2.1 ∧
      (m.context name hint w).2.2.Alike among (m'.context name hint v).2.2 := by
  unfold Manager.context
  rw [h.configurations]
  split
  · exact ⟨rfl, h, hw⟩
  · exact h.contextFrom hw hf _ _ _

theorem Agrees.resolve (h : m.Agrees m') (hw : w.Alike among v) (hf : m.Admits among)
    (request : Request) :
    (m.resolve request w).1 = (m'.resolve request v).1 ∧
      (m.resolve request w).2.1.Agrees (m'.resolve request v).2.1 ∧
      (m.resolve request w).2.2.Alike among (m'.resolve request v).2.2 := by
  unfold Manager.resolve
  rw [h.configurations]
  split
  · exact ⟨rfl, h, hw⟩
  · exact h.contextFrom hw hf _ _ _

/-- **A request is answered the same over both storages.** -/
theorem Agrees.contextForRequest (h : m.Agrees m') (hw : w.Alike among v) (hf : m.Admits among)
    (scene : Scene) (request : Request) :
    (m.contextForRequest scene request w).1 = (m'.contextForRequest scene request v).1 ∧
      (m.contextForRequest scene request w).2.1.Agrees
        (m'.contextForRequest scene request v).2.1 ∧
      (m.contextForRequest scene request w).2.2.Alike among
        (m'.contextForRequest scene request v).2.2 := by
  unfold Manager.contextForRequest
  split
  · exact ⟨rfl, h, hw⟩
  · obtain ⟨hc, hm, hv⟩ := h.resolve hw hf request
    generalize m.resolve request w = r at hc hm hv ⊢
    generalize m'.resolve request v = r' at hc hm hv ⊢
    obtain ⟨result, m₁, w₁⟩ := r
    obtain ⟨result', m₂, v₁⟩ := r'
    obtain rfl : result = result' := hc
    cases result <;> exact ⟨rfl, hm, hv⟩

/-! ## 3. Sessions -/

/-- What an operation answers, where its answer can be told from that of another operation.  What a
shutdown reports is about the storage, and what a planner has explored is not an answer. -/
inductive Answer where
  | context (result : Except ResolutionError PlanningContext)
  | request (result : Except ErrorCode PlanningContext)
  | applied (result : Except DocumentError Unit)
  | forgot (had : Bool)
  | done

namespace Session

/-- The answer of an operation. -/
def answer (s : Session σ) : Operation → Answer
  | .context name hint => .context (s.manager.context name hint s.workspace).1
  | .request scene request =>
    .request (s.manager.contextForRequest scene request s.workspace).1
  | .apply d => .applied (s.manager.configure d).1
  | .invalidatePlanner name => .forgot (s.manager.invalidatePlanner name s.workspace).1
  | _ => .done

/-- The managers agree, the planners are alike, and the families are among those in question. -/
structure Agrees (among : PlannerFamily → Prop) (s : Session σ) (t : Session τ) : Prop where
  manager : s.manager.Agrees t.manager
  workspace : s.workspace.Alike among t.workspace
  admits : s.manager.Admits among

variable {s : Session σ} {t : Session τ}

theorem Agrees.new (storage : Storage σ) (storage' : Storage τ) (c : σ) (c' : τ) :
    Agrees among (new storage { contents := c }) (new storage' { contents := c' }) where
  manager := .new storage storage'
  workspace := ⟨rfl, rfl, fun n p q hp => by cases hp⟩
  admits _ _ hf := by cases hf

/-- Families come in only by registration. -/
theorem Admits.perform (h : s.manager.Admits among) {op : Operation}
    (hop : ∀ id f, op = .registerPlanner id f → among f) :
    (s.perform op).2.manager.Admits among := by
  intro id f hf
  cases op with
  | context name hint =>
    rcases hr : s.manager.context name hint s.workspace with ⟨result, m, w⟩
    rw [Session.perform, hr] at hf
    exact h id f ((looksUp_context hr).planners ▸ hf)
  | request scene request =>
    rcases hr : s.manager.contextForRequest scene request s.workspace with ⟨result, m, w⟩
    rw [Session.perform, hr] at hf
    exact h id f ((looksUp_contextForRequest hr).planners ▸ hf)
  | apply d =>
    rcases ha : s.manager.configure d with ⟨result, m⟩
    rw [Session.perform, ha] at hf
    cases configures_of_eq ha with
    | refused => exact h id f hf
    | applied hcs => exact h id f hf
  | registerPlanner id' g =>
    have hf' : (s.manager.planners.families.insert id' g).get? id = some f := hf
    rw [Table.get?_insert] at hf'
    split at hf'
    · cases hf'
      exact hop id' f rfl
    · exact h id f hf'
  | _ => exact h id f hf

/-- **One operation**: the same answer over both storages, and agreeing states behind it. -/
theorem Agrees.perform (h : Agrees among s t) {op : Operation}
    (hop : ∀ id f, op = .registerPlanner id f → among f) :
    s.answer op = t.answer op ∧ Agrees among (s.perform op).2 (t.perform op).2 := by
  have hadmits := Admits.perform h.admits hop
  cases op with
  | context name hint =>
    obtain ⟨hc, hm, hv⟩ := h.manager.context h.workspace h.admits name hint
    exact ⟨congrArg Answer.context hc, hm, hv, hadmits⟩
  | request scene request =>
    obtain ⟨hc, hm, hv⟩ := h.manager.contextForRequest h.workspace h.admits scene request
    exact ⟨congrArg Answer.request hc, hm, hv, hadmits⟩
  | setConfigurations cs =>
    have hm := h.manager
    exact ⟨rfl, ⟨rfl, hm.representations, hm.planners, hm.limits, rfl, hm.cache.pool⟩,
      h.workspace, hadmits⟩
  | apply d =>
    have hm := h.manager
    simp only [Session.answer, Session.perform, Manager.configure] at hadmits ⊢
    cases d.table with
    | error e => exact ⟨rfl, h⟩
    | ok cs =>
      have hplanners := congrArg (fun c => { c with default := d.defaultPlanner }) hm.planners
      exact ⟨rfl, ⟨rfl, hm.representations, hplanners, rfl, rfl, hm.cache.pool⟩, h.workspace,
        fun id f hf => h.admits id f hf⟩
  | setDefaultPlanner id =>
    have hm := h.manager
    exact ⟨rfl, ⟨hm.configurations, hm.representations,
      congrArg ({ · with default := id }) hm.planners, hm.limits, hm.cache⟩, h.workspace, hadmits⟩
  | setDefaultRepresentation spaceType =>
    have hm := h.manager
    exact ⟨rfl, ⟨hm.configurations, congrArg ({ · with defaultType := spaceType }) hm.representations,
      hm.planners, hm.limits, hm.cache⟩, h.workspace, hadmits⟩
  | setLimits l =>
    have hm := h.manager
    exact ⟨rfl, ⟨hm.configurations, hm.representations, hm.planners, rfl, hm.cache⟩, h.workspace,
      hadmits⟩
  | registerPlanner id f =>
    have hm := h.manager
    exact ⟨rfl, ⟨hm.configurations, hm.representations, congrArg (·.register id f) hm.planners,
      hm.limits, hm.cache⟩, h.workspace, hadmits⟩
  | registerRepresentation f =>
    have hm := h.manager
    exact ⟨rfl, ⟨hm.configurations, congrArg (·.register f) hm.representations, hm.planners,
      hm.limits, hm.cache⟩, h.workspace, hadmits⟩
  | invalidatePlanner name =>
    obtain ⟨hhad, hc, hv⟩ := h.manager.cache.invalidatePlanner h.workspace name
    exact ⟨congrArg Answer.forgot hhad, h.manager.withCache hc, hv, hadmits⟩
  | shutdown =>
    obtain ⟨hc, hv⟩ := h.manager.cache.shutdown h.workspace
    exact ⟨rfl, h.manager.withCache hc, hv, hadmits⟩
  | explore n bytes => exact ⟨rfl, h.manager, h.workspace.explore n bytes, hadmits⟩

theorem Agrees.run {ops : List Operation} (hops : ∀ id f, .registerPlanner id f ∈ ops → among f) :
    ∀ {s : Session σ} {t : Session τ}, Agrees among s t → Agrees among (s.run ops) (t.run ops) := by
  induction ops with
  | nil => exact fun h => h
  | cons op ops ih =>
    intro s t h
    refine ih (fun id f hf => hops id f (List.mem_cons_of_mem _ hf)) ?_
    exact (h.perform fun id f hop => hops id f (hop ▸ List.mem_cons_self ..)).2

end Session

end Manager

/-! ## 4. Causes of failure

A representation may fail for a reason of its own.  As long as that reason is not itself a failure
of a storage, no look-up answers one. -/

/-- The representation does not answer failures of storages. -/
def Representation.WithoutStorage (f : Representation) : Prop :=
  ∀ group e, f.build group = .error e → e.source? = none

theorem Limits.source?_of_override {rest : Table String} {l' : Limits} {e : ResolutionError} :
    ∀ {ks : List LimitKey} {l : Limits} {options : Table String},
      override ks l options = (.error e, l', rest) → e.source? = none
  | [], _, _, h => by cases h
  | k :: ks, l, options, h => by
    unfold override at h
    split at h
    · exact source?_of_override h
    · split at h
      · exact source?_of_override h
      · cases h
        rfl

theorem PlannerCatalog.source?_of_resolve {c : PlannerCatalog} {id : Option String}
    {e : ResolutionError} (h : c.resolve id = .error e) : e.source? = none := by
  unfold resolve at h
  split at h
  · split at h
    · cases h
    · rename_i hf
      cases h
      unfold find at hf
      split at hf <;> cases hf
      rfl
  · cases h
    rfl

theorem RepresentationCatalog.source?_of_byType {c : RepresentationCatalog} {t : String}
    {e : ResolutionError} (h : c.byType t = .error e) : e.source? = none := by
  unfold byType at h
  split at h <;> cases h
  rfl

theorem RepresentationCatalog.source?_of_resolve {c : RepresentationCatalog} {group : String}
    {hint : Option String} {request : Request} {e : ResolutionError}
    (h : c.resolve group hint request = .error e) : e.source? = none := by
  have hselect : ∀ {e}, c.select group request = .error e → e.source? = none := by
    intro e h
    unfold select at h
    split at h
    · cases h
    · split at h <;> cases h
      rfl
  unfold resolve at h
  split at h
  · exact hselect h
  · split at h
    · exact hselect h
    · exact source?_of_byType h

theorem Configurations.source?_of_find {cs : Configurations} {name : String} {e : ResolutionError}
    (h : cs.find name = .error e) : e.source? = none := by
  unfold find at h
  split at h <;> cases h
  rfl

namespace ContextCache

theorem source?_of_build {pool : PlannerPool σ} {s : ContextSource} {w : Workspace σ}
    {e : ResolutionError} (hs : s.representation.WithoutStorage)
    (h : (build pool s w).1 = .error e) : e.source? = none := by
  unfold build at h
  dsimp only at h
  split at h
  · rename_i hl
    cases h
    exact Limits.source?_of_override hl
  · split at h
    · rename_i hp
      cases h
      exact PlannerCatalog.source?_of_resolve hp
    · split at h
      · rename_i hb
        cases h
        exact hs _ _ hb
      · split at h
        · rename_i ha
          cases h
          exact PlannerPool.allocate_error_source? (congrArg Prod.fst ha)
        · cases h

theorem source?_of_context {cache : ContextCache σ} {s : ContextSource} {w : Workspace σ}
    {e : ResolutionError} (hs : s.representation.WithoutStorage)
    (h : (cache.context s w).1 = .error e) : e.source? = none := by
  unfold ContextCache.context at h
  split at h
  · cases h
  · split at h
    · rename_i hb
      cases h
      exact source?_of_build hs (congrArg Prod.fst hb)
    · cases h

end ContextCache

namespace Manager

variable {m : Manager σ} {w : Workspace σ} {e : ResolutionError}

theorem source?_of_contextFrom {c : Configuration} {hint : Option String} {request : Request}
    (hm : ∀ f ∈ m.representations.entries, f.WithoutStorage)
    (h : (m.contextFrom c hint request w).1 = .error e) : e.source? = none := by
  unfold contextFrom at h
  split at h
  · rename_i hr
    cases h
    exact RepresentationCatalog.source?_of_resolve hr
  · rename_i f hr
    exact ContextCache.source?_of_context (hm f (RepresentationCatalog.mem_of_resolve hr)) h

/-- No look-up by name answers a failure of a storage. -/
theorem source?_of_context {name : String} {hint : Option String}
    (hm : ∀ f ∈ m.representations.entries, f.WithoutStorage)
    (h : (m.context name hint w).1 = .error e) : e.source? = none := by
  unfold context at h
  split at h
  · rename_i hn
    cases h
    exact Configurations.source?_of_find hn
  · exact source?_of_contextFrom hm h

/-- No request is answered by the code of a failure of a storage. -/
theorem source?_of_resolve {request : Request}
    (hm : ∀ f ∈ m.representations.entries, f.WithoutStorage)
    (h : (m.resolve request w).1 = .error e) : e.source? = none := by
  unfold resolve at h
  split at h
  · rename_i hn
    cases h
    exact Configurations.source?_of_find hn
  · exact source?_of_contextFrom hm h

namespace Session

/-- Every representation is the one that is there from the start, or was registered. -/
theorem withoutStorage_run {ops : List Operation}
    (hops : ∀ f, .registerRepresentation f ∈ ops → f.WithoutStorage) :
    ∀ {s : Session σ}, (∀ f ∈ s.manager.representations.entries, f.WithoutStorage) →
      ∀ f ∈ (s.run ops).manager.representations.entries, f.WithoutStorage :=
  representations_run hops

/-! ## 5. The theorem -/

/-- **No storage decides whether planning works.**  Run the same operations over any two storages,
with any contents and any failures.  Every further operation is answered the same; the managers
agree in everything that is not the storage; the planners of one number were made by the same
registered family for the same space and were set up in the same way, so if families are uniform
they differ in their seeding and graph at most.  And no look-up and no allocation answers that
loading or storing failed, unless a representation pretends so. -/
theorem storage_decides_nothing (storage : Storage σ) (storage' : Storage τ) (c : σ) (c' : τ)
    (ops : List Operation) :
    let s := (new storage { contents := c }).run ops
    let t := (new storage' { contents := c' }).run ops
    (∀ op, s.answer op = t.answer op) ∧
    s.manager.Agrees t.manager ∧
    s.workspace.Alike (fun f => ∃ id, .registerPlanner id f ∈ ops) t.workspace ∧
    ((∀ id f, .registerPlanner id f ∈ ops → f.Uniform) → ∀ n p q,
      s.workspace.planner? n = some p → t.workspace.planner? n = some q →
        p = q.reseed p.seeded p.graph) ∧
    ((∀ f, .registerRepresentation f ∈ ops → f.WithoutStorage) → ∀ e,
      (∃ name hint, (s.manager.context name hint s.workspace).1 = .error e) ∨
      (∃ request, (s.manager.resolve request s.workspace).1 = .error e) ∨
      (∃ family space name config,
        (s.manager.cache.pool.allocate family space name config s.workspace).1 = .error e) →
      ∀ name path d, e ≠ .loadFailed name path d ∧ e ≠ .storeFailed name path d) := by
  intro s t
  have hrun : Agrees (fun f => ∃ id, .registerPlanner id f ∈ ops) s t :=
    Agrees.run (fun id f h => ⟨id, h⟩) (.new storage storage' c c')
  refine ⟨fun op => ?answers, hrun.manager, hrun.workspace, fun huniform n p q hp hq => ?planners,
    fun hops e h => ?causes⟩
  case answers =>
    have hany : Agrees (fun _ => True) s t :=
      Agrees.run (fun _ _ _ => trivial) (.new storage storage' c c')
    exact (hany.perform fun _ _ _ => trivial).1
  case planners =>
    exact (hrun.workspace.planner n p q hp hq).eq fun f ⟨id, h⟩ => huniform id f h
  case causes =>
    have hm := withoutStorage_run hops (s := new storage { contents := c }) fun f hf => by
      -- a new manager has one representation, which never fails
      obtain rfl : f = .jointModel := List.mem_singleton.mp hf
      exact fun group e h => by cases h
    refine e.source?_eq_none_iff.mp ?_
    rcases h with ⟨name, hint, h⟩ | ⟨request, h⟩ | ⟨family, space, name, config, h⟩
    · exact source?_of_context hm h
    · exact source?_of_resolve hm h
    · exact PlannerPool.allocate_error_source? h

open MotionContexts.Sample in
/-- A planner is kept, and started from data if there is any; it explores, its data is stored, and
it is forgotten. -/
def resumedRun : List Operation :=
  [.registerPlanner "roadmap" resuming, .registerRepresentation (.poseModel ["arm"]),
    .setConfigurations (.ofList [arm (resumedAt "arm.graph")]), .context "arm" none,
    .explore 0 [7], .shutdown, .invalidatePlanner "arm", .context "arm" (some "PoseModel")]

/-- One storage has data for the planner, the other refuses to load it and to store it. -/
theorem storage_decides_nothing_resumedRun :
    let s := (new .memory { contents := Blobs.store ⟨"roadmap", [1]⟩ ⟨"arm.graph"⟩ ∅ }).run
      resumedRun
    let t := (new (.refusing .memory [⟨"arm.graph"⟩] [⟨"arm.graph"⟩]) { contents := ∅ }).run
      resumedRun
    s.answer (.context "arm" none) = t.answer (.context "arm" none) ∧
    s.manager.cache.contexts = t.manager.cache.contexts ∧
    (∃ p q, s.workspace.planner? 0 = some p ∧ t.workspace.planner? 0 = some q ∧
      p.graph = [1, 7] ∧ q.graph = [7] ∧ p.log = q.log) ∧
    ∃ e, (s.manager.context "leg" none s.workspace).1 = .error e ∧
      e ≠ .loadFailed "leg" ⟨"arm.graph"⟩ Storage.refusal := by
  intro s t
  obtain ⟨hanswers, hmanager, -, hplanners, hcauses⟩ := storage_decides_nothing .memory
    (.refusing .memory [⟨"arm.graph"⟩] [⟨"arm.graph"⟩])
    (Blobs.store ⟨"roadmap", [1]⟩ ⟨"arm.graph"⟩ ∅) ∅ resumedRun
  have huniform : ∀ id f, .registerPlanner id f ∈ resumedRun → f.Uniform := by
    intro id f hf
    obtain ⟨-, rfl⟩ : id = "roadmap" ∧ f = Sample.resuming := by simpa [resumedRun] using hf
    intro space data p hp
    cases hp
    rfl
  have hposes : ∀ f, .registerRepresentation f ∈ resumedRun → f.WithoutStorage := by
    intro f hf
    obtain rfl : f = .poseModel ["arm"] := by simpa [resumedRun] using hf
    intro group e he
    unfold Representation.poseModel at he
    dsimp only at he
    split at he <;> cases he
    rfl
  obtain ⟨p, hp, hgraph⟩ : ∃ p, s.workspace.planner? 0 = some p ∧ p.graph = [1, 7] := ⟨_, rfl, rfl⟩
  obtain ⟨q, hq, hgraph'⟩ : ∃ q, t.workspace.planner? 0 = some q ∧ q.graph = [7] := ⟨_, rfl, rfl⟩
  have heq := hplanners huniform 0 p q hp hq
  have hlog : p.log = q.log := by rw [heq, Planner.reseed]
  refine ⟨hanswers _, hmanager.cache.contexts, ⟨p, q, hp, hq, hgraph, hgraph', hlog⟩, _, rfl, ?cause⟩
  case cause => exact (hcauses hposes _ (.inl ⟨"leg", none, rfl⟩) "leg" ⟨"arm.graph"⟩ _).1

end Session

end Manager

end MotionContexts
