/-
# What looking a context up can do

A manager is asked for a context by a configuration's name or by a request, and both come to the
same: either nothing is handed out and NOTHING has changed, or the configuration is in force, one of
the registered representations was chosen for it, and the context cache answered.  `LooksUp` says
so.

Main statements:
* `looksUp_context` and `looksUp_contextForRequest`, the two ways in;
* `failed_resolution_changes_nothing`, a failure leaves everything as it was, inside and outside.
-/
import MotionContexts.Manager
import MotionContexts.Proofs.ContextCache.Answers

namespace MotionContexts

universe u

/-! ## 1. What is chosen -/

theorem Configurations.get?_of_find {cs : Configurations} {name : String} {c : Configuration}
    (h : cs.find name = .ok c) : cs.get? name = some c := by
  unfold find at h
  split at h
  · rename_i c' hc
    cases h
    exact hc
  · cases h

theorem Representation.mem_of_best? {l : List Representation} {f : Representation}
    (h : best? l = some f) :
    f ∈ l := by
  obtain ⟨before, behind, rfl, -, -⟩ := best?_eq_some_iff.mp h
  simp

namespace RepresentationCatalog

theorem mem_of_byType {c : RepresentationCatalog} {t : String} {f : Representation}
    (h : c.byType t = .ok f) : f ∈ c.entries := by
  unfold byType at h
  split at h
  · rename_i g hg
    cases h
    exact List.mem_of_find?_eq_some hg
  · cases h

theorem mem_of_select {c : RepresentationCatalog} {group : String} {request : Request}
    {f : Representation} (h : c.select group request = .ok f) : f ∈ c.entries := by
  unfold select at h
  split at h
  · rename_i g hg
    cases h
    exact (List.mem_filter.mp (Representation.mem_of_best? hg)).1
  · split at h
    · rename_i g hg
      cases h
      exact mem_of_byType hg
    · cases h

/-- Whichever way a representation is chosen, it is a registered one. -/
theorem mem_of_resolve {c : RepresentationCatalog} {group : String} {hint : Option String}
    {request : Request} {f : Representation} (h : c.resolve group hint request = .ok f) :
    f ∈ c.entries := by
  unfold resolve at h
  split at h
  · exact mem_of_select h
  · split at h
    · exact mem_of_select h
    · exact mem_of_byType h

theorem mem_place {f g : Representation} :
    ∀ {l : List Representation}, g ∈ place f l → g = f ∨ g ∈ l
  | [], h => by simpa [place] using h
  | k :: ks, h => by
    unfold place at h
    split at h
    · rcases List.mem_cons.mp h with rfl | h
      · exact .inl rfl
      · exact .inr (List.mem_cons_of_mem _ h)
    · rcases List.mem_cons.mp h with rfl | h
      · exact .inr (List.mem_cons_self ..)
      · exact (mem_place h).imp_right (List.mem_cons_of_mem _)

end RepresentationCatalog

/-! ## 2. The two ways in -/

namespace Manager

variable {σ : Type u}

/-- What asking for the context of a configuration by name may hand out, and the manager and the
workspace that it may leave. -/
inductive LooksUp (m : Manager σ) (name : String) (w : Workspace σ) :
    Option PlanningContext → Manager σ → Workspace σ → Prop
  | refused : LooksUp m name w none m w
  | answered {cfg : Configuration} {f : Representation} {c : PlanningContext}
    {cache : ContextCache σ} {w' : Workspace σ} (hn : m.configurations.get? name = some cfg)
    (hf : f ∈ m.representations.entries)
    (ha : ContextCache.Answers m.cache ⟨cfg, f, m.planners, m.limits⟩ w (.ok c) cache w') :
    LooksUp m name w (some c) { m with cache := cache } w'

theorem LooksUp.configurations {m m' : Manager σ} {name : String} {w w' : Workspace σ}
    {c : Option PlanningContext} (h : LooksUp m name w c m' w') :
    m'.configurations = m.configurations := by
  cases h <;> rfl

theorem LooksUp.representations {m m' : Manager σ} {name : String} {w w' : Workspace σ}
    {c : Option PlanningContext} (h : LooksUp m name w c m' w') :
    m'.representations = m.representations := by
  cases h <;> rfl

theorem LooksUp.planners {m m' : Manager σ} {name : String} {w w' : Workspace σ}
    {c : Option PlanningContext} (h : LooksUp m name w c m' w') : m'.planners = m.planners := by
  cases h <;> rfl

theorem LooksUp.limits {m m' : Manager σ} {name : String} {w w' : Workspace σ}
    {c : Option PlanningContext} (h : LooksUp m name w c m' w') : m'.limits = m.limits := by
  cases h <;> rfl

theorem looksUp_contextFrom {m m' : Manager σ} {cfg : Configuration} {hint : Option String}
    {request : Request} {w w' : Workspace σ} {name : String}
    {result : Except ResolutionError PlanningContext} (hn : m.configurations.get? name = some cfg)
    (h : m.contextFrom cfg hint request w = (result, m', w')) :
    LooksUp m name w result.toOption m' w' := by
  unfold contextFrom at h
  split at h
  · cases h
    exact .refused
  · rename_i f hf
    rcases hc : m.cache.context ⟨cfg, f, m.planners, m.limits⟩ w with ⟨result₁, cache, w₁⟩
    rw [hc] at h
    cases h
    cases result with
    | error e =>
      obtain ⟨rfl, rfl⟩ := ContextCache.context_error hc
      exact .refused
    | ok c =>
      have hmem := RepresentationCatalog.mem_of_resolve hf
      exact .answered hn hmem (ContextCache.answers_of_eq hc)

/-- **A look-up by name.** -/
theorem looksUp_context {m m' : Manager σ} {name : String} {hint : Option String}
    {w w' : Workspace σ} {result : Except ResolutionError PlanningContext}
    (h : m.context name hint w = (result, m', w')) :
    LooksUp m name w result.toOption m' w' := by
  unfold context at h
  split at h
  · cases h
    exact .refused
  · rename_i cfg hn
    exact looksUp_contextFrom (Configurations.get?_of_find hn) h

theorem looksUp_resolve {m m' : Manager σ} {request : Request} {w w' : Workspace σ}
    {result : Except ResolutionError PlanningContext} (h : m.resolve request w = (result, m', w')) :
    LooksUp m request.configurationName w result.toOption m' w' := by
  unfold resolve at h
  split at h
  · cases h
    exact .refused
  · rename_i cfg hn
    exact looksUp_contextFrom (Configurations.get?_of_find hn) h

/-- **A look-up by request**, which means a configuration by its planner identifier. -/
theorem looksUp_contextForRequest {m m' : Manager σ} {scene : Scene} {request : Request}
    {w w' : Workspace σ} {result : Except ErrorCode PlanningContext}
    (h : m.contextForRequest scene request w = (result, m', w')) :
    LooksUp m request.configurationName w result.toOption m' w' := by
  unfold contextForRequest at h
  split at h
  · cases h
    exact .refused
  · split at h <;> rename_i m₁ w₁ hr <;> cases h <;> exact looksUp_resolve hr

/-! ## 3. Failures -/

theorem LooksUp.eq_of_none {m m' : Manager σ} {name : String} {w w' : Workspace σ}
    (h : LooksUp m name w none m' w') : m' = m ∧ w' = w := by
  cases h with
  | refused => exact ⟨rfl, rfl⟩

/-- **A failure leaves everything as it was**: whichever way a context was asked for, and whatever
the cause, the configurations, catalogs, limits, contexts and kept planners are those from before,
and so are the contents of the storages, the planners and the calls on record.  The same holds of
the cache and of the pool by themselves. -/
theorem failed_resolution_changes_nothing :
    (∀ (m m' : Manager σ) (name : String) (hint : Option String) (w w' : Workspace σ)
    (e : ResolutionError),
      m.context name hint w = (.error e, m', w') → m' = m ∧ w' = w) ∧
    (∀ (m m' : Manager σ) (scene : Scene) (request : Request) (w w' : Workspace σ) (e : ErrorCode),
      m.contextForRequest scene request w = (.error e, m', w') → m' = m ∧ w' = w) ∧
    (∀ (cache cache' : ContextCache σ) (s : ContextSource) (w w' : Workspace σ)
    (e : ResolutionError),
      cache.context s w = (.error e, cache', w') → cache' = cache ∧ w' = w) ∧
    (∀ (pool pool' : PlannerPool σ) (family : PlannerFamily) (space : Space) (name : String)
      (config : Table String) (w w' : Workspace σ) (e : ResolutionError),
      pool.allocate family space name config w = (.error e, pool', w') →
        pool' = pool ∧ w' = w) := by
  refine ⟨?named, ?requested, ?cache, ?pool⟩
  case named =>
    intro m m' name hint w w' e h
    exact (looksUp_context h).eq_of_none
  case requested =>
    intro m m' scene request w w' e h
    exact (looksUp_contextForRequest h).eq_of_none
  case cache =>
    intro cache cache' s w w' e h
    exact ContextCache.context_error h
  case pool =>
    intro pool pool' family space name config w w' e h
    exact PlannerPool.allocate_error h

end Manager

/-! ## 4. A sample -/

namespace Sample

/-- The default configuration of a group, for a roadmap planner. -/
def arm (options : Table String) : Configuration :=
  ⟨"arm", "arm", options.insert ContextSource.plannerOption "roadmap"⟩

/-- A manager with one configuration in force. -/
def manager (c : Configuration) : Manager Blobs :=
  ((Manager.new .memory).registerPlanner "roadmap" roadmaps).setConfigurations (.ofList [c])

/-- Options that ask for everything, with ONE flag that cannot be read. -/
def unreadable : Table String := (keptAt "arm.graph").insert Retention.loadKey "perhaps"

def unreadableSource : ContextSource :=
  ⟨arm unreadable, .jointModel, (manager (arm unreadable)).planners, {}⟩

end Sample

open Sample in
theorem failed_resolution_unreadable :
    (∃ e m w, (manager (arm unreadable)).context "arm" none { contents := ∅ } = (.error e, m, w) ∧
      m = manager (arm unreadable) ∧ w = { contents := ∅ }) ∧
    (∃ e m w, (manager (arm unreadable)).contextForRequest (fun _ => true) { group := "arm" }
        { contents := ∅ } = (.error e, m, w) ∧
      m = manager (arm unreadable) ∧ w = { contents := ∅ }) ∧
    (∃ e cache w, (ContextCache.new .memory).context
        unreadableSource { contents := ∅ } = (.error e, cache, w) ∧
      cache = ContextCache.new .memory ∧ w = { contents := ∅ }) ∧
    (∃ e pool w, (PlannerPool.new .memory).allocate roadmaps ⟨"JointModel", "arm"⟩ "arm" unreadable
        { contents := ∅ } = (.error e, pool, w) ∧ pool = .new .memory ∧ w = { contents := ∅ }) := by
  obtain ⟨h₁, h₂, h₃, h₄⟩ := Manager.failed_resolution_changes_nothing
  refine ⟨?named, ?requested, ?cache, ?pool⟩
  case named => exact ⟨_, _, _, rfl, h₁ _ _ "arm" none _ _ _ rfl⟩
  case requested => exact ⟨_, _, _, rfl, h₂ _ _ (fun _ => true) { group := "arm" } _ _ _ rfl⟩
  case cache => exact ⟨_, _, _, rfl, h₃ _ _ unreadableSource _ _ _ rfl⟩
  case pool =>
    exact ⟨_, _, _, rfl, h₄ _ _ roadmaps ⟨"JointModel", "arm"⟩ "arm" unreadable _ _ _ rfl⟩

end MotionContexts
