/-
# A manager at work

A `Session` is a manager together with the workspace it works in, and an `Operation` is what may
happen to them, successful or not.  Performing one may hand out a context; the contexts that a run
hands out, in their order, are what its user has seen.

However many operations there are, for the contexts and the kept planners they come to SIX effects:
a context was looked up, the contexts were dropped with the configurations, only settings were
changed, a kept planner was forgotten, data was stored, a planner explored.

Main statements:
* `effect_perform`, each operation has one of the six effects;
* `configurations_perform` and `representations_perform`, where configurations and representations
  come from.
-/
import MotionContexts.Proofs.Manager.LookUp
import MotionContexts.Proofs.PlannerPool.Flush

namespace MotionContexts.Manager

universe u

/-- What may happen to a manager and to the planners in the hands of its users. -/
inductive Operation where
  | context (name : String) (hint : Option String)
  | request (scene : Scene) (request : Request)
  | setConfigurations (cs : Configurations)
  | apply (d : ManagerDocument)
  | setDefaultPlanner (id : Option String)
  | setDefaultRepresentation (spaceType : String)
  | setLimits (l : Limits)
  | registerPlanner (id : String) (f : PlannerFamily)
  | registerRepresentation (f : Representation)
  | invalidatePlanner (name : String)
  | shutdown
  | explore (n : Nat) (bytes : List UInt8)

/-- A manager and the workspace it works in. -/
structure Session (σ : Type u) where
  manager : Manager σ
  workspace : Workspace σ

namespace Session

variable {σ : Type u}

/-! ## 1. Runs -/

/-- A new manager in a workspace. -/
def new (storage : Storage σ) (w : Workspace σ) : Session σ := ⟨.new storage, w⟩

/-- One operation: the context that it hands out, if it hands one out, and what it leaves. -/
def perform (s : Session σ) : Operation → Option PlanningContext × Session σ
  | .context name hint =>
    let (result, m, w) := s.manager.context name hint s.workspace
    (result.toOption, ⟨m, w⟩)
  | .request scene request =>
    let (result, m, w) := s.manager.contextForRequest scene request s.workspace
    (result.toOption, ⟨m, w⟩)
  | .setConfigurations cs => (none, { s with manager := s.manager.setConfigurations cs })
  | .apply d => (none, { s with manager := (s.manager.configure d).2 })
  | .setDefaultPlanner id => (none, { s with manager := s.manager.setDefaultPlanner id })
  | .setDefaultRepresentation t =>
    (none, { s with manager := s.manager.setDefaultRepresentation t })
  | .setLimits l => (none, { s with manager := s.manager.setLimits l })
  | .registerPlanner id f => (none, { s with manager := s.manager.registerPlanner id f })
  | .registerRepresentation f => (none, { s with manager := s.manager.registerRepresentation f })
  | .invalidatePlanner name =>
    let (_, m, w) := s.manager.invalidatePlanner name s.workspace
    (none, ⟨m, w⟩)
  | .shutdown =>
    let (_, m, w) := s.manager.shutdown s.workspace
    (none, ⟨m, w⟩)
  | .explore n bytes => (none, { s with workspace := (s.workspace.explore n bytes).2 })

/-- One operation after the other. -/
def run (s : Session σ) : List Operation → Session σ
  | [] => s
  | op :: ops => (s.perform op).2.run ops

theorem run_append (s : Session σ) (ops more : List Operation) :
    s.run (ops ++ more) = (s.run ops).run more := by
  induction ops generalizing s with
  | nil => rfl
  | cons op ops ih => exact ih _

/-- The state after the first operations of a run, so many of them. -/
def after (s : Session σ) (ops : List Operation) (k : Nat) : Session σ := s.run (ops.take k)

theorem after_succ (s : Session σ) {ops : List Operation} {k : Nat} {op : Operation}
    (h : ops[k]? = some op) : s.after ops (k + 1) = ((s.after ops k).perform op).2 := by
  unfold after
  rw [List.take_add_one, h, Option.toList_some, run_append]
  rfl

/-- The contexts that a run hands out, in order. -/
def handedOut (s : Session σ) : List Operation → List PlanningContext
  | [] => []
  | op :: ops => (s.perform op).1.toList ++ (s.perform op).2.handedOut ops

/-! ## 2. The six effects -/

/-- What an operation may hand out and leave. -/
inductive Effect (s : Session σ) : Option PlanningContext → Session σ → Prop
  | looked {name : String} {c : Option PlanningContext} {m : Manager σ} {w : Workspace σ}
    (h : LooksUp s.manager name s.workspace c m w) : Effect s c ⟨m, w⟩
  /-- Other configurations came into force. -/
  | replaced {m : Manager σ} (h : m.cache = s.manager.cache.clear) : Effect s none ⟨m, s.workspace⟩
  /-- Settings for contexts to come were changed. -/
  | adjusted {m : Manager σ} (hc : m.configurations = s.manager.configurations)
    (h : m.cache = s.manager.cache) : Effect s none ⟨m, s.workspace⟩
  | forgot (name : String) : Effect s none
    ⟨{ s.manager with cache := (s.manager.cache.invalidatePlanner name s.workspace).2.1 },
      (s.manager.cache.invalidatePlanner name s.workspace).2.2⟩
  | stored : Effect s none
    ⟨{ s.manager with cache := (s.manager.cache.shutdown s.workspace).2.1 },
      (s.manager.cache.shutdown s.workspace).2.2⟩
  | explored (n : Nat) (bytes : List UInt8) :
    Effect s none ⟨s.manager, (s.workspace.explore n bytes).2⟩

/-- What applying a document may answer, and the manager that it leaves. -/
inductive Configures (m : Manager σ) (d : ManagerDocument) :
    Except DocumentError Unit → Manager σ → Prop
  | refused {e : DocumentError} (h : d.table = .error e) : Configures m d (.error e) m
  | applied {cs : Configurations} (h : d.table = .ok cs) : Configures m d (.ok ())
    (((m.setLimits d.limits).setDefaultPlanner d.defaultPlanner).setConfigurations cs)

/-- A document is applied as a whole or not at all. -/
theorem configures_of_eq {m m' : Manager σ} {d : ManagerDocument}
    {result : Except DocumentError Unit} (h : m.configure d = (result, m')) :
    Configures m d result m' := by
  unfold configure at h
  split at h
  · rename_i he
    cases h
    exact .refused he
  · rename_i hcs
    cases h
    exact .applied hcs

/-- **Each operation has one of the six effects.** -/
theorem effect_perform (s : Session σ) (op : Operation) :
    Effect s (s.perform op).1 (s.perform op).2 := by
  cases op with
  | context name hint =>
    rcases h : s.manager.context name hint s.workspace with ⟨result, m, w⟩
    rw [perform, h]
    exact .looked (looksUp_context h)
  | request scene request =>
    rcases h : s.manager.contextForRequest scene request s.workspace with ⟨result, m, w⟩
    rw [perform, h]
    exact .looked (looksUp_contextForRequest h)
  | setConfigurations cs => exact .replaced rfl
  | apply d =>
    rcases h : s.manager.configure d with ⟨result, m⟩
    rw [perform, h]
    cases configures_of_eq h with
    | refused => exact .adjusted rfl rfl
    | applied hcs => exact .replaced rfl
  | setDefaultPlanner id => exact .adjusted rfl rfl
  | setDefaultRepresentation t => exact .adjusted rfl rfl
  | setLimits l => exact .adjusted rfl rfl
  | registerPlanner id f => exact .adjusted rfl rfl
  | registerRepresentation f => exact .adjusted rfl rfl
  | invalidatePlanner name => exact .forgot name
  | shutdown => exact .stored
  | explore n bytes => exact .explored n bytes

/-! ## 3. Where settings come from -/

/-- **Configurations come into force only as a whole**, passed in or taken from a document. -/
theorem configurations_perform (s : Session σ) (op : Operation) :
    (s.perform op).2.manager.configurations = s.manager.configurations ∨
      op = .setConfigurations (s.perform op).2.manager.configurations ∨
      ∃ d, op = .apply d ∧ d.table = .ok (s.perform op).2.manager.configurations := by
  cases op with
  | context name hint =>
    rcases h : s.manager.context name hint s.workspace with ⟨result, m, w⟩
    rw [perform, h]
    exact .inl (looksUp_context h).configurations
  | request scene request =>
    rcases h : s.manager.contextForRequest scene request s.workspace with ⟨result, m, w⟩
    rw [perform, h]
    exact .inl (looksUp_contextForRequest h).configurations
  | setConfigurations cs => exact .inr (.inl rfl)
  | apply d =>
    rcases h : s.manager.configure d with ⟨result, m⟩
    rw [perform, h]
    cases configures_of_eq h with
    | refused => exact .inl rfl
    | applied hcs => exact .inr (.inr ⟨d, rfl, hcs⟩)
  | _ => exact .inl rfl

/-- **Representations come in only by registration.** -/
theorem representations_perform {s : Session σ} {op : Operation} {f : Representation}
    (h : f ∈ (s.perform op).2.manager.representations.entries) :
    f ∈ s.manager.representations.entries ∨ op = .registerRepresentation f := by
  cases op with
  | context name hint =>
    rcases hr : s.manager.context name hint s.workspace with ⟨result, m, w⟩
    rw [perform, hr] at h
    exact .inl ((looksUp_context hr).representations ▸ h)
  | request scene request =>
    rcases hr : s.manager.contextForRequest scene request s.workspace with ⟨result, m, w⟩
    rw [perform, hr] at h
    exact .inl ((looksUp_contextForRequest hr).representations ▸ h)
  | apply d =>
    rcases ha : s.manager.configure d with ⟨result, m⟩
    rw [perform, ha] at h
    cases configures_of_eq ha with
    | refused => exact .inl h
    | applied hcs => exact .inl h
  | registerRepresentation g =>
    rcases RepresentationCatalog.mem_place h with rfl | h
    · exact .inr rfl
    · exact .inl h
  | _ => exact .inl h

/-- What holds of the representations that are there, and of those that a run registers, holds of
all that are there behind the run. -/
theorem representations_run {P : Representation → Prop} {ops : List Operation}
    (hops : ∀ f, .registerRepresentation f ∈ ops → P f) :
    ∀ {s : Session σ}, (∀ f ∈ s.manager.representations.entries, P f) →
      ∀ f ∈ (s.run ops).manager.representations.entries, P f := by
  induction ops with
  | nil => exact fun hs => hs
  | cons op ops ih =>
    intro s hs
    refine ih (fun f hf => hops f (List.mem_cons_of_mem _ hf)) fun f hf => ?_
    rcases representations_perform hf with h | rfl
    · exact hs f h
    · exact hops f (List.mem_cons_self ..)

/-! ## 4. A sample -/

open MotionContexts.Sample

/-- A manager is set up for one configuration that keeps its planner, and for both kinds of space;
the context in joint space is looked up. -/
def posedRun : List Operation :=
  [.registerPlanner "roadmap" roadmaps, .registerRepresentation (.poseModel ["arm"]),
    .setConfigurations (.ofList [arm kept]), .context "arm" none]

end Session

end MotionContexts.Manager
