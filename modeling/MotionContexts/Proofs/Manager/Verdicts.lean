/-
# How a request is answered

A request comes to its answer through eight questions, and the first one that is answered badly
decides: does the scene know the group, is there a configuration of the name, is there a
representation, is the context cached; and if it is not, can the limits be overridden, is there a
planner, can the space be built, can the options about keeping the planner be read.

Each question is put about the manager, the scene and the request as they are BEFORE the answer,
in words of its own (`RepresentationCatalog.Lacks`, `BuildStep.Fails`).  A context that is cached
cuts the questions short: from there on nothing can go wrong, even where building the context would
fail by now.

Main statements:
* `RepresentationCatalog.resolve_cases`, when there is no representation;
* `ContextCache.context_cases`, the answers of a cache;
* `verdict`, one case for each answer a request may get;
* `requests_classified`, the answers of a manager behind any run.
-/
import MotionContexts.Proofs.ContextCache.Failing
import MotionContexts.Proofs.Manager.EntryPoints
import MotionContexts.Proofs.Representation.Selection

namespace MotionContexts

universe u

/-! ## 1. Whether there is a representation -/

namespace RepresentationCatalog

variable {c : RepresentationCatalog}

/-- There is no representation to take: the type that is named is not registered; or none is named,
none can represent the request, and the default type is not registered. -/
def Lacks (c : RepresentationCatalog) (group : String) (hint : Option String) (request : Request) :
    Prop :=
  (∃ t, hint = some t ∧ t ≠ "" ∧ t ∉ c.types) ∨
  ((hint = none ∨ hint = some "") ∧ (∀ f ∈ c.entries, f.canRepresent group request = false) ∧
    c.defaultType ∉ c.types)

theorem byType_cases (c : RepresentationCatalog) (t : String) :
    (t ∉ c.types ∧ c.byType t = .error (.unknownRepresentation t)) ∨
      (t ∈ c.types ∧ ∃ f ∈ c.entries, c.byType t = .ok f) := by
  by_cases ht : t ∈ c.types
  · refine .inr ⟨ht, ?_⟩
    cases h : c.byType t with
    | ok f => exact ⟨f, mem_of_byType h, rfl⟩
    | error e =>
      have he : e = .unknownRepresentation t := by
        unfold byType at h
        split at h <;> cases h
        rfl
      exact absurd ht ((byType_eq_error_iff c t).mp (he ▸ h))
  · exact .inl ⟨ht, (byType_eq_error_iff c t).mpr ht⟩

/-- Nothing can be taken for a request that names no type exactly if nothing can represent it and
the default type is not registered. -/
theorem select_cases_of_default (c : RepresentationCatalog) (group : String) (request : Request) :
    (((∀ f ∈ c.entries, f.canRepresent group request = false) ∧ c.defaultType ∉ c.types) ∧
      c.select group request = .error (.noSuitableRepresentation group)) ∨
    (((∃ f ∈ c.entries, f.canRepresent group request = true) ∨ c.defaultType ∈ c.types) ∧
      ∃ f ∈ c.entries, c.select group request = .ok f) := by
  unfold select
  cases hbest : Representation.best? (c.entries.filter fun f => f.canRepresent group request) with
  | some f =>
    obtain ⟨hf, hcan⟩ := List.mem_filter.mp (Representation.mem_of_best? hbest)
    exact .inr ⟨.inl ⟨f, hf, hcan⟩, f, hf, rfl⟩
  | none =>
    rw [Representation.best?_eq_none_iff, List.filter_eq_nil_iff] at hbest
    dsimp only
    rcases c.byType_cases c.defaultType with ⟨hdefault, h⟩ | ⟨hdefault, f, hf, h⟩
    · rw [h]
      exact .inl ⟨⟨fun f hf => by simpa using hbest f hf, hdefault⟩, rfl⟩
    · rw [h]
      exact .inr ⟨.inr hdefault, f, hf, rfl⟩

/-- **A representation is chosen** exactly if there is one to take. -/
theorem resolve_cases (c : RepresentationCatalog) (group : String) (hint : Option String)
    (request : Request) :
    (c.Lacks group hint request ∧
      ∃ e, c.resolve group hint request = .error e ∧ e.code = .representationNotFound) ∨
    (¬ c.Lacks group hint request ∧ ∃ f ∈ c.entries, c.resolve group hint request = .ok f) := by
  -- a type that is named settles the choice, and without one the request is inspected
  have hnamed : ∀ t, t ≠ "" → hint = some t → (c.Lacks group hint request ↔ t ∉ c.types) := by
    rintro t ht rfl
    simp [Lacks, ht]
  have hunnamed : hint = none ∨ hint = some "" → (c.Lacks group hint request ↔
      (∀ f ∈ c.entries, f.canRepresent group request = false) ∧ c.defaultType ∉ c.types) := by
    rintro (rfl | rfl) <;> simp [Lacks]
  have hselect : hint = none ∨ hint = some "" →
      c.resolve group hint request = c.select group request := by
    rintro (rfl | rfl) <;> rfl
  by_cases h : hint = none ∨ hint = some ""
  · rw [hunnamed h, hselect h]
    rcases c.select_cases_of_default group request with ⟨hlacks, he⟩ | ⟨hhas, hok⟩
    · exact .inl ⟨hlacks, _, he, rfl⟩
    · refine .inr ⟨?_, hok⟩
      rintro ⟨hunable, hdefault⟩
      rcases hhas with ⟨f, hf, hcan⟩ | hin
      · rw [hunable f hf] at hcan
        cases hcan
      · exact hdefault hin
  · obtain ⟨hnone, hempty⟩ := not_or.mp h
    obtain ⟨t, rfl⟩ := Option.ne_none_iff_exists'.mp hnone
    have ht : t ≠ "" := fun he => hempty (he ▸ rfl)
    rw [hnamed t ht rfl, resolve, if_neg ht]
    rcases c.byType_cases t with ⟨hout, he⟩ | ⟨hin, hok⟩
    · exact .inl ⟨hout, _, he, rfl⟩
    · exact .inr ⟨not_not.mpr hin, hok⟩

end RepresentationCatalog

/-! ## 2. The answers of a cache -/

/-- An allocation makes no contexts. -/
theorem PlannerPool.Allocates.contexts {σ : Type u} {pool pool' : PlannerPool σ}
    {family : PlannerFamily} {space : Space} {name : String} {config : Table String}
    {w w' : Workspace σ} {a : Except ResolutionError Nat}
    (h : pool.Allocates family space name config w a pool' w') : w'.contexts = w.contexts := by
  cases h with
  | refused => rfl
  | single => exact (PlannerPool.build_enrolls ..).contexts
  | kept => rfl
  | first => exact (PlannerPool.build_enrolls ..).contexts

namespace ContextCache

variable {σ : Type u}

/-- A context that was built is the next one. -/
theorem number_of_build {pool pool' : PlannerPool σ} {s : ContextSource} {w w' : Workspace σ}
    {c : PlanningContext} (h : build pool s w = (.ok c, pool', w')) :
    c.number = w.contexts ∧ w'.contexts = w.contexts + 1 := by
  cases builds_of_eq h with
  | built hl hp hb ha => exact ⟨ha.contexts, congrArg (· + 1) ha.contexts⟩

/-- **The answers of a cache**: the context that is there, the failure of the first step that fails,
or a new context that is there from now on. -/
theorem context_cases (cache : ContextCache σ) {s : ContextSource} (hs : s.representation.Candid)
    (w : Workspace σ) :
    (∃ c, cache.get? s.key = some c ∧ cache.context s w = (.ok c, cache, w)) ∨
    (cache.get? s.key = none ∧ ∃ (step : BuildStep) (e : ResolutionError),
      step.FailsFirst s ∧ e.code = step.code ∧ cache.context s w = (.error e, cache, w)) ∨
    (cache.get? s.key = none ∧ (∀ step, ¬ BuildStep.Fails s step) ∧
      ∃ c cache' w', cache.context s w = (.ok c, cache', w') ∧ c.number = w.contexts ∧
        w'.contexts = w.contexts + 1 ∧ cache'.get? s.key = some c) := by
  unfold context get?
  cases hc : cache.contexts.get? s.key with
  | some c => exact .inl ⟨c, rfl, rfl⟩
  | none =>
    refine .inr ?_
    dsimp only
    rcases build_cases cache.pool hs w with
      ⟨step, e, hfirst, hbuild, hcode⟩ | ⟨hworks, c, pool', w', hbuild⟩
    · rw [hbuild]
      exact .inl ⟨rfl, step, e, hfirst, hcode, rfl⟩
    · obtain ⟨hnumber, hcontexts⟩ := number_of_build hbuild
      rw [hbuild]
      exact .inr ⟨rfl, hworks, c, _, w', rfl, hnumber, hcontexts, KeyedList.get?_insert_self ..⟩

end ContextCache

/-! ## 3. The answers of a manager -/

namespace Manager

variable {σ : Type u} {m : Manager σ} {request : Request}

/-- **The answers for a configuration**: there is no representation, or what the cache says for the
one that there is. -/
theorem contextFrom_cases (hm : ∀ f ∈ m.representations.entries, f.Candid) (cfg : Configuration)
    (hint : Option String) (request : Request) (w : Workspace σ) :
    (m.representations.Lacks cfg.group hint request ∧
      ∃ e, m.contextFrom cfg hint request w = (.error e, m, w) ∧
        e.code = .representationNotFound) ∨
    (¬ m.representations.Lacks cfg.group hint request ∧ ∃ f, f.Candid ∧
      m.representations.resolve cfg.group hint request = .ok f ∧
      m.contextFrom cfg hint request w =
        ((m.cache.context ⟨cfg, f, m.planners, m.limits⟩ w).1,
          { m with cache := (m.cache.context ⟨cfg, f, m.planners, m.limits⟩ w).2.1 },
          (m.cache.context ⟨cfg, f, m.planners, m.limits⟩ w).2.2)) := by
  unfold contextFrom
  rcases m.representations.resolve_cases cfg.group hint request with
    ⟨hlacks, e, he, hcode⟩ | ⟨hhas, f, hf, hr⟩
  · rw [he]
    exact .inl ⟨hlacks, e, rfl, hcode⟩
  · rw [hr]
    exact .inr ⟨hhas, f, hm f hf, rfl, rfl⟩

/-- A request whose configuration is missing. -/
theorem resolve_of_none (h : m.configurations.get? request.configurationName = none)
    (w : Workspace σ) :
    m.resolve request w =
      (.error (.unknownConfiguration request.configurationName), m, w) := by
  unfold resolve Configurations.find
  rw [h]

/-- A request whose configuration is there. -/
theorem resolve_of_some {cfg : Configuration}
    (h : m.configurations.get? request.configurationName = some cfg) (w : Workspace σ) :
    m.resolve request w = m.contextFrom cfg request.representation request w := by
  unfold resolve Configurations.find
  rw [h]

/-- What the answer to a request is, by the first question that decides it. -/
inductive Verdict (m : Manager σ) (scene : Scene) (request : Request) (w : Workspace σ) :
    Except ErrorCode PlanningContext × Manager σ × Workspace σ → Prop
  /-- The scene does not know the group. -/
  | foreign (hscene : scene request.group = false) :
    Verdict m scene request w (.error .invalidGroupName, m, w)
  /-- There is no configuration of the name. -/
  | unconfigured (hscene : scene request.group = true)
    (hcfg : m.configurations.get? request.configurationName = none) :
    Verdict m scene request w (.error .configurationNotFound, m, w)
  /-- There is no representation to take. -/
  | unrepresented {cfg : Configuration} (hscene : scene request.group = true)
    (hcfg : m.configurations.get? request.configurationName = some cfg)
    (hlacks : m.representations.Lacks cfg.group request.representation request) :
    Verdict m scene request w (.error .representationNotFound, m, w)
  /-- The context is cached. -/
  | cached {cfg : Configuration} {f : Representation} {c : PlanningContext}
    (hscene : scene request.group = true)
    (hcfg : m.configurations.get? request.configurationName = some cfg)
    (hhas : ¬ m.representations.Lacks cfg.group request.representation request)
    (hf : m.representations.resolve cfg.group request.representation request = .ok f)
    (hc : m.cache.get? (ContextSource.key ⟨cfg, f, m.planners, m.limits⟩) = some c) :
    Verdict m scene request w (.ok c, m, w)
  /-- The context cannot be built. -/
  | unbuilt {cfg : Configuration} {f : Representation} {step : BuildStep}
    (hscene : scene request.group = true)
    (hcfg : m.configurations.get? request.configurationName = some cfg)
    (hhas : ¬ m.representations.Lacks cfg.group request.representation request)
    (hf : m.representations.resolve cfg.group request.representation request = .ok f)
    (hc : m.cache.get? (ContextSource.key ⟨cfg, f, m.planners, m.limits⟩) = none)
    (hstep : step.FailsFirst ⟨cfg, f, m.planners, m.limits⟩) :
    Verdict m scene request w (.error step.code, m, w)
  /-- The context is new. -/
  | built {cfg : Configuration} {f : Representation} {c : PlanningContext} {m' : Manager σ}
    {w' : Workspace σ} (hscene : scene request.group = true)
    (hcfg : m.configurations.get? request.configurationName = some cfg)
    (hhas : ¬ m.representations.Lacks cfg.group request.representation request)
    (hf : m.representations.resolve cfg.group request.representation request = .ok f)
    (hc : m.cache.get? (ContextSource.key ⟨cfg, f, m.planners, m.limits⟩) = none)
    (hworks : ∀ step, ¬ BuildStep.Fails ⟨cfg, f, m.planners, m.limits⟩ step)
    (hnumber : c.number = w.contexts) (hcontexts : w'.contexts = w.contexts + 1)
    (hnew : m'.cache.get? (ContextSource.key ⟨cfg, f, m.planners, m.limits⟩) = some c) :
    Verdict m scene request w (.ok c, m', w')

/-- **The verdict on a request.** -/
theorem verdict (hm : ∀ f ∈ m.representations.entries, f.Candid) (scene : Scene)
    (request : Request) (w : Workspace σ) :
    Verdict m scene request w (m.contextForRequest scene request w) := by
  cases hscene : scene request.group with
  | false =>
    have ha : m.contextForRequest scene request w = (.error .invalidGroupName, m, w) := by
      unfold contextForRequest
      rw [hscene]
      rfl
    rw [ha]
    exact .foreign hscene
  | true =>
    rw [contextForRequest_of_scene hscene]
    cases hcfg : m.configurations.get? request.configurationName with
    | none =>
      rw [resolve_of_none hcfg]
      exact .unconfigured hscene hcfg
    | some cfg =>
      rw [resolve_of_some hcfg]
      rcases contextFrom_cases hm cfg request.representation request w with
        ⟨hlacks, e, ha, hcode⟩ | ⟨hhas, f, hcandid, hf, ha⟩
      · rw [ha]
        dsimp only [Except.mapError]
        rw [hcode]
        exact .unrepresented hscene hcfg hlacks
      rw [ha]
      rcases m.cache.context_cases (s := ⟨cfg, f, m.planners, m.limits⟩) hcandid w with
        ⟨c, hc, h⟩ | ⟨hc, step, e, hstep, hcode, h⟩ |
          ⟨hc, hworks, c, cache', w', h, hnumber, hcontexts, hnew⟩
      · rw [h]
        exact .cached hscene hcfg hhas hf hc
      · rw [h]
        dsimp only [Except.mapError]
        rw [hcode]
        exact .unbuilt hscene hcfg hhas hf hc hstep
      · rw [h]
        exact .built hscene hcfg hhas hf hc hworks hnumber hcontexts hnew

/-! ## 4. What a verdict says -/

section Verdict

variable {scene : Scene} {w : Workspace σ}
  {answer : Except ErrorCode PlanningContext × Manager σ × Workspace σ}

/-- A step of building has a code of its own. -/
theorem code_ne (step : BuildStep) :
    step.code ≠ .invalidGroupName ∧ step.code ≠ .configurationNotFound := by
  cases step <;> decide

theorem Verdict.foreign_iff (h : Verdict m scene request w answer) :
    answer.1 = .error .invalidGroupName ↔ scene request.group = false := by
  cases h with
  | @unbuilt cfg f step hscene => simp [hscene, (code_ne step).1]
  | foreign hscene | unconfigured hscene | unrepresented hscene | cached hscene | built hscene =>
    simp [hscene]

theorem Verdict.unconfigured_iff (h : Verdict m scene request w answer)
    (hscene : scene request.group = true) :
    answer.1 = .error .configurationNotFound ↔
      m.configurations.get? request.configurationName = none := by
  cases h with
  | foreign hforeign =>
    rw [hscene] at hforeign
    cases hforeign
  | unconfigured _ hcfg => simp [hcfg]
  | @unbuilt cfg f step _ hcfg => simp [hcfg, (code_ne step).2]
  | unrepresented _ hcfg | cached _ hcfg | built _ hcfg => simp [hcfg]

theorem Verdict.of_lacks {cfg : Configuration} (h : Verdict m scene request w answer)
    (hscene : scene request.group = true)
    (hcfg : m.configurations.get? request.configurationName = some cfg)
    (hlacks : m.representations.Lacks cfg.group request.representation request) :
    answer.1 = .error .representationNotFound := by
  cases h with
  | foreign hforeign =>
    rw [hscene] at hforeign
    cases hforeign
  | unconfigured _ hcfg' =>
    rw [hcfg] at hcfg'
    cases hcfg'
  | unrepresented => rfl
  | cached _ hcfg' hhas | unbuilt _ hcfg' hhas | built _ hcfg' hhas =>
    obtain rfl := Option.some.inj (hcfg.symm.trans hcfg')
    exact absurd hlacks hhas

/-- **What is answered for a source**: what is cached, else the first failure or a new context. -/
theorem Verdict.of_source {cfg : Configuration} {f : Representation}
    (h : Verdict m scene request w answer) (hscene : scene request.group = true)
    (hcfg : m.configurations.get? request.configurationName = some cfg)
    (hhas : ¬ m.representations.Lacks cfg.group request.representation request)
    (hf : m.representations.resolve cfg.group request.representation request = .ok f) :
    let source : ContextSource := ⟨cfg, f, m.planners, m.limits⟩
    (∀ c, m.cache.get? source.key = some c → answer = (.ok c, m, w)) ∧
    (m.cache.get? source.key = none →
      (∀ code, answer.1 = .error code ↔
        ∃ step : BuildStep, step.FailsFirst source ∧ step.code = code) ∧
      ((∃ c, answer.1 = .ok c ∧ c.number = w.contexts ∧
        answer.2.2.contexts = w.contexts + 1 ∧ answer.2.1.cache.get? source.key = some c) ↔
        ∀ step, ¬ BuildStep.Fails source step)) := by
  intro source
  cases h with
  | foreign hforeign =>
    rw [hscene] at hforeign
    cases hforeign
  | unconfigured _ hcfg' =>
    rw [hcfg] at hcfg'
    cases hcfg'
  | unrepresented _ hcfg' hlacks =>
    obtain rfl := Option.some.inj (hcfg.symm.trans hcfg')
    exact absurd hlacks hhas
  | cached _ hcfg' _ hf' hc =>
    obtain rfl := Option.some.inj (hcfg.symm.trans hcfg')
    obtain rfl := Except.ok.inj (hf.symm.trans hf')
    refine ⟨fun c' hc' => ?_, fun hnone => ?_⟩
    · rw [Option.some.inj (hc.symm.trans hc')]
    · exact absurd (hc.symm.trans hnone) (Option.some_ne_none _)
  | @unbuilt _ _ step _ hcfg' _ hf' hc hstep =>
    obtain rfl := Option.some.inj (hcfg.symm.trans hcfg')
    obtain rfl := Except.ok.inj (hf.symm.trans hf')
    refine ⟨fun c' hc' => absurd (hc'.symm.trans hc) (Option.some_ne_none _), fun _ => ⟨?_, ?_⟩⟩
    · refine fun code => ⟨fun h => ⟨step, hstep, Except.error.inj h⟩, ?_⟩
      rintro ⟨step', hstep', rfl⟩
      rw [hstep.unique hstep']
    · refine ⟨?_, fun hworks => absurd hstep.fails (hworks step)⟩
      rintro ⟨c, h, -⟩
      cases h
  | @built _ _ c _ _ _ hcfg' _ hf' hc hworks hnumber hcontexts hnew =>
    obtain rfl := Option.some.inj (hcfg.symm.trans hcfg')
    obtain rfl := Except.ok.inj (hf.symm.trans hf')
    refine ⟨fun c' hc' => absurd (hc'.symm.trans hc) (Option.some_ne_none _), fun _ => ⟨?_, ?_⟩⟩
    · refine fun code => ⟨nofun, ?_⟩
      rintro ⟨step, hstep, -⟩
      exact absurd hstep.fails (hworks step)
    · exact ⟨fun _ => hworks, fun _ => ⟨c, rfl, hnumber, hcontexts, hnew⟩⟩

end Verdict

/-! ## 5. The theorem -/

/-- **Requests, classified.**  In every run of a new manager whose representations fail to build
only with that cause, the answer to a request is:
* `InvalidGroupName` exactly if the scene does not know the group;
* otherwise `ConfigurationNotFound` exactly if there is no configuration of its name;
* otherwise `RepresentationNotFound` if there is no representation to take;
* otherwise the cached context of the representation, and nothing changes, if there is one,
  whether it could be built now or not;
* otherwise the code of the first step of building that fails, and a new context, cached from now
  on, exactly if no step fails. -/
theorem requests_classified (storage : Storage σ) (w : Workspace σ) (ops : List Operation)
    (hops : ∀ f, .registerRepresentation f ∈ ops → f.Candid) (scene : Scene) (request : Request) :
    let s := (Session.new storage w).run ops
    let m := s.manager
    let answer := m.contextForRequest scene request s.workspace
    (answer.1 = .error .invalidGroupName ↔ scene request.group = false) ∧
    (scene request.group = true →
      (answer.1 = .error .configurationNotFound ↔
        m.configurations.get? request.configurationName = none) ∧
      ∀ cfg, m.configurations.get? request.configurationName = some cfg →
        (m.representations.Lacks cfg.group request.representation request →
          answer.1 = .error .representationNotFound) ∧
        (¬ m.representations.Lacks cfg.group request.representation request →
          ∃ f ∈ m.representations.entries,
            m.representations.resolve cfg.group request.representation request = .ok f ∧
            let source : ContextSource := ⟨cfg, f, m.planners, m.limits⟩
            (∀ c, m.cache.get? source.key = some c → answer = (.ok c, m, s.workspace)) ∧
            (m.cache.get? source.key = none →
              (∀ code, answer.1 = .error code ↔
                ∃ step : BuildStep, step.FailsFirst source ∧ step.code = code) ∧
              ((∃ c, answer.1 = .ok c ∧ c.number = s.workspace.contexts ∧
                answer.2.2.contexts = s.workspace.contexts + 1 ∧
                answer.2.1.cache.get? source.key = some c) ↔
                ∀ step, ¬ BuildStep.Fails source step)))) := by
  intro s m answer
  have hm : ∀ f ∈ m.representations.entries, f.Candid := by
    refine Session.representations_run hops (s := Session.new storage w) fun f hf => ?_
    rw [List.mem_singleton.mp hf]
    exact Representation.jointModel_candid
  have hverdict : Verdict m scene request s.workspace answer := verdict hm scene request s.workspace
  refine ⟨hverdict.foreign_iff, fun hscene => ⟨hverdict.unconfigured_iff hscene, ?_⟩⟩
  intro cfg hcfg
  refine ⟨hverdict.of_lacks hscene hcfg, fun hhas => ?_⟩
  rcases m.representations.resolve_cases cfg.group request.representation request with
    ⟨hlacks, -⟩ | ⟨-, f, hmem, hf⟩
  · exact absurd hlacks hhas
  · exact ⟨f, hmem, hf, hverdict.of_source hscene hcfg hhas hf⟩

open MotionContexts.Sample

/-- The context of a configuration is looked up; then the default planner goes, which every
configuration here counts on. -/
def orphanedRun : List Operation :=
  [.registerPlanner "roadmap" roadmaps, .registerRepresentation (.poseModel ["arm"]),
    .setDefaultPlanner (some "roadmap"),
    .setConfigurations (.ofList [⟨"arm", "arm", kept⟩,
      ⟨"leg", "leg", Table.ofList [(LimitKey.maxGoalSamples.name, "many")]⟩]),
    .context "arm" none, .setDefaultPlanner none]

/-- A request gets the cached context, where the same request in pose space lacks a planner; of a
limit that cannot be read and a missing planner the limit is told. -/
theorem requests_classified_orphanedRun :
    let s := (Session.new .memory { contents := ∅ }).run orphanedRun
    let scene : Scene := fun g => g != "tail"
    let answer := fun r => (s.manager.contextForRequest scene r s.workspace).1
    answer { group := "tail" } = .error .invalidGroupName ∧
    answer { group := "neck" } = .error .configurationNotFound ∧
    answer { group := "arm", representation := some "Plane" } = .error .representationNotFound ∧
    (∃ c, answer { group := "arm" } = .ok c ∧ c.number = 0) ∧
    answer { group := "arm", representation := some "PoseModel" } =
      .error .plannerAllocationFailed ∧
    answer { group := "leg" } = .error .invalidConfiguration := by
  intro s scene answer
  have hops : ∀ f, .registerRepresentation f ∈ orphanedRun → f.Candid := by
    intro f hf
    obtain rfl : f = .poseModel ["arm"] := by simpa [orphanedRun] using hf
    exact Representation.poseModel_candid _
  have h := requests_classified .memory { contents := ∅ } orphanedRun hops scene
  have hhas : ∀ group, ¬ s.manager.representations.Lacks group none { group := group } := by
    rintro group (⟨t, ht, -⟩ | ⟨-, -, hdefault⟩)
    · cases ht
    · exact hdefault (by decide)
  refine ⟨(h { group := "tail" }).1.mpr rfl, ((h { group := "neck" }).2 rfl).1.mpr rfl, ?plane,
    ?cached, ?pose, ?leg⟩
  case plane =>
    refine (((h { group := "arm", representation := some "Plane" }).2 rfl).2 _ rfl).1 (.inl ?_)
    exact ⟨"Plane", rfl, by decide, by decide⟩
  case cached =>
    obtain ⟨f, hf, hr, hc, -⟩ := (((h { group := "arm" }).2 rfl).2 _ rfl).2 (hhas "arm")
    cases hr
    exact ⟨_, congrArg Prod.fst (hc _ rfl), rfl⟩
  case pose =>
    have hpose : ¬ s.manager.representations.Lacks "arm" (some "PoseModel")
        { group := "arm", representation := some "PoseModel" } := by
      rintro (⟨t, ht, -, hout⟩ | ⟨h | h, -⟩)
      · cases ht
        exact hout (by decide)
      · cases h
      · exact absurd h (by decide)
    obtain ⟨f, hf, hr, -, hc⟩ :=
      (((h { group := "arm", representation := some "PoseModel" }).2 rfl).2 _ rfl).2 hpose
    cases hr
    -- there is no limit among the options
    have hlimits : ∀ k : LimitKey, kept.get? k.name = none := by
      intro k
      cases k <;> decide
    refine ((hc rfl).1 _).mpr ⟨.planner, ⟨.inl ⟨rfl, rfl⟩, fun b hb => ?_⟩, rfl⟩
    rw [List.mem_singleton.mp hb]
    rintro ⟨k, raw, hraw, -⟩
    exact absurd ((hlimits k).symm.trans hraw) nofun
  case leg =>
    obtain ⟨f, hf, hr, -, hc⟩ := (((h { group := "leg" }).2 rfl).2 _ rfl).2 (hhas "leg")
    cases hr
    have hlimit : LimitKey.maxGoalSamples.read? "many" = none := by decide
    exact ((hc rfl).1 _).mpr
      ⟨.limits, ⟨⟨.maxGoalSamples, "many", rfl, hlimit⟩, fun b hb => nomatch hb⟩, rfl⟩

end Manager

end MotionContexts
