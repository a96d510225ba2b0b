/-
# Look-ups of different configurations, in either order

Two look-ups share a lot: the cache, its pool, the storage and the record.  Still, if they do not
find configurations of ONE name, it does not matter which one comes first.  Each fails or succeeds
all the same, for the same cause or with an equal context and an equal planner; and the states
behind both are equal but for the numbers that the new contexts and planners got.  Where both keep
their planners at one path, both are registered for it in either order; nothing is stored, so what
the one loads does not depend on the other.

A look-up comes to a finding of the cache, as far as it gets there, and otherwise it fails by the
settings alone.  Neither the settings nor what is found are changed by an addition under another
name, so the findings of both look-ups are the same in either order, and it remains to enter two
additions.

Main statement: `look_ups_commute`, for every state that a run of a new manager reaches.
-/
import MotionContexts.Proofs.ContextCache.Commuting
import MotionContexts.Proofs.Manager.EntryPoints
import MotionContexts.Proofs.Manager.Hits
import MotionContexts.Proofs.Manager.StorageIndependence

namespace MotionContexts

universe u

namespace Manager

variable {σ : Type u}

/-! ## 1. Queries -/

/-- A look-up, in either of the two ways. -/
inductive Query where
  | named (name : String) (hint : Option String)
  | requested (scene : Scene) (request : Request)

namespace Query

/-- The look-up as an operation. -/
def operation : Query → Operation
  | named name hint => .context name hint
  | requested scene request => .request scene request

/-- The answer to the look-up, from what it is resolved to. -/
def report : Query → Except ResolutionError PlanningContext → Answer
  | named _ _, result => .context result
  | requested _ _, result => .request (result.mapError ResolutionError.code)

/-- The answer that hands a context out. -/
def hand (q : Query) (c : PlanningContext) : Answer := q.report (.ok c)

end Query

/-- What a look-up comes to, whatever the numbers are. -/
inductive Outcome where
  | handedOut (spec : ContextSpec) (space : Space) (planner : Planner)
  | failed (e : ResolutionError)
  | refused (code : ErrorCode)

namespace Answer

/-- The answer with other numbers. -/
def renumber (r : Renumbering) : Answer → Answer
  | context result => context (result.map (·.renumber r))
  | request result => request (result.map (·.renumber r))
  | a => a

/-- The context that is handed out. -/
def handedOut? : Answer → Option PlanningContext
  | context (.ok c) => some c
  | request (.ok c) => some c
  | _ => none

/-- The failure that is answered. -/
def failure? : Answer → Option Outcome
  | context (.error e) => some (.failed e)
  | request (.error e) => some (.refused e)
  | _ => none

/-- What the answer to a look-up says, with the planner behind the number. -/
def outcome? (w : Workspace σ) (a : Answer) : Option Outcome :=
  match a.handedOut? with
  | some c => (w.planner? c.planner).map (.handedOut c.spec c.space)
  | none => a.failure?

@[simp] theorem renumber_refl (a : Answer) : a.renumber .refl = a := by
  cases a with
  | context result => cases result <;> rfl
  | request result => cases result <;> rfl
  | _ => rfl

theorem renumber_hand (q : Query) (r : Renumbering) (c : PlanningContext) :
    (q.hand c).renumber r = q.hand (c.renumber r) := by
  cases q <;> rfl

theorem handedOut?_renumber (r : Renumbering) (a : Answer) :
    (a.renumber r).handedOut? = a.handedOut?.map (·.renumber r) := by
  cases a with
  | context result => cases result <;> rfl
  | request result => cases result <;> rfl
  | _ => rfl

theorem failure?_renumber (r : Renumbering) (a : Answer) :
    (a.renumber r).failure? = a.failure? := by
  cases a with
  | context result => cases result <;> rfl
  | request result => cases result <;> rfl
  | _ => rfl

/-- With other numbers for the same planners, an answer says the same. -/
theorem outcome?_renumber {r : Renumbering} {v w : Workspace σ}
    (h : ∀ n, v.planner? (r.planner n) = w.planner? n) (a : Answer) :
    (a.renumber r).outcome? v = a.outcome? w := by
  unfold outcome?
  rw [handedOut?_renumber, failure?_renumber]
  cases a.handedOut? with
  | none => rfl
  | some c => exact congrArg (Option.map _) (h c.planner)

/-- An answer says the same wherever the planner that it hands out is the same. -/
theorem outcome?_congr {v w : Workspace σ} {a : Answer}
    (h : ∀ c, a.handedOut? = some c → v.planner? c.planner = w.planner? c.planner) :
    a.outcome? v = a.outcome? w := by
  unfold outcome?
  cases hc : a.handedOut? with
  | none => rfl
  | some c => exact congrArg (Option.map _) (h c hc)

end Answer

/-! ## 2. What a query finds -/

/-- Whatever is sought is in force under the name. -/
theorem get?_of_sought {m : Manager σ} {name : String} {hint : Option String}
    {request : Configuration → Request} {c : Configuration} {f : Representation}
    (h : m.sought? name hint request = some (c, f)) : m.configurations.get? name = some c := by
  unfold sought? at h
  split at h
  · cases h
  · rename_i hc
    split at h
    · cases h
    · cases h
      exact Configurations.get?_of_find hc

/-- Why nothing is sought depends on the settings alone. -/
theorem error_of_not_sought {m : Manager σ} {name : String} {hint : Option String}
    {request : Configuration → Request} (h : m.sought? name hint request = none)
    (cache : ContextCache σ) (v w : Workspace σ) :
    (({ m with cache := cache } : Manager σ).lookUp name hint request v).1 =
      (m.lookUp name hint request w).1 := by
  unfold sought? at h
  unfold lookUp
  dsimp only
  cases hc : m.configurations.find name with
  | error e => rfl
  | ok c =>
    rw [hc] at h
    dsimp only at h ⊢
    unfold contextFrom
    dsimp only
    cases hf : m.representations.resolve c.group hint (request c) with
    | error e => rfl
    | ok f =>
      rw [hf] at h
      cases h

namespace Session

/-- The manager with another cache, in another workspace. -/
def withCached (s : Session σ) (t : ContextCache.Session σ) : Session σ :=
  ⟨{ s.manager with cache := t.cache }, t.workspace⟩

/-- The configuration that a query finds; a scene that does not know the group of a request finds
none. -/
def finds? (s : Session σ) : Query → Option Configuration
  | .named name _ => s.manager.configurations.get? name
  | .requested scene request =>
    if scene request.group then s.manager.configurations.get? request.configurationName else none

/-- What a query comes to. -/
def outcome? (s : Session σ) (q : Query) : Option Outcome :=
  (s.answer q.operation).outcome? (s.perform q.operation).2.workspace

/-- What is found for a query: an answer that is settled, or a context to be added. -/
def finding (s : Session σ) (q : Query) : ContextCache.Finding Answer :=
  match s.sought? q.operation with
  | none => .settled (s.answer q.operation)
  | some (c, f) => (s.cached.finding (s.manager.source c f)).map q.report

/-- A request seeks something only in a scene that knows its group. -/
theorem of_sought_request {s : Session σ} {scene : Scene} {request : Request}
    {e : Configuration × Representation} (h : s.sought? (.request scene request) = some e) :
    scene request.group = true ∧
      s.manager.sought? request.configurationName request.representation (fun _ => request) =
        some e := by
  rw [sought?] at h
  split at h
  · exact ⟨‹_›, h⟩
  · cases h

theorem finds?_of_sought {s : Session σ} {q : Query} {c : Configuration} {f : Representation}
    (h : s.sought? q.operation = some (c, f)) : s.finds? q = some c := by
  cases q with
  | named name hint => exact get?_of_sought h
  | requested scene request =>
    obtain ⟨hscene, h⟩ := of_sought_request h
    rw [finds?, if_pos hscene, get?_of_sought h]

/-- A look-up that gets as far as the cache is what the cache finds. -/
theorem ask_eq_finding (s : Session σ) (c : Configuration) (f : Representation) :
    s.manager.ask c f s.workspace =
      let found := s.cached.finding (s.manager.source c f)
      let behind := s.withCached (found.enter s.cached)
      (found.answer .ok s.workspace, behind.manager, behind.workspace) := by
  have hcontext : s.manager.cache.context (s.manager.source c f) s.workspace = _ :=
    s.cached.context_eq_finding (s.manager.source c f)
  rw [ask, hcontext]
  rfl

/-- **A query is entering what is found for it.** -/
theorem perform_eq_finding (s : Session σ) (q : Query) :
    (s.perform q.operation).2 = s.withCached ((s.finding q).enter s.cached) := by
  unfold finding
  cases hs : s.sought? q.operation with
  | none =>
    cases q with
    | named name hint => exact congrArg Prod.snd (perform_context_of_not_sought hs)
    | requested scene request => exact congrArg Prod.snd (perform_request_of_not_sought hs)
  | some e =>
    dsimp only
    rw [perform_of_sought hs, ask_eq_finding, ContextCache.Finding.enter_map]

theorem answer_of_sought {s : Session σ} {q : Query} {c : Configuration} {f : Representation}
    (h : s.sought? q.operation = some (c, f)) :
    s.answer q.operation = q.report (s.manager.ask c f s.workspace).1 := by
  cases q with
  | named name hint =>
    refine congrArg Answer.context (congrArg Prod.fst ?_)
    rw [context_eq_lookUp, lookUp_of_sought h]
  | requested scene request =>
    obtain ⟨hscene, h⟩ := of_sought_request h
    refine congrArg Answer.request ?_
    rw [contextForRequest_of_scene hscene, resolve_eq_lookUp, lookUp_of_sought h]

/-- **And it is answered by what is found.** -/
theorem answer_eq_finding (s : Session σ) (q : Query) :
    s.answer q.operation = (s.finding q).answer q.hand s.workspace := by
  unfold finding
  cases hs : s.sought? q.operation with
  | none => rfl
  | some e =>
    dsimp only
    rw [answer_of_sought hs, ask_eq_finding]
    cases s.cached.finding (s.manager.source e.1 e.2) <;> rfl

/-- A query that does not get as far as the cache is answered by the settings alone. -/
theorem answer_withCached {s : Session σ} {q : Query} (h : s.sought? q.operation = none)
    (t : ContextCache.Session σ) : (s.withCached t).answer q.operation = s.answer q.operation := by
  cases q with
  | named name hint =>
    exact congrArg Answer.context (error_of_not_sought h t.cache t.workspace s.workspace)
  | requested scene request =>
    refine congrArg Answer.request ?_
    cases hscene : scene request.group with
    | false => simp [contextForRequest, hscene]
    | true =>
      rw [Query.operation, sought?, if_pos hscene] at h
      rw [contextForRequest_of_scene hscene, contextForRequest_of_scene hscene]
      exact congrArg (Except.mapError ResolutionError.code)
        (error_of_not_sought h t.cache t.workspace s.workspace)

/-- What is found for a query is added under the name of the configuration that it finds, where
there is no context yet. -/
theorem of_finding_new {s : Session σ} {q : Query} {x : ContextCache.Addition}
    (h : s.finding q = .new x) :
    ∃ c, s.finds? q = some c ∧ x.spec.name = c.name ∧ s.manager.cache.get? x.key = none := by
  unfold finding at h
  split at h
  · cases h
  · rename_i c f hs
    cases hf : s.cached.finding (s.manager.source c f) with
    | settled result =>
      rw [hf] at h
      cases h
    | new y =>
      rw [hf] at h
      cases h
      obtain ⟨-, hname, -⟩ := ContextCache.of_addition (ContextCache.Session.of_finding_new hf)
      exact ⟨c, finds?_of_sought hs, hname, ContextCache.Session.get?_of_finding_new hf⟩

/-- **What is found stays the same** while something is added under another name. -/
theorem finding_withCached {s : Session σ} {q : Query} {g : ContextCache.Finding Answer}
    (h : ∀ x c, g = .new x → s.finds? q = some c → x.spec.name ≠ c.name) :
    (s.withCached (g.enter s.cached)).finding q = s.finding q := by
  have hsought : (s.withCached (g.enter s.cached)).sought? q.operation = s.sought? q.operation := by
    cases q <;> rfl
  unfold finding
  rw [hsought]
  cases hs : s.sought? q.operation with
  | none => exact congrArg ContextCache.Finding.settled (answer_withCached hs _)
  | some e =>
    obtain ⟨c, f⟩ := e
    cases g with
    | settled a => rfl
    | new x =>
      have hname : x.spec.name ≠ (s.manager.source c f).configuration.name :=
        h x c rfl (finds?_of_sought hs)
      exact congrArg (ContextCache.Finding.map q.report) (ContextCache.Session.finding_enter hname)

/-! ## 3. Two findings -/

/-- `t` is `s` with other numbers. -/
structure Renames (r : Renumbering) (s t : Session σ) : Prop where
  configurations : t.manager.configurations = s.manager.configurations
  representations : t.manager.representations = s.manager.representations
  planners : t.manager.planners = s.manager.planners
  limits : t.manager.limits = s.manager.limits
  cached : s.cached.Renames r t.cached

theorem Renames.refl (s : Session σ) : s.Renames .refl s := ⟨rfl, rfl, rfl, rfl, .refl _⟩

/-- Other numbers do not change the names of the kept planners. -/
theorem Renames.cachedPlanners {r : Renumbering} {s t : Session σ} (h : s.Renames r t) :
    t.manager.cache.cachedPlanners = s.manager.cache.cachedPlanners := by
  refine Table.keys_congr fun k => ?_
  have hk := congrArg Option.isSome (h.cached.kept k)
  rwa [Option.isSome_map] at hk

/-- The two queries do not find configurations of one name. -/
def Apart (s : Session σ) (q₁ q₂ : Query) : Prop :=
  ∀ c₁ c₂, s.finds? q₁ = some c₁ → s.finds? q₂ = some c₂ → c₁.name ≠ c₂.name

variable {s : Session σ} {q₁ q₂ : Query}

theorem Apart.symm (h : s.Apart q₁ q₂) : s.Apart q₂ q₁ :=
  fun c₁ c₂ h₁ h₂ => (h c₂ c₁ h₂ h₁).symm

/-- Behind one query there is the same to be found for the other one. -/
theorem Apart.finding_perform (h : s.Apart q₁ q₂) :
    (s.perform q₁.operation).2.finding q₂ = s.finding q₂ := by
  rw [perform_eq_finding]
  refine finding_withCached fun x c₂ hx hc₂ => ?_
  obtain ⟨c₁, hc₁, hname, -⟩ := of_finding_new hx
  rw [hname]
  exact h c₁ c₂ hc₁ hc₂

theorem Apart.perform_perform (h : s.Apart q₁ q₂) :
    ((s.perform q₁.operation).2.perform q₂.operation).2 =
      s.withCached ((s.finding q₂).enter ((s.finding q₁).enter s.cached)) := by
  rw [perform_eq_finding, h.finding_perform, perform_eq_finding]
  rfl

theorem Apart.answer_perform (h : s.Apart q₁ q₂) :
    (s.perform q₁.operation).2.answer q₂.operation =
      (s.finding q₂).answer q₂.hand ((s.finding q₁).enter s.cached).workspace := by
  rw [answer_eq_finding, h.finding_perform, perform_eq_finding]
  rfl

theorem Apart.calls_perform_perform (h : s.Apart q₁ q₂) :
    ((s.perform q₁.operation).2.perform q₂.operation).2.workspace.calls =
      s.workspace.calls ++ ((s.finding q₁).calls ++ (s.finding q₂).calls) := by
  have hfirst : ((s.finding q₁).enter s.cached).workspace.calls =
      s.workspace.calls ++ (s.finding q₁).calls := (s.finding q₁).calls_enter s.cached
  rw [h.perform_perform, ← List.append_assoc, ← hfirst]
  exact (s.finding q₂).calls_enter _

/-- **Two findings in either order**, up to the numbers. -/
theorem Apart.exists_renumbering (h : s.Apart q₁ q₂) (hs : s.cached.Numbered) :
    ∃ r : Renumbering, r.Fixes s.workspace ∧
      (s.finding q₁).answer q₁.hand ((s.finding q₂).enter s.cached).workspace =
        ((s.finding q₁).answer q₁.hand s.workspace).renumber r ∧
      (s.finding q₂).answer q₂.hand s.workspace =
        ((s.finding q₂).answer q₂.hand ((s.finding q₁).enter s.cached).workspace).renumber r ∧
      (s.withCached ((s.finding q₂).enter ((s.finding q₁).enter s.cached))).Renames r
        (s.withCached ((s.finding q₁).enter ((s.finding q₂).enter s.cached))) := by
  cases h₁ : s.finding q₁ with
  | settled a =>
    exact ⟨.refl, .refl _, (Answer.renumber_refl _).symm, (Answer.renumber_refl _).symm,
      .refl _⟩
  | new x =>
    cases h₂ : s.finding q₂ with
    | settled b =>
      exact ⟨.refl, .refl _, (Answer.renumber_refl _).symm, (Answer.renumber_refl _).symm,
        .refl _⟩
    | new y =>
      obtain ⟨c₁, hc₁, hx, hnone₁⟩ := of_finding_new h₁
      obtain ⟨c₂, hc₂, hy, hnone₂⟩ := of_finding_new h₂
      have hname : x.spec.name ≠ y.spec.name := by
        rw [hx, hy]
        exact h c₁ c₂ hc₁ hc₂
      refine ⟨x.exchange y s.workspace, x.fixes_exchange y s.workspace, ?first, ?second,
        rfl, rfl, rfl, rfl, ContextCache.Addition.commute hs hname hnone₁ hnone₂⟩
      case first =>
        rw [ContextCache.Finding.answer, ContextCache.Finding.answer, Answer.renumber_hand]
        exact congrArg q₁.hand (x.context_first y s.cached)
      case second =>
        rw [ContextCache.Finding.answer, ContextCache.Finding.answer, Answer.renumber_hand]
        exact congrArg q₂.hand (x.context_second y s.cached)

/-! ## 4. What is handed out -/

/-- **One operation keeps the numbers in use below the next ones**, and so does a run. -/
theorem numbered_perform (hs : s.cached.Numbered) (op : Operation) :
    (s.perform op).2.cached.Numbered := by
  rw [cached_perform]
  exact hs.step _

theorem numbered_run (hs : s.cached.Numbered) (ops : List Operation) :
    (s.run ops).cached.Numbered := by
  induction ops generalizing s with
  | nil => exact hs
  | cons op ops ih => exact ih (numbered_perform hs op)

theorem handedOut?_answer (s : Session σ) (q : Query) :
    (s.answer q.operation).handedOut? = (s.perform q.operation).1 := by
  cases q with
  | named name hint =>
    rw [Query.operation, answer, perform]
    rcases s.manager.context name hint s.workspace with ⟨_ | _, m, w⟩ <;> rfl
  | requested scene request =>
    rw [Query.operation, answer, perform]
    rcases s.manager.contextForRequest scene request s.workspace with ⟨_ | _, m, w⟩ <;> rfl

/-- A context that is handed out is cached from now on, so its numbers are in use. -/
theorem within_of_handedOut (hs : s.cached.Numbered) {q : Query} {c : PlanningContext}
    (h : (s.answer q.operation).handedOut? = some c) :
    c.Within (s.perform q.operation).2.workspace := by
  rw [handedOut?_answer] at h
  cases hsought : s.sought? q.operation with
  | none =>
    have hnone : (s.perform q.operation).1 = none := by
      cases q with
      | named name hint => rw [Query.operation, perform_context_of_not_sought hsought]
      | requested scene request => rw [Query.operation, perform_request_of_not_sought hsought]
    rw [hnone] at h
    cases h
  | some e =>
    have hkey : s.key? q.operation = some (s.manager.source e.1 e.2).key := by
      rw [key?, hsought, Option.map_some]
    exact (numbered_perform hs _).cached _ c ((s.get?_perform q.operation _ c).mpr (.inl ⟨hkey, h⟩))

/-- Planners that are there are left alone. -/
theorem planner?_perform {n : Nat} (h : n < s.workspace.planners.length) (q : Query) :
    (s.perform q.operation).2.workspace.planner? n = s.workspace.planner? n := by
  rw [perform_eq_finding]
  exact (s.finding q).planner?_enter s.cached h

/-- A query that hands nothing out is answered by a failure. -/
theorem exists_failure {q : Query} (h : (s.answer q.operation).handedOut? = none) :
    ∃ o, (s.answer q.operation).failure? = some o := by
  cases q with
  | named name hint =>
    rw [Query.operation, answer] at h ⊢
    generalize (s.manager.context name hint s.workspace).1 = result at h ⊢
    cases result with
    | error e => exact ⟨.failed e, rfl⟩
    | ok c => cases h
  | requested scene request =>
    rw [Query.operation, answer] at h ⊢
    generalize (s.manager.contextForRequest scene request s.workspace).1 = result at h ⊢
    cases result with
    | error e => exact ⟨.refused e, rfl⟩
    | ok c => cases h

/-- **Every query comes to something**: where a context is handed out, there is a planner behind its
number. -/
theorem exists_outcome (hs : s.cached.Numbered) (q : Query) : ∃ o, s.outcome? q = some o := by
  unfold outcome? Answer.outcome?
  cases hc : (s.answer q.operation).handedOut? with
  | none => exact exists_failure hc
  | some c =>
    obtain ⟨p, hp⟩ := Workspace.planner?_eq_some_of_lt (within_of_handedOut hs hc).planner
    exact ⟨_, congrArg (Option.map _) hp⟩

/-! ## 5. The theorem -/

/-- **Look-ups of different configurations, in either order.**  Take any state that a run of a new
manager reaches, and any two look-ups in it that do not find configurations of one name.  Whichever
of them comes first,

1. each comes to the same: the same cause of failure, or a context with the same specification and
   space and with the same planner, whose log and graph are equal;
2. the states behind both are the same up to a renumbering of what is new: the contexts under their
   keys, the kept planners under their names, the planners behind the numbers; and they are the same
   in the paths for storing, the flag about flushing, the contents of the storages and all settings;
3. each takes the same calls of families and storages. -/
theorem look_ups_commute (storage : Storage σ) (w : Workspace σ) (ops : List Operation)
    (q₁ q₂ : Query) (hapart : ((new storage w).run ops).Apart q₁ q₂) :
    let s := (new storage w).run ops
    let s₁ := (s.perform q₁.operation).2
    let s₂ := (s.perform q₂.operation).2
    let s₁₂ := (s₁.perform q₂.operation).2
    let s₂₁ := (s₂.perform q₁.operation).2
    (∃ o, s.outcome? q₁ = some o ∧ s₂.outcome? q₁ = some o) ∧
    (∃ o, s.outcome? q₂ = some o ∧ s₁.outcome? q₂ = some o) ∧
    (∃ r : Renumbering, r.Fixes s.workspace ∧
      s₂.answer q₁.operation = (s.answer q₁.operation).renumber r ∧
      s.answer q₂.operation = (s₁.answer q₂.operation).renumber r ∧ s₁₂.Renames r s₂₁) ∧
    s₂₁.manager.cache.cachedPlanners = s₁₂.manager.cache.cachedPlanners ∧
    ∃ first second : List Call,
      s₁₂.workspace.calls = s.workspace.calls ++ (first ++ second) ∧
      s₂₁.workspace.calls = s.workspace.calls ++ (second ++ first) := by
  intro s s₁ s₂ s₁₂ s₂₁
  have hs : s.cached.Numbered := numbered_run (s := new storage w) (.new storage w) ops
  obtain ⟨r, hfixes, hfirst, hsecond, hrenames⟩ := hapart.exists_renumbering hs
  rw [← hapart.perform_perform, ← hapart.symm.perform_perform] at hrenames
  rw [← hapart.symm.answer_perform, ← answer_eq_finding] at hfirst
  rw [← hapart.answer_perform, ← answer_eq_finding] at hsecond
  refine ⟨?outcome₁, ?outcome₂, ⟨r, hfixes, hfirst, hsecond, hrenames⟩, hrenames.cachedPlanners,
    _, _, hapart.calls_perform_perform, hapart.symm.calls_perform_perform⟩
  case outcome₁ =>
    obtain ⟨o, ho⟩ := exists_outcome hs q₁
    refine ⟨o, ho, ho ▸ ?_⟩
    calc s₂.outcome? q₁
        = ((s.answer q₁.operation).renumber r).outcome? s₂₁.workspace := by rw [← hfirst]; rfl
      _ = (s.answer q₁.operation).outcome? s₁₂.workspace :=
          Answer.outcome?_renumber hrenames.cached.planner _
      _ = s.outcome? q₁ := Answer.outcome?_congr fun c hc =>
          planner?_perform (within_of_handedOut hs hc).planner q₂
  case outcome₂ =>
    obtain ⟨o, ho⟩ := exists_outcome hs q₂
    refine ⟨o, ho, ho ▸ ?_⟩
    calc s₁.outcome? q₂
        = ((s₁.answer q₂.operation).renumber r).outcome? s₂₁.workspace :=
          (Answer.outcome?_renumber hrenames.cached.planner _).symm
      _ = (s.answer q₂.operation).outcome? s₂₁.workspace := by rw [← hsecond]
      _ = s.outcome? q₂ := Answer.outcome?_congr fun c hc =>
          planner?_perform (within_of_handedOut hs hc).planner q₁

open MotionContexts.Sample in
/-- Two configurations keep their planners, at ONE path. -/
def pairedRun : List Operation :=
  [.registerPlanner "roadmap" resuming, .setConfigurations (.ofList
    [arm (resumedAt "shared.graph"), { arm (resumedAt "shared.graph") with
      name := "leg", group := "leg" }])]

/-- One look-up by name and one by request, with data at the path: both planners start from it, and
both are registered for it, in either order. -/
theorem look_ups_commute_pairedRun :
    let s := (new .memory { contents := Blobs.store ⟨"roadmap", [1]⟩ ⟨"shared.graph"⟩ ∅ }).run
      pairedRun
    let arm := Query.named "arm" none
    let leg := Query.requested (fun g => g == "leg") { group := "leg" }
    s.Apart arm leg ∧
    (∃ o, s.outcome? arm = some o ∧ (s.perform leg.operation).2.outcome? arm = some o) ∧
    (∃ spec space p, s.outcome? leg = some (.handedOut spec space p) ∧ p.graph = [1] ∧
      (s.perform arm.operation).2.outcome? leg = some (.handedOut spec space p)) ∧
    ((s.perform leg.operation).2.perform arm.operation).2.manager.cache.cachedPlanners =
      ["arm", "leg"] := by
  intro s arm leg
  have hapart : s.Apart arm leg := by
    intro c₁ c₂ h₁ h₂
    obtain rfl : _ = c₁ := Option.some.inj h₁
    obtain rfl : _ = c₂ := Option.some.inj h₂
    decide
  obtain ⟨harm, ⟨o, ho, ho'⟩, -, hnames, -⟩ := look_ups_commute .memory _ pairedRun arm leg hapart
  obtain ⟨spec, space, p, hleg, hgraph⟩ : ∃ spec space p,
    s.outcome? leg = some (.handedOut spec space p) ∧ p.graph = [1] := ⟨_, _, _, rfl, rfl⟩
  obtain rfl : _ = o := Option.some.inj (hleg.symm.trans ho)
  exact ⟨hapart, harm, ⟨spec, space, p, hleg, hgraph, ho'⟩, hnames.trans (by decide)⟩

end Session

end Manager

end MotionContexts
