/-
# What a new planner and a new context are given

Between the options of a configuration and the planner there are three readers, each of which takes
out what it reads.  The planner is given what none of them reads: its name, unless that is empty,
then every option that is left, in ascending order of the keys and whether or not it knows them,
then ONE problem in the space of its context, and then it is set up.  It does not matter whether it
starts from data.

The context keeps the options as they were, with everything the readers took out.  Its limits are
the ones that contexts are asked for with, except where an option overrides them; and overriding
changes nothing for the next context.

Main statement: `new_context_given`.
-/
import MotionContexts.Proofs.Options
import MotionContexts.Proofs.PlannerPool.Instances
import MotionContexts.Proofs.Manager.PlannerIdentifier

namespace MotionContexts

universe u

variable {σ : Type u}

/-! ## 1. The planner -/

/-- A planner that is handed out where none is kept was made just now, and set up with what the
options about keeping leave. -/
theorem PlannerPool.Allocates.constructed {pool pool' : PlannerPool σ} {family : PlannerFamily}
    {space : Space} {name : String} {config : Table String} {w w' : Workspace σ} {n : Nat}
    (h : Allocates pool family space name config w (.ok n) pool' w')
    (hnew : Retention.enabled config = false ∨ pool.planners.get? name = none) :
    ∃ r options made, Retention.extract config = (.ok r, options) ∧ family.Makes space made ∧
      w.Enrolls w' n (made.prepare name options space) := by
  cases h with
  | single hx hr => exact ⟨_, _, _, hx, construct_makes .., build_enrolls ..⟩
  | kept hx hr hn =>
    rw [Retention.extract_multiQuery hx] at hr
    rw [hr, hn] at hnew
    rcases hnew with hnew | hnew <;> cases hnew
  | first hx hr hn => exact ⟨_, _, _, hx, construct_makes .., build_enrolls ..⟩

/-! ## 2. The limits to come -/

namespace Manager

theorem limits_context (m : Manager σ) (name : String) (hint : Option String) (w : Workspace σ) :
    (m.context name hint w).2.1.limits = m.limits := by
  rcases h : m.context name hint w with ⟨result, m', w'⟩
  exact (looksUp_context h).limits

theorem limits_contextForRequest (m : Manager σ) (scene : Scene) (request : Request)
    (w : Workspace σ) : (m.contextForRequest scene request w).2.1.limits = m.limits := by
  rcases h : m.contextForRequest scene request w with ⟨result, m', w'⟩
  exact (looksUp_contextForRequest h).limits

end Manager

/-! ## 3. The theorem -/

namespace ContextCache

/-- **What a new planner and a new context are given.**  Whenever a cache that does not have the
context builds it, with a planner that is not kept or that is the first one kept under its name:

1. the planner is made by the family of the identifier that the context reports, for the space that
   the representation builds for the group, and it is the only new planner;
2. it is given the name of the configuration unless that is empty, every option that is for it, one
   problem in this space and a setup, in this order and nothing else;
3. the options that are for it are the ones under none of the eleven reserved keys, once each and in
   ascending order;
4. the context reports the type option or else the default identifier, and has all the options;
5. each of its limits is the one that was asked for, unless there is an option with its name; then
   it is what that option reads as;
6. looking contexts up changes no limit of a manager. -/
theorem new_context_given {cache cache' : ContextCache σ} {s : ContextSource} {w w' : Workspace σ}
    {c : PlanningContext} (hmiss : cache.get? s.key = none)
    (hnew : Retention.enabled s.configuration.options = false ∨
      cache.pool.planners.get? s.configuration.name = none)
    (h : cache.context s w = (.ok c, cache', w')) :
    let name := s.configuration.name
    let options := s.configuration.options
    (∃ family made,
      s.planners.resolve (options.get? ContextSource.plannerOption) =
        .ok (c.spec.plannerId, family) ∧
      s.representation.build s.configuration.group = .ok c.space ∧
      family.Makes c.space made ∧ c.planner = w.planners.length ∧
      w'.planners = w.planners ++ [{ made with
        name := if name = "" then made.name else name
        log := made.log ++ ((if name = "" then [] else [.setName name]) ++
          s.forwarded.entries.map (fun e => .setParam e.1 e.2 (made.accepts e.1 e.2)) ++
          [.problem c.space, .setup]) }]) ∧
    (∀ k v, (k, v) ∈ s.forwarded.entries ↔
      options.get? k = some v ∧ k ∉ ContextSource.reservedKeys) ∧
    s.forwarded.keys.Pairwise (· < ·) ∧
    (options.get? ContextSource.plannerOption).or s.planners.default = some c.spec.plannerId ∧
    c.spec.name = name ∧ c.spec.group = s.configuration.group ∧ c.spec.options = options ∧
    (∀ k : LimitKey, (options.get? k.name = none → c.spec.limits.get k = s.limits.get k) ∧
      ∀ raw, options.get? k.name = some raw → k.read? raw = some (c.spec.limits.get k)) ∧
    (∀ (m : Manager σ) (name : String) (hint : Option String) (v : Workspace σ),
      (m.context name hint v).2.1.limits = m.limits) ∧
    ∀ (m : Manager σ) (scene : Scene) (request : Request) (v : Workspace σ),
      (m.contextForRequest scene request v).2.1.limits = m.limits := by
  intro name options
  have hforwarded := options.mem_entries_without_iff ContextSource.reservedKeys
  cases answers_of_eq h with
  | cached hc =>
    have hsome : cache.get? s.key = some c := hc
    rw [hmiss] at hsome
    cases hsome
  | built _ hbuild =>
    cases hbuild with
    | built hl hp hb ha =>
      rw [← Limits.enabled_of_applyOverrides hl] at hnew
      obtain ⟨r, rest, made, hx, hmakes, hw⟩ := ha.constructed hnew
      rw [ContextSource.rest_eq_forwarded hl hx] at hw
      refine ⟨⟨_, made, hp, hb, hmakes, hw.number, ?planners⟩, hforwarded,
        s.forwarded.keys_pairwise, PlannerCatalog.or_of_resolve hp, rfl, rfl, rfl,
        ContextSource.get_of_applyOverrides hl, Manager.limits_context,
        Manager.limits_contextForRequest⟩
      case planners => exact hw.planners.trans (by rw [Planner.prepare_eq])

open Sample in
/-- Options of every sort: a type, a limit with blanks around it, two for the planner, and some that
want it kept and started from data. -/
def mixedOptions : Table String :=
  (((resumedAt "arm.graph").insert "max_goal_samples" " 7 ").insert "range" "0.5").insert "bias" "1"

open Sample in
/-- A planner that knows one of its two parameters, with data to start from. -/
theorem new_context_given_mixedOptions :
    let picky := { resuming with
      allocateWithData := fun space d => .ok { resuming.allocate space with
        seeded := true, graph := d.graph, accepts := fun key _ => key == "range" } }
    let s : ContextSource := ⟨arm mixedOptions, .jointModel,
      ({} : PlannerCatalog).register "roadmap" picky, {}⟩
    let w : Workspace Blobs := { contents := Blobs.store ⟨"roadmap", [1]⟩ ⟨"arm.graph"⟩ ∅ }
    ∃ c cache' w' p, (ContextCache.new .memory).context s w = (.ok c, cache', w') ∧
      w'.planners = [p] ∧ p.seeded = true ∧
      p.log = [.setName "arm", .setParam "bias" "1" false, .setParam "range" "0.5" true,
        .problem c.space, .setup] ∧
      s.forwarded.keys.Pairwise (· < ·) ∧
      LimitKey.maxGoalSamples.read? " 7 " = some (c.spec.limits.get .maxGoalSamples) ∧
      c.spec.limits.get .maxGoalSamples = .word 7 ∧
      c.spec.limits.get .maxPlanningThreads = s.limits.get .maxPlanningThreads := by
  intro picky s w
  have h : (ContextCache.new .memory).context s w = (.ok _, _, _) := rfl
  obtain ⟨-, -, hsorted, -, -, -, -, hlimits, -, -⟩ := new_context_given rfl (.inr rfl) h
  refine ⟨_, _, _, _, h, rfl, rfl, rfl, hsorted, (hlimits _).2 " 7 " rfl, rfl, (hlimits _).1 rfl⟩

end ContextCache

end MotionContexts
