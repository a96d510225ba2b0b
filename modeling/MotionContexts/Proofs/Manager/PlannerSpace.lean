/-
# The space that a planner works in

A context comes with a space and with a planner, and one expects the planner to work in THIS space.
It need not.  Contexts are told apart by group, configuration and space type, kept planners by the
name of the configuration alone; so a context in pose space gets the planner that was made for the
context in joint space, and it is set up once only (`planner_of_other_space`).

What holds is the law of the FIRST: a planner works in the space of the first context that was
handed out with it, and that context has the same configuration name.  For a planner that is not
kept, this first context is the only one.

Main statement: `planner_works_in_first_space`, for every context that a run of a new manager hands
out.
-/
import MotionContexts.Proofs.Manager.Session

namespace MotionContexts

universe u

/-! ## 1. Planners at work in a space -/

namespace Workspace

variable {σ : Type u}

/-- The planner exists, and its last problem is in the space. -/
def WorksIn (w : Workspace σ) (n : Nat) (space : Space) : Prop :=
  (w.planner? n).map Planner.problem? = some (some space)

theorem WorksIn.lt {w : Workspace σ} {n : Nat} {space : Space} (h : w.WorksIn n space) :
    n < w.planners.length := by
  obtain ⟨p, hp, -⟩ := Option.map_eq_some_iff.mp h
  exact lt_of_planner?_eq_some hp

theorem WorksIn.enrolls {w w' : Workspace σ} {k n : Nat} {p : Planner} {space : Space}
    (h : w.WorksIn k space) (hw : w.Enrolls w' n p) : w'.WorksIn k space := by
  have hne : ¬ k = n := by
    have hlt := h.lt
    have hn := hw.number
    omega
  rw [WorksIn, hw.planner?, if_neg hne]
  exact h

theorem worksIn_of_enrolls {w w' : Workspace σ} {n : Nat} {p : Planner} {space : Space}
    (hw : w.Enrolls w' n p) (hp : p.problem? = some space) : w'.WorksIn n space := by
  rw [WorksIn, hw.planner?, if_pos rfl, Option.map_some, hp]

theorem WorksIn.explore {w : Workspace σ} {k : Nat} {space : Space} (h : w.WorksIn k space)
    (n : Nat) (bytes : List UInt8) : (w.explore n bytes).2.WorksIn k space := by
  rw [WorksIn, map_planner?_explore _ Planner.problem?_explore]
  exact h

theorem WorksIn.saved {w w' : Workspace σ} {l : List (Path × PlannerData)} {k : Nat} {space : Space}
    (h : w.WorksIn k space) (hw : w.Saved w' l) : w'.WorksIn k space := by
  rw [WorksIn, hw.planner?]
  exact h

end Workspace

namespace Manager

variable {σ : Type u}

/-! ## 2. The invariant -/

/-- Among the contexts there is a first one with the planner of the context.  The planner works in
its space, it has the name of the context, and it IS the context unless the planner is kept. -/
def MadeFor (seen : List PlanningContext) (w : Workspace σ) (c : PlanningContext) : Prop :=
  ∃ first, seen.find? (fun d => d.planner == c.planner) = some first ∧
    w.WorksIn c.planner first.space ∧ first.spec.name = c.spec.name ∧
    (Retention.enabled c.spec.options = false → first = c)

/-- What the contexts seen so far have to do with the state. -/
structure Accounted (seen : List PlanningContext) (s : Session σ) : Prop where
  made : ∀ c ∈ seen, MadeFor seen s.workspace c
  cached : ∀ k c, s.manager.cache.contexts.get? k = some c → c ∈ seen
  kept : ∀ name n, s.manager.cache.pool.planners.get? name = some n →
    ∃ c ∈ seen, c.planner = n ∧ c.spec.name = name

/-- A kept planner stays accounted for, whatever comes after. -/
theorem Accounted.kept_append {seen : List PlanningContext} {s : Session σ} (h : Accounted seen s)
    (more : List PlanningContext) (name : String) (n : Nat)
    (hn : s.manager.cache.pool.planners.get? name = some n) :
    ∃ c ∈ seen ++ more, c.planner = n ∧ c.spec.name = name := by
  obtain ⟨c, hc, hp, hname⟩ := h.kept name n hn
  exact ⟨c, List.mem_append_left _ hc, hp, hname⟩

/-- The first context stays the first, and the planner stays at work, whatever comes after. -/
theorem MadeFor.mono {seen : List PlanningContext} {w w' : Workspace σ} {c : PlanningContext}
    (h : MadeFor seen w c) (hw : ∀ n space, w.WorksIn n space → w'.WorksIn n space)
    (more : List PlanningContext) : MadeFor (seen ++ more) w' c := by
  obtain ⟨first, hfirst, hworks, hname, hself⟩ := h
  refine ⟨first, ?_, hw _ _ hworks, hname, hself⟩
  rw [List.find?_append, hfirst, Option.some_or]

/-- A context with a planner that was never seen is the first one with it. -/
theorem madeFor_fresh {seen : List PlanningContext} {w w' : Workspace σ} {c : PlanningContext}
    {p : Planner} (hseen : ∀ d ∈ seen, MadeFor seen w d) (hw : w.Enrolls w' c.planner p)
    (hp : p.problem? = some c.space) : MadeFor (seen ++ [c]) w' c := by
  have hnone : seen.find? (fun d => d.planner == c.planner) = none := by
    refine List.find?_eq_none.mpr fun d hd heq => ?_
    obtain ⟨_, -, hworks, -⟩ := hseen d hd
    have hlt := hworks.lt
    have hn := hw.number
    have : d.planner = c.planner := by simpa using heq
    omega
  refine ⟨c, ?_, Workspace.worksIn_of_enrolls hw hp, rfl, fun _ => rfl⟩
  rw [List.find?_append, hnone, Option.none_or]
  simp

/-- A context with a planner that was seen under its name shares the first context of it. -/
theorem madeFor_reused {seen : List PlanningContext} {w : Workspace σ} {c d : PlanningContext}
    (hd : MadeFor seen w d) (hplanner : d.planner = c.planner) (hname : d.spec.name = c.spec.name)
    (hkept : Retention.enabled c.spec.options = true) : MadeFor (seen ++ [c]) w c := by
  obtain ⟨first, hfirst, hworks, hfname, -⟩ := hd
  rw [hplanner] at hfirst hworks
  refine ⟨first, ?_, hworks, hfname.trans hname, fun h => ?_⟩
  · rw [List.find?_append, hfirst, Option.some_or]
  · rw [hkept] at h
    cases h

/-! ## 3. One operation -/

/-- Handing a planner out accounts for the context that gets it. -/
theorem Accounted.allocates {seen : List PlanningContext} {s : Session σ} (h : Accounted seen s)
    {family : PlannerFamily} {options : Table String} {pool : PlannerPool σ} {w : Workspace σ}
    {c : PlanningContext}
    (ha : PlannerPool.Allocates s.manager.cache.pool family c.space c.spec.name options s.workspace
      (.ok c.planner) pool w)
    (ho : Retention.enabled options = Retention.enabled c.spec.options) :
    (∀ d ∈ seen ++ [c], MadeFor (seen ++ [c]) w d) ∧
      ∀ name n, pool.planners.get? name = some n →
        ∃ d ∈ seen ++ [c], d.planner = n ∧ d.spec.name = name := by
  have hkept := h.kept_append [c]
  rcases ha.reused_or_made with ⟨henabled, hn, rfl, rfl⟩ | ⟨p, hw, hp, hplanners⟩
  · refine ⟨fun d hd => ?_, hkept⟩
    rcases List.mem_append.mp hd with hd | hd
    · exact (h.made d hd).mono (fun _ _ hw => hw) _
    · obtain ⟨d₀, hd₀, hplanner, hname⟩ := h.kept _ _ hn
      rw [List.mem_singleton.mp hd]
      exact madeFor_reused (h.made d₀ hd₀) hplanner hname (ho ▸ henabled)
  · refine ⟨fun d hd => ?_, fun name n hn => ?_⟩
    · rcases List.mem_append.mp hd with hd | hd
      · exact (h.made d hd).mono (fun _ _ hk => hk.enrolls hw) _
      · rw [List.mem_singleton.mp hd]
        exact madeFor_fresh h.made hw hp
    · rcases hplanners with hplanners | hplanners <;> rw [hplanners] at hn
      · exact hkept name n hn
      · rw [Table.get?_insert] at hn
        split at hn
        · rename_i hname
          cases hn
          exact ⟨c, by simp, rfl, hname.symm⟩
        · exact hkept name n hn

/-- Handing a context out again changes nothing. -/
theorem Accounted.again {seen : List PlanningContext} {s : Session σ} (h : Accounted seen s)
    {c : PlanningContext} (hc : c ∈ seen) : Accounted (seen ++ [c]) s where
  made d hd := by
    refine (h.made d ?_).mono (fun _ _ hw => hw) _
    rcases List.mem_append.mp hd with hd | hd
    · exact hd
    · rw [List.mem_singleton.mp hd]
      exact hc
  cached k d hd := List.mem_append_left _ (h.cached k d hd)
  kept := h.kept_append [c]

/-- A look-up accounts for the context that it hands out. -/
theorem Accounted.looksUp {seen : List PlanningContext} {s : Session σ} (h : Accounted seen s)
    {name : String} {c : Option PlanningContext} {m : Manager σ} {w : Workspace σ}
    (hl : LooksUp s.manager name s.workspace c m w) : Accounted (seen ++ c.toList) ⟨m, w⟩ := by
  cases hl with
  | refused =>
    rw [Option.toList_none, List.append_nil]
    exact h
  | answered hn hf ha =>
    cases ha with
    | cached hc => exact h.again (h.cached _ _ hc)
    | @built c pool w hc hb =>
      obtain ⟨family, options, w₁, ha, rfl, ho⟩ := hb.allocates
      obtain ⟨hmade, hkept⟩ := h.allocates ha ho
      refine ⟨hmade, fun k d hd => ?_, hkept⟩
      rw [KeyedList.get?_insert] at hd
      split at hd
      · cases hd
        simp
      · exact List.mem_append_left _ (h.cached k d hd)

/-- What keeps planners at work, and adds neither contexts nor kept planners, needs no account. -/
theorem Accounted.fewer {seen : List PlanningContext} {s s' : Session σ} (h : Accounted seen s)
    (hw : ∀ n space, s.workspace.WorksIn n space → s'.workspace.WorksIn n space)
    (hcached : ∀ k c, s'.manager.cache.contexts.get? k = some c →
      s.manager.cache.contexts.get? k = some c)
    (hkept : ∀ name n, s'.manager.cache.pool.planners.get? name = some n →
      s.manager.cache.pool.planners.get? name = some n) : Accounted seen s' where
  made c hc := by
    have hm := (h.made c hc).mono hw []
    rwa [List.append_nil] at hm
  cached k c hc := h.cached k c (hcached k c hc)
  kept name n hn := h.kept name n (hkept name n hn)

/-- **One operation keeps the accounts.** -/
theorem Accounted.effect {seen : List PlanningContext} {s s' : Session σ}
    {c : Option PlanningContext} (h : Accounted seen s) (he : Session.Effect s c s') :
    Accounted (seen ++ c.toList) s' := by
  cases he with
  | looked hl => exact h.looksUp hl
  | replaced hc =>
    rw [Option.toList_none, List.append_nil]
    refine h.fewer (fun _ _ hw => hw) (fun k d hd => ?_) fun name n hn => ?_
    · rw [hc] at hd
      cases hd
    · rw [hc] at hn
      exact hn
  | adjusted _ hc =>
    rw [Option.toList_none, List.append_nil]
    refine h.fewer (fun _ _ hw => hw) (fun k d hd => ?_) fun name n hn => ?_
    · rwa [hc] at hd
    · rwa [hc] at hn
  | forgot name =>
    rw [Option.toList_none, List.append_nil]
    have hsaved := PlannerPool.saved_invalidate s.manager.cache.pool name s.workspace
    refine h.fewer (fun _ _ hw => hw.saved hsaved) (fun k d hd => ?_) fun name' n hn => ?_
    · rw [ContextCache.get?_invalidatePlanner] at hd
      split at hd
      · cases hd
      · exact hd
    · rw [ContextCache.pool_invalidatePlanner, PlannerPool.planners_invalidate] at hn
      rw [Table.get?_erase] at hn
      split at hn
      · cases hn
      · exact hn
  | stored =>
    rw [Option.toList_none, List.append_nil]
    have hsaved := PlannerPool.saved_shutdown s.manager.cache.pool s.workspace
    exact h.fewer (fun _ _ hw => hw.saved hsaved) (fun _ _ hd => hd) fun _ _ hn => hn
  | explored n bytes =>
    rw [Option.toList_none, List.append_nil]
    exact h.fewer (fun _ _ hw => hw.explore n bytes) (fun _ _ hd => hd) fun _ _ hn => hn

/-! ## 4. Runs -/

theorem Accounted.new (storage : Storage σ) (w : Workspace σ) :
    Accounted [] (Session.new storage w) where
  made c hc := by cases hc
  cached k c hc := by cases hc
  kept name n hn := by cases hn

/-- **A run accounts for every context that it hands out.** -/
theorem Accounted.run (ops : List Operation) :
    ∀ {seen : List PlanningContext} {s : Session σ}, Accounted seen s →
      Accounted (seen ++ s.handedOut ops) (s.run ops) := by
  induction ops with
  | nil =>
    intro seen s h
    rw [Session.handedOut, List.append_nil]
    exact h
  | cons op ops ih =>
    intro seen s h
    rw [Session.handedOut, ← List.append_assoc]
    exact ih (h.effect (s.effect_perform op))

/-- **A planner works in the space of the first context handed out with it.**  In every run of a new
manager, whatever it is asked and told, each context that is handed out has a planner that exists,
and among the contexts handed out with this planner there is a first one; the planner's last problem
is in the space of the FIRST one, which has the same configuration name.  If the options of the
context do not want the planner kept, the first one is the context itself, and the planner works in
its own space. -/
theorem planner_works_in_first_space (storage : Storage σ) (w : Workspace σ)
    (ops : List Operation) :
    ∀ c ∈ (Session.new storage w).handedOut ops,
      ∃ first p, ((Session.new storage w).handedOut ops).find? (fun d => d.planner == c.planner) =
          some first ∧
        ((Session.new storage w).run ops).workspace.planner? c.planner = some p ∧
        p.problem? = some first.space ∧ first.spec.name = c.spec.name ∧
        (Retention.enabled c.spec.options = false → p.problem? = some c.space) := by
  intro c hc
  obtain ⟨first, hfirst, hworks, hname, hself⟩ := ((Accounted.new storage w).run ops).made c hc
  obtain ⟨p, hp, hproblem⟩ := Option.map_eq_some_iff.mp hworks
  exact ⟨first, p, hfirst, hp, hproblem, hname, fun h => by rw [hproblem, hself h]⟩

/-- One configuration that keeps its planner, looked up in joint space and then in pose space. -/
def sharedRun : List Operation := Session.posedRun ++ [.context "arm" (some "PoseModel")]

theorem planner_works_in_first_space_sharedRun :
    ∃ c ∈ (Session.new .memory { contents := ∅ }).handedOut sharedRun,
      c.space = ⟨"PoseModel", "arm"⟩ ∧
      ∃ (first : PlanningContext) (p : Planner),
        ((Session.new .memory { contents := ∅ }).run sharedRun).workspace.planner? c.planner =
          some p ∧
        p.problem? = some first.space ∧ first.spec.name = "arm" := by
  refine ⟨_, .tail _ (.head _), rfl, ?_⟩
  obtain ⟨first, p, -, hp, hproblem, hname, -⟩ :=
    planner_works_in_first_space .memory { contents := ∅ } sharedRun _ (.tail _ (.head _))
  exact ⟨first, p, hp, hproblem, hname⟩

/-- **A planner may work in another space than that of its context.**  The context in pose space
gets the planner that was made for joint space. -/
theorem planner_of_other_space :
    ¬ ∀ (ops : List Operation), ∀ c ∈ (Session.new .memory { contents := ∅ }).handedOut ops,
      ∃ p, ((Session.new .memory { contents := ∅ }).run ops).workspace.planner? c.planner = some p ∧
        p.problem? = some c.space := by
  intro h
  obtain ⟨p, hp, hs⟩ := h sharedRun _ (.tail _ (.head _))
  cases hp
  exact absurd hs (by decide)

end Manager

end MotionContexts
