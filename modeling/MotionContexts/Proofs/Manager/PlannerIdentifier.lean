/-
# The planner identifier that a context reports

A context is built with a planner identifier and reports it.  Its planner, though, may be one that
was kept: it was made as an EARLIER context was built, for the same configuration name but perhaps
with another type among the options, or with another default.  The identifier is resolved all the
same, for nothing but the report; so a context may report a planner that it does not have
(`reports_other_planner`).

What a context reports is the identifier that its OWN build resolved, from its own options and the
default of then.  The planner was made by the build of the first context with it, from the family
that the identifier of THAT context stood for.  The two identifiers are the same exactly if the type
option, or the default where there is none, was the same in both; and there is but one build where
the planner is not kept.

Main statement: `reports_own_build`, for every context that a run of a new manager hands out.
-/
import MotionContexts.Proofs.Manager.Layers

namespace MotionContexts

universe u

/-! ## 1. Planners and the families that made them -/

/-- The identifier that is resolved is the one that is asked for, or else the default one. -/
theorem PlannerCatalog.or_of_resolve {catalog : PlannerCatalog} {id : Option String}
    {plannerId : String} {family : PlannerFamily} (h : catalog.resolve id = .ok (plannerId, family)) :
    id.or catalog.default = some plannerId := by
  unfold resolve at h
  split at h
  · rename_i id' hid
    split at h
    · cases h
      exact hid
    · cases h
  · cases h

/-- **A planner that is handed out** is the one kept under the name, or the family made it just now
and it was set up for the name and the space. -/
theorem PlannerPool.Allocates.reused_or_constructed {σ : Type u} {pool pool' : PlannerPool σ}
    {family : PlannerFamily} {space : Space} {name : String} {config : Table String}
    {w w' : Workspace σ} {n : Nat}
    (h : Allocates pool family space name config w (.ok n) pool' w') :
    (Retention.enabled config = true ∧ pool.planners.get? name = some n ∧ pool' = pool ∧ w' = w) ∨
      ∃ made options, family.Makes space made ∧
        w.Enrolls w' n (made.prepare name options space) ∧
        (pool'.planners = pool.planners ∨ pool'.planners = pool.planners.insert name n) := by
  cases h with
  | single hx hr =>
    exact .inr ⟨_, _, construct_makes .., build_enrolls .., .inl rfl⟩
  | kept hx hr hn =>
    rw [Retention.extract_multiQuery hx] at hr
    exact .inl ⟨hr, hn, rfl, rfl⟩
  | first hx hr hn =>
    exact .inr ⟨_, _, construct_makes .., build_enrolls .., .inr (planners_keep ..)⟩

/-- **What a new context is built with**: the family that its identifier was resolved to. -/
theorem ContextCache.Builds.resolved {σ : Type u} {pool pool' : PlannerPool σ}
    {source : ContextSource} {w w' : Workspace σ} {c : PlanningContext}
    (h : Builds pool source w (.ok c) pool' w') :
    ∃ family options w₁,
      source.planners.resolve (c.spec.options.get? ContextSource.plannerOption) =
        .ok (c.spec.plannerId, family) ∧
      PlannerPool.Allocates pool family c.space c.spec.name options w (.ok c.planner) pool' w₁ ∧
      c.number = w₁.contexts ∧ w' = { w₁ with contexts := w₁.contexts + 1 } ∧
      Retention.enabled options = Retention.enabled c.spec.options := by
  cases h with
  | built hl hp hb ha => exact ⟨_, _, _, hp, ha, rfl, rfl, Limits.enabled_of_applyOverrides hl⟩

namespace Manager.Session

variable {σ : Type u}

/-! ## 2. What one operation builds -/

/-- The operation builds the context, and hands it out: the number is the next one, and the
identifier is resolved from the options of the context, to the family. -/
structure Builds (s : Session σ) (op : Operation) (c : PlanningContext) (family : PlannerFamily) :
    Prop where
  handedOut : (s.perform op).1 = some c
  number : c.number = s.workspace.contexts
  resolved : s.manager.planners.resolve (c.spec.options.get? ContextSource.plannerOption) =
    .ok (c.spec.plannerId, family)

/-- The operation builds the context, and the planner for it: the family makes it, and it is set up
for the name and the space of the context. -/
structure Makes (s : Session σ) (op : Operation) (c : PlanningContext) (family : PlannerFamily) :
    Prop extends s.Builds op c family where
  planner : c.planner = s.workspace.planners.length
  made : ∃ p options, family.Makes c.space p ∧
    (s.perform op).2.workspace.planner? c.planner = some (p.prepare c.spec.name options c.space)

/-- No new context and no new planner: what the operation hands out was cached, and what is cached
and kept behind it was before. -/
structure NothingNew (s : Session σ) (op : Operation) : Prop where
  handedOut : ∀ c, (s.perform op).1 = some c → ∃ k, s.manager.cache.get? k = some c
  cached : ∀ k c, (s.perform op).2.manager.cache.get? k = some c → s.manager.cache.get? k = some c
  kept : ∀ name n, (s.perform op).2.manager.cache.pool.planners.get? name = some n →
    s.manager.cache.pool.planners.get? name = some n

/-- One new context, with a planner that was kept under its name or with one that is made for it. -/
structure OneNew (s : Session σ) (op : Operation) (c : PlanningContext) (family : PlannerFamily) :
    Prop where
  builds : s.Builds op c family
  cached : ∀ k d, (s.perform op).2.manager.cache.get? k = some d →
    d = c ∨ s.manager.cache.get? k = some d
  planner : s.Makes op c family ∨ (Retention.enabled c.spec.options = true ∧
    s.manager.cache.pool.planners.get? c.spec.name = some c.planner)
  kept : ∀ name n, (s.perform op).2.manager.cache.pool.planners.get? name = some n →
    (s.Makes op c family ∧ c.spec.name = name ∧ c.planner = n) ∨
      s.manager.cache.pool.planners.get? name = some n

/-- An operation that changes nothing brings nothing new, if it hands out what is cached. -/
theorem nothingNew_of_unchanged {s : Session σ} {op : Operation} {out : Option PlanningContext}
    (hperform : s.perform op = (out, s))
    (hout : ∀ c, out = some c → ∃ k, s.manager.cache.get? k = some c) : s.NothingNew op := by
  refine ⟨fun c hc => ?_, fun k c hc => ?_, fun name n hn => ?_⟩
  · rw [hperform] at hc
    exact hout c hc
  · rw [hperform] at hc
    exact hc
  · rw [hperform] at hn
    exact hn

/-- An operation that looks no context up brings nothing new. -/
theorem nothingNew_of_not_sought {s : Session σ} {op : Operation} (h : s.sought? op = none) :
    s.NothingNew op := by
  have hplain : ∀ source, plainOperation op ≠ .context source := by
    intro source
    cases op with
    | apply d =>
      rw [plainOperation]
      split <;> exact fun he => by cases he
    | _ => exact fun he => by cases he
  have hstep := s.cached_perform op
  have hout := s.handsOut?_cacheOperation op
  rw [cacheOperation_of_not_sought h] at hstep hout
  have hfewer := s.cached.fewer_step hplain
  rw [← hstep] at hfewer
  refine ⟨fun c hc => ?_, hfewer.cached, hfewer.pool⟩
  rw [← hout] at hc
  cases hop : plainOperation op with
  | context source => exact absurd hop (hplain source)
  | _ =>
    rw [hop] at hc
    cases hc

/-- A context that is built as it is looked up is the only new one. -/
theorem oneNew_of_built {s : Session σ} {op : Operation} {source : ContextSource}
    {c : PlanningContext} {pool : PlannerPool σ} {w : Workspace σ}
    (hplanners : source.planners = s.manager.planners)
    (hb : ContextCache.Builds s.manager.cache.pool source s.workspace (.ok c) pool w)
    (hperform : s.perform op = (some c,
      ⟨{ s.manager with cache := ⟨s.manager.cache.contexts.insert source.key c, pool⟩ }, w⟩)) :
    ∃ family, s.OneNew op c family := by
  obtain ⟨family, options, w₁, hp, ha, hnumber, rfl, henabled⟩ := hb.resolved
  rw [hplanners] at hp
  have hcached : ∀ k d, (s.perform op).2.manager.cache.get? k = some d →
      d = c ∨ s.manager.cache.get? k = some d := by
    intro k d hd
    rw [hperform] at hd
    exact (ContextCache.Session.get?_insert_cases hd).imp And.right And.right
  rcases ha.reused_or_constructed with ⟨hkept, hn, rfl, rfl⟩ | ⟨p, given, hmakes, hw, hpool⟩
  · -- the planner was there, and so is everything that is kept
    have hbuilds : s.Builds op c family := ⟨by rw [hperform], hnumber, hp⟩
    refine ⟨family, hbuilds, hcached, .inr ⟨henabled ▸ hkept, hn⟩, fun name m hm => .inr ?_⟩
    rw [hperform] at hm
    exact hm
  · have hbuilds : s.Builds op c family := ⟨by rw [hperform], hnumber.trans hw.contexts, hp⟩
    have hmade : s.Makes op c family := by
      refine ⟨hbuilds, hw.number, p, given, hmakes, ?_⟩
      rw [hperform]
      exact (hw.planner? c.planner).trans (if_pos rfl)
    refine ⟨family, hbuilds, hcached, .inl hmade, fun name m hm => ?_⟩
    rw [hperform] at hm
    have hm : pool.planners.get? name = some m := hm
    rcases hpool with hsame | hinsert
    · exact .inr (hsame ▸ hm)
    · rw [hinsert, Table.get?_insert] at hm
      split at hm
      · rename_i hname
        exact .inl ⟨hmade, hname.symm, Option.some.inj hm⟩
      · exact .inr hm

/-- **An operation brings nothing new, or one context.** -/
theorem nothingNew_or_oneNew (s : Session σ) (op : Operation) :
    s.NothingNew op ∨ ∃ c family, s.OneNew op c family := by
  cases hs : s.sought? op with
  | none => exact .inl (nothingNew_of_not_sought hs)
  | some e =>
    obtain ⟨cfg, f⟩ := e
    have hperform := perform_of_sought hs
    rcases ha : s.manager.cache.context (s.manager.source cfg f) s.workspace with ⟨result, cache, w⟩
    simp only [ask, ha] at hperform
    cases ContextCache.answers_of_eq ha with
    | @cached c hc =>
      refine .inl (nothingNew_of_unchanged hperform fun d hd => ?_)
      cases hd
      exact ⟨_, hc⟩
    | failed =>
      refine .inl (nothingNew_of_unchanged hperform fun d hd => ?_)
      cases hd
    | @built c pool _ hc hb => exact .inr ⟨c, oneNew_of_built rfl hb hperform⟩

/-! ## 3. Where contexts and kept planners come from -/

/-- The operation of the run builds the context, from the family. -/
def BuiltAt (s : Session σ) (ops : List Operation) (i : Nat) (c : PlanningContext)
    (family : PlannerFamily) : Prop := ∃ op, ops[i]? = some op ∧ (s.after ops i).Builds op c family

/-- The operation of the run builds the context, and the family makes the planner for it. -/
def MadeAt (s : Session σ) (ops : List Operation) (i : Nat) (c : PlanningContext)
    (family : PlannerFamily) : Prop := ∃ op, ops[i]? = some op ∧ (s.after ops i).Makes op c family

/-- The context was built by one of the first operations, and its planner was made by the same one,
or for a context of the same name by one before. -/
def Traced (s : Session σ) (ops : List Operation) (t : Nat) (c : PlanningContext) : Prop :=
  ∃ b i first family family', b < t ∧ i ≤ b ∧ s.BuiltAt ops b c family ∧
    s.MadeAt ops i first family' ∧ first.planner = c.planner ∧ first.spec.name = c.spec.name ∧
    (Retention.enabled c.spec.options = false → i = b ∧ first = c)

/-- Every context that is cached is traced, and every planner that is kept was made for its name. -/
structure Traces (s : Session σ) (ops : List Operation) (t : Nat) : Prop where
  cached : ∀ k c, (s.after ops t).manager.cache.get? k = some c → s.Traced ops t c
  kept : ∀ name n, (s.after ops t).manager.cache.pool.planners.get? name = some n →
    ∃ i first family, i < t ∧ s.MadeAt ops i first family ∧ first.planner = n ∧
      first.spec.name = name

theorem Traced.succ {s : Session σ} {ops : List Operation} {t : Nat} {c : PlanningContext}
    (h : s.Traced ops t c) : s.Traced ops (t + 1) c := by
  obtain ⟨b, i, first, family, family', hb, h⟩ := h
  exact ⟨b, i, first, family, family', Nat.lt_succ_of_lt hb, h⟩

/-- A new context is traced: its planner was made just now, or was kept. -/
theorem Traces.oneNew {s : Session σ} {ops : List Operation} {t : Nat} (h : s.Traces ops t)
    {op : Operation} (hop : ops[t]? = some op) {c : PlanningContext} {family : PlannerFamily}
    (hnew : (s.after ops t).OneNew op c family) : s.Traced ops (t + 1) c := by
  have hbuilt : s.BuiltAt ops t c family := ⟨op, hop, hnew.builds⟩
  rcases hnew.planner with hmade | ⟨henabled, hkept⟩
  · exact ⟨t, t, c, family, family, Nat.lt_succ_self t, Nat.le_refl t, hbuilt, ⟨op, hop, hmade⟩, rfl,
      rfl, fun _ => ⟨rfl, rfl⟩⟩
  · obtain ⟨i, first, family', hi, hmade, hplanner, hname⟩ := h.kept _ _ hkept
    refine ⟨t, i, first, family, family', Nat.lt_succ_self t, Nat.le_of_lt hi, hbuilt, hmade,
      hplanner, hname, fun hno => ?_⟩
    rw [henabled] at hno
    cases hno

/-- What an operation hands out is traced. -/
theorem Traces.handedOut {s : Session σ} {ops : List Operation} {t : Nat} (h : s.Traces ops t)
    {op : Operation} (hop : ops[t]? = some op) {c : PlanningContext}
    (hc : ((s.after ops t).perform op).1 = some c) : s.Traced ops (t + 1) c := by
  rcases nothingNew_or_oneNew (s.after ops t) op with hnone | ⟨d, family, hnew⟩
  · obtain ⟨k, hk⟩ := hnone.handedOut c hc
    exact (h.cached k c hk).succ
  · obtain rfl : d = c := Option.some.inj (hnew.builds.handedOut.symm.trans hc)
    exact h.oneNew hop hnew

/-- **One operation keeps the traces.** -/
theorem Traces.succ {s : Session σ} {ops : List Operation} {t : Nat} (h : s.Traces ops t)
    {op : Operation} (hop : ops[t]? = some op) : s.Traces ops (t + 1) := by
  have hold : ∀ {name n}, (s.after ops t).manager.cache.pool.planners.get? name = some n →
      ∃ i first family, i < t + 1 ∧ s.MadeAt ops i first family ∧ first.planner = n ∧
        first.spec.name = name := by
    intro name n hn
    obtain ⟨i, first, family, hi, hmade⟩ := h.kept name n hn
    exact ⟨i, first, family, Nat.lt_succ_of_lt hi, hmade⟩
  rcases nothingNew_or_oneNew (s.after ops t) op with hnone | ⟨c, family, hnew⟩
  · refine ⟨fun k d hd => ?_, fun name n hn => ?_⟩
    · rw [s.after_succ hop] at hd
      exact (h.cached k d (hnone.cached k d hd)).succ
    · rw [s.after_succ hop] at hn
      exact hold (hnone.kept name n hn)
  · refine ⟨fun k d hd => ?_, fun name n hn => ?_⟩
    · rw [s.after_succ hop] at hd
      rcases hnew.cached k d hd with rfl | hd
      · exact h.oneNew hop hnew
      · exact (h.cached k d hd).succ
    · rw [s.after_succ hop] at hn
      rcases hnew.kept name n hn with ⟨hmade, hname, hplanner⟩ | hn
      · exact ⟨t, c, family, Nat.lt_succ_self t, ⟨op, hop, hmade⟩, hplanner, hname⟩
      · exact hold hn

theorem traces_after (storage : Storage σ) (w : Workspace σ) (ops : List Operation) :
    ∀ t ≤ ops.length, (new storage w).Traces ops t := by
  intro t
  induction t with
  | zero =>
    refine fun _ => ⟨fun k c hc => ?_, fun name n hn => ?_⟩
    · cases hc
    · cases hn
  | succ t ih =>
    exact fun ht => (ih (Nat.le_of_succ_le ht)).succ (List.getElem?_eq_getElem ht)

/-! ## 4. The theorem -/

/-- **A context reports the identifier of its own build.**  In every run of a new manager, each
context that is handed out was built by some operation `b`, which resolved the identifier that the
context reports from the options of the context and the default of then.  Its planner was made by an
operation `i`, the same or an earlier one, from the family that the identifier of the context built
THERE stood for; that context is the first with the planner, and has the same configuration name.

The context reports the identifier of its planner exactly if the type option, or else the default,
was the same in both builds; and if the options do not want the planner kept, there is one build
only. -/
theorem reports_own_build (storage : Storage σ) (w : Workspace σ) (ops : List Operation) (j : Nat)
    (op : Operation) (hop : ops[j]? = some op) (c : PlanningContext)
    (hc : (((new storage w).after ops j).perform op).1 = some c) :
    ∃ b i first family family', b ≤ j ∧ i ≤ b ∧
      (new storage w).BuiltAt ops b c family ∧ (new storage w).MadeAt ops i first family' ∧
      first.planner = c.planner ∧ first.spec.name = c.spec.name ∧
      (c.spec.plannerId = first.spec.plannerId ↔
        (c.spec.options.get? ContextSource.plannerOption).or
            ((new storage w).after ops b).manager.planners.default =
          (first.spec.options.get? ContextSource.plannerOption).or
            ((new storage w).after ops i).manager.planners.default) ∧
      (Retention.enabled c.spec.options = false → i = b ∧ first = c) := by
  have hj : j < ops.length := (List.getElem?_eq_some_iff.mp hop).1
  have htraces := traces_after storage w ops j (Nat.le_of_lt hj)
  obtain ⟨b, i, first, family, family', hb, hi, hbuilt, hmade, hplanner, hname, hown⟩ :=
    htraces.handedOut hop hc
  refine ⟨b, i, first, family, family', Nat.le_of_lt_succ hb, hi, hbuilt, hmade, hplanner, hname, ?_,
    hown⟩
  obtain ⟨_, -, hbuilds⟩ := hbuilt
  obtain ⟨_, -, hmakes⟩ := hmade
  rw [PlannerCatalog.or_of_resolve hbuilds.resolved, PlannerCatalog.or_of_resolve hmakes.resolved]
  exact Option.some_inj.symm

open MotionContexts.Sample

/-- Another family. -/
def trees : PlannerFamily where
  plannerType := "tree"
  allocate _ := { roadmaps.allocate ⟨"", ""⟩ with plannerType := "tree" }

/-- A configuration keeps its planner, and is looked up; then it is replaced by one of the same name
with another type, and looked up again. -/
def retypedRun : List Operation :=
  [.registerPlanner "roadmap" roadmaps, .registerPlanner "tree" trees,
    .setConfigurations (.ofList [arm kept]), .context "arm" none,
    .setConfigurations
      (.ofList [⟨"arm", "arm", kept.insert ContextSource.plannerOption "tree"⟩]),
    .context "arm" none]

theorem reports_own_build_retypedRun :
    ∃ (c first : PlanningContext) (i : Nat) (family : PlannerFamily),
      (((new .memory { contents := ∅ }).after retypedRun 5).perform (.context "arm" none)).1 =
          some c ∧
        i ≤ 5 ∧ (new .memory { contents := ∅ }).MadeAt retypedRun i first family ∧
        first.planner = c.planner ∧ first.spec.name = "arm" := by
  obtain ⟨b, i, first, _, family, hb, hi, -, hmade, hplanner, hname, -⟩ :=
    reports_own_build .memory { contents := ∅ } retypedRun 5 _ rfl _ rfl
  exact ⟨_, first, i, family, rfl, Nat.le_trans hi hb, hmade, hplanner, hname⟩

/-- **A context may report a planner that it does not have.**  The second context reports the new
type, and its planner is the one that was kept, which was made for the old type. -/
theorem reports_other_planner :
    ∃ c c' p, (((new .memory { contents := ∅ }).after retypedRun 3).perform
        (.context "arm" none)).1 = some c ∧
      (((new .memory { contents := ∅ }).after retypedRun 5).perform
        (.context "arm" none)).1 = some c' ∧
      c'.planner = c.planner ∧ c.spec.plannerId = "roadmap" ∧ c'.spec.plannerId = "tree" ∧
      ((new .memory { contents := ∅ }).after retypedRun 6).workspace.planner? c'.planner =
        some p ∧ p.plannerType = "roadmap" :=
  ⟨_, _, _, rfl, rfl, rfl, rfl, rfl, rfl, rfl⟩

end Manager.Session

end MotionContexts
