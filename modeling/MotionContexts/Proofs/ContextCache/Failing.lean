/-
# Why a context cannot be built

Building a context goes through four steps that may fail: limits are overridden, the planner
identifier is resolved, the space is built, and the options about keeping the planner are read.
Each step works on what the steps before it left over, but WHETHER it fails can be said of the
source alone (`BuildStep.Fails`): every option that is read is still what it was in the
configuration.

So a build fails exactly if one of the steps does, and of several steps that do the first one gives
the answer.

Main statements:
* `Limits.override_cases`, `PlannerCatalog.resolve_cases` and `Retention.extract_cases`, when the
  steps fail and with which cause;
* `build_cases`, the answer of a build.
-/
import MotionContexts.Proofs.ContextCache.Answers
import MotionContexts.Proofs.Options

namespace MotionContexts

universe u

/-! ## 1. Limits that are overridden -/

namespace Limits

/-- Some option with the name of a limit does not read as a value of this limit. -/
def Unreadable (options : Table String) : Prop :=
  ∃ (k : LimitKey) (raw : String), options.get? k.name = some raw ∧ k.read? raw = none

/-- **Overrides fail** exactly if the option of one of the keys cannot be read; the cause is the
value of an option. -/
theorem override_cases {ks : List LimitKey} (l : Limits) (options : Table String)
    (hnodup : ks.Nodup) :
    ((∃ k ∈ ks, ∃ raw, options.get? k.name = some raw ∧ k.read? raw = none) ∧
      ∃ key raw l' rest,
        override ks l options = (.error (.invalidOptionValue key raw), l', rest)) ∨
    ((∀ k ∈ ks, ∀ raw, options.get? k.name = some raw → k.read? raw ≠ none) ∧
      ∃ l' rest, override ks l options = (.ok (), l', rest)) := by
  rcases h : override ks l options with ⟨e | _, l', rest⟩
  · obtain ⟨earlier, k, later, raw, rfl, hraw, hbad, rfl, -, -⟩ := of_override_error hnodup h
    have hk : k ∈ earlier ++ k :: later := List.mem_append_right _ (List.mem_cons_self ..)
    exact .inl ⟨⟨k, hk, raw, hraw, hbad⟩, _, _, l', rest, rfl⟩
  · obtain ⟨-, -, hread⟩ := of_override_ok hnodup h
    refine .inr ⟨fun k hk raw hraw hbad => ?_, l', rest, rfl⟩
    rw [hread k hk raw hraw] at hbad
    cases hbad

/-- All overrides, of a configuration whose planner option was taken out before. -/
theorem applyOverrides_cases (l : Limits) (options : Table String) :
    (Unreadable options ∧ ∃ key raw l' rest,
      l.applyOverrides (options.erase ContextSource.plannerOption) =
        (.error (.invalidOptionValue key raw), l', rest)) ∨
    (¬ Unreadable options ∧ ∃ l' rest,
      l.applyOverrides (options.erase ContextSource.plannerOption) = (.ok (), l', rest)) := by
  have hget := ContextSource.get?_erase_plannerOption options
  rcases override_cases l (options.erase ContextSource.plannerOption) LimitKey.all_nodup with
    ⟨⟨k, -, raw, hraw, hbad⟩, hfails⟩ | ⟨hgood, hworks⟩
  · exact .inl ⟨⟨k, raw, (hget k).symm.trans hraw, hbad⟩, hfails⟩
  · refine .inr ⟨?_, hworks⟩
    rintro ⟨k, raw, hraw, hbad⟩
    exact hgood k k.mem_all raw ((hget k).trans hraw) hbad

end Limits

/-! ## 2. Planner identifiers -/

namespace PlannerCatalog

/-- There is no identifier, neither this one nor a default, or no family is registered under it. -/
def Lacks (c : PlannerCatalog) (id : Option String) : Prop :=
  (id = none ∧ c.default = none) ∨ ∃ i, id.or c.default = some i ∧ c.families.get? i = none

/-- **An identifier is resolved** exactly if a family is registered under it, or under the default
where there is none. -/
theorem resolve_cases (c : PlannerCatalog) (id : Option String) :
    (c.Lacks id ∧ ∃ i, c.resolve id = .error (.unknownAlgorithm i)) ∨
    (¬ c.Lacks id ∧ ∃ i f, c.resolve id = .ok (i, f)) := by
  unfold resolve Lacks
  cases hid : id.or c.default with
  | none => exact .inl ⟨.inl (Option.or_eq_none_iff.mp hid), "", rfl⟩
  | some i =>
    dsimp only
    unfold find
    cases hf : c.families.get? i with
    | none => exact .inl ⟨.inr ⟨i, rfl, hf⟩, i, rfl⟩
    | some f =>
      refine .inr ⟨?_, i, f, rfl⟩
      rintro (⟨rfl, hdefault⟩ | ⟨j, hj, hnone⟩)
      · rw [hdefault] at hid
        cases hid
      · cases hj
        rw [hf] at hnone
        cases hnone

end PlannerCatalog

/-! ## 3. Options about keeping the planner -/

namespace Retention

/-- Some flag among the options does not read as a truth value. -/
def Unreadable (options : Table String) : Prop :=
  ∃ key ∈ flagKeys, ∃ raw, options.get? key = some raw ∧ flag? raw = none

/-- **The options about keeping are read** exactly if every flag among them can be read; the cause
of a failure is the value of an option. -/
theorem extract_cases (options : Table String) :
    (Unreadable options ∧ ∃ key raw rest,
      extract options = (.error (.invalidOptionValue key raw), rest)) ∨
    (¬ Unreadable options ∧ ∃ r rest, extract options = (.ok r, rest)) := by
  rcases hout : extract options with ⟨e | r, rest⟩
  · cases extracts_of_eq hout with
    | @refused earlier later key e hkeys hearlier hbad =>
      obtain ⟨raw, hraw, hflag, rfl⟩ := readFlag_eq_error_iff.mp hbad
      have hkey : key ∈ flagKeys := hkeys ▸ List.mem_append_right _ (List.mem_cons_self ..)
      exact .inl ⟨⟨key, hkey, raw, hraw, hflag⟩, key, raw, _, rfl⟩
  · refine .inr ⟨?_, r, rest, rfl⟩
    rintro ⟨key, hkey, raw, hraw, hbad⟩
    obtain ⟨b, hb⟩ := (exists_extract_ok_iff options).mp ⟨r, rest, hout⟩ key hkey
    rw [readFlag_eq_error_iff.mpr ⟨raw, hraw, hbad, rfl⟩] at hb
    cases hb

/-- Whether the options can be read is seen in the four of them. -/
theorem unreadable_congr {options rest : Table String}
    (h : ∀ key ∈ keys, rest.get? key = options.get? key) :
    Unreadable rest ↔ Unreadable options := by
  have hflags : ∀ key ∈ flagKeys, rest.get? key = options.get? key := fun key hkey =>
    h key (List.mem_append_left [pathKey] hkey)
  unfold Unreadable
  constructor
  · rintro ⟨key, hkey, raw, hraw, hbad⟩
    exact ⟨key, hkey, raw, (hflags key hkey).symm.trans hraw, hbad⟩
  · rintro ⟨key, hkey, raw, hraw, hbad⟩
    exact ⟨key, hkey, raw, (hflags key hkey).trans hraw, hbad⟩

end Retention

/-! ## 4. The steps of a build -/

/-- The steps of building a context that may fail. -/
inductive BuildStep where
  /-- Limits are overridden by options. -/
  | limits
  /-- The planner identifier is resolved. -/
  | planner
  /-- The space is built. -/
  | space
  /-- The options about keeping the planner are read. -/
  | retention
  deriving DecidableEq, Repr

namespace BuildStep

/-- The code of a failure in the step. -/
def code : BuildStep → ErrorCode
  | .limits => .invalidConfiguration
  | .planner => .plannerAllocationFailed
  | .space => .representationNotFound
  | .retention => .invalidConfiguration

/-- When the step fails. -/
def Fails (s : ContextSource) : BuildStep → Prop
  | .limits => Limits.Unreadable s.configuration.options
  | .planner => s.planners.Lacks (s.configuration.options.get? ContextSource.plannerOption)
  | .space => ∃ e, s.representation.build s.configuration.group = .error e
  | .retention => Retention.Unreadable s.configuration.options

/-- The steps in front of a step. -/
def earlier : BuildStep → List BuildStep
  | .limits => []
  | .planner => [.limits]
  | .space => [.limits, .planner]
  | .retention => [.limits, .planner, .space]

/-- The step fails, and no step in front of it does. -/
structure FailsFirst (s : ContextSource) (step : BuildStep) : Prop where
  fails : step.Fails s
  first : ∀ b ∈ step.earlier, ¬ b.Fails s

/-- At most one step fails first. -/
theorem FailsFirst.unique {s : ContextSource} {a b : BuildStep} (ha : FailsFirst s a)
    (hb : FailsFirst s b) : a = b := by
  -- of two different steps one is in front of the other
  have horder : a = b ∨ a ∈ b.earlier ∨ b ∈ a.earlier := by
    cases a <;> cases b <;> simp [earlier]
  rcases horder with h | h | h
  · exact h
  · exact absurd ha.fails (hb.first a h)
  · exact absurd hb.fails (ha.first b h)

end BuildStep

/-- A representation that cannot build a space answers just that. -/
def Representation.Candid (f : Representation) : Prop :=
  ∀ group e, f.build group = .error e →
    ∃ spaceType group' reason, e = .buildFailed spaceType group' reason

theorem Representation.jointModel_candid : jointModel.Candid := fun group e h => by cases h

theorem Representation.poseModel_candid (ikGroups : List String) : (poseModel ikGroups).Candid := by
  intro group e h
  unfold poseModel at h
  dsimp only at h
  split at h
  · cases h
  · cases h
    exact ⟨_, _, _, rfl⟩

namespace ContextCache

variable {σ : Type u}

/-- **The answer of a build** is a failure in the first step that fails, or a new context if none
does. -/
theorem build_cases (pool : PlannerPool σ) {s : ContextSource} (hs : s.representation.Candid)
    (w : Workspace σ) :
    (∃ (step : BuildStep) (e : ResolutionError), step.FailsFirst s ∧
      build pool s w = (.error e, pool, w) ∧ e.code = step.code) ∨
    ((∀ step, ¬ BuildStep.Fails s step) ∧
      ∃ c pool' w', build pool s w = (.ok c, pool', w')) := by
  unfold build
  dsimp only
  rcases Limits.applyOverrides_cases s.limits s.configuration.options with
    ⟨hl, key, raw, limits, options, h⟩ | ⟨hl, limits, options, h⟩
  · rw [h]
    exact .inl ⟨.limits, _, ⟨hl, by simp [BuildStep.earlier]⟩, rfl, rfl⟩
  rw [h]
  dsimp only
  have hlimits : ¬ BuildStep.limits.Fails s := hl
  have hkeys : ∀ key ∈ Retention.keys, options.get? key = s.configuration.options.get? key :=
    fun key hkey => Limits.get?_applyOverrides hkey h
  rcases s.planners.resolve_cases (s.configuration.options.get? ContextSource.plannerOption) with
    ⟨hp, i, h⟩ | ⟨hp, i, f, h⟩
  · rw [h]
    exact .inl ⟨.planner, _, ⟨hp, by simpa [BuildStep.earlier] using hlimits⟩, rfl, rfl⟩
  rw [h]
  dsimp only
  have hplanner : ¬ BuildStep.planner.Fails s := hp
  cases hb : s.representation.build s.configuration.group with
  | error e =>
    obtain ⟨spaceType, group, reason, rfl⟩ := hs _ _ hb
    have hfirst : ∀ b ∈ BuildStep.space.earlier, ¬ b.Fails s := by
      simpa [BuildStep.earlier] using ⟨hlimits, hplanner⟩
    exact .inl ⟨.space, _, ⟨⟨_, hb⟩, hfirst⟩, rfl, rfl⟩
  | ok space =>
    dsimp only
    have hspace : ¬ BuildStep.space.Fails s := by
      rintro ⟨e, he⟩
      rw [hb] at he
      cases he
    rcases Retention.extract_cases options with ⟨hr, key, raw, rest, h⟩ | ⟨hr, r, rest, h⟩
    · have ha : pool.allocate f space s.configuration.name options w =
          (.error (.invalidOptionValue key raw), pool, w) := by
        rw [PlannerPool.allocate, h]
      rw [ha]
      have hfails := (Retention.unreadable_congr hkeys).mp hr
      have hfirst : ∀ b ∈ BuildStep.retention.earlier, ¬ b.Fails s := by
        simpa [BuildStep.earlier] using ⟨hlimits, hplanner, hspace⟩
      exact .inl ⟨.retention, _, ⟨hfails, hfirst⟩, rfl, rfl⟩
    · rcases ha : pool.allocate f space s.configuration.name options w with ⟨_ | n, pool', w'⟩
      · cases PlannerPool.allocates_of_eq ha with
        | refused hx =>
          rw [h] at hx
          cases hx
      · refine .inr ⟨fun step hfails => ?_, _, _, _, rfl⟩
        cases step with
        | limits => exact hlimits hfails
        | planner => exact hplanner hfails
        | space => exact hspace hfails
        | retention => exact hr ((Retention.unreadable_congr hkeys).mpr hfails)

end ContextCache

end MotionContexts
