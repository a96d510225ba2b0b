/-
# Whose context a request gets

A request finds its configuration by a NAME, put together from its group and its planner identifier.
The group of the configuration that is found is not looked at again.  So the question is whether a
name says which group it belongs to, if every configuration is named as the convention has it: by
its group, or by its group and a suffix in brackets.

It does not, quite.  A name of this kind begins with its group, and if there is more of it, an
opening bracket comes next.  Two groups that have a name in common are therefore equal, or one of
them BEGINS with the other and an opening bracket (`group_of_common_name`).  Nothing else can go
wrong: the cache hands out contexts of the group of their key.  And wherever one group begins so
with another, a request for the one does reach configurations of the other
(`answered_for_opened_group`).

Main statement: `request_answered_for_group`, for every run of a new manager that is passed
conventional configurations.
-/
import MotionContexts.Proofs.Manager.Hits
import MotionContexts.Proofs.Manager.Freshness

namespace MotionContexts

universe u

/-! ## 1. Names of a group -/

/-- The other group begins with the group and an opening bracket. -/
def Opens (group other : String) : Prop := group.toList ++ ['['] <+: other.toList

instance (group other : String) : Decidable (Opens group other) :=
  inferInstanceAs (Decidable (group.toList ++ ['['] <+: other.toList))

example : Opens "arm" "arm[rrt]" ∧ ¬ Opens "arm" "arms" := by decide +kernel

/-- The configuration is named by its group, or by its group and a suffix in brackets. -/
def Configuration.Conventional (c : Configuration) : Prop :=
  c.name = c.group ∨ ∃ suffix, c.name = c.group ++ "[" ++ suffix ++ "]"

theorem opens_bracketed (group suffix : String) : Opens group (group ++ "[" ++ suffix ++ "]") := by
  refine ⟨suffix.toList ++ [']'], ?_⟩
  simp

theorem Opens.trans_bracketed {group other : String} (h : Opens group other) (suffix : String) :
    Opens group (other ++ "[" ++ suffix ++ "]") := by
  refine List.IsPrefix.trans h ⟨('[' :: suffix.toList) ++ [']'], ?_⟩
  simp

theorem Opens.mem {group other : String} (h : Opens group other) : '[' ∈ other.toList :=
  List.IsPrefix.mem (List.mem_append_right _ (List.mem_singleton_self _)) h

/-- A conventional name is the group's, or begins with it and a bracket. -/
theorem Configuration.Conventional.opens {c : Configuration} (h : c.Conventional) :
    c.name = c.group ∨ Opens c.group c.name := by
  rcases h with h | ⟨suffix, h⟩
  · exact .inl h
  · rw [h]
    exact .inr (opens_bracketed ..)

/-- So is the name that a request means, whatever its planner identifier is. -/
theorem Request.configurationName_opens (r : Request) :
    r.configurationName = r.group ∨ Opens r.group r.configurationName := by
  unfold configurationName nameFor
  split
  · exact .inl rfl
  · split
    · rename_i hfull
      rw [isFullName, Bool.and_eq_true] at hfull
      exact .inr (List.isPrefixOf_iff_prefix.mp hfull.1)
    · exact .inr (opens_bracketed ..)

/-- **A name that two groups have in common**: the groups are equal, or one begins with the other
and a bracket. -/
theorem group_of_common_name {g h name : String} (hg : name = g ∨ Opens g name)
    (hh : name = h ∨ Opens h name) : g = h ∨ Opens g h ∨ Opens h g := by
  rcases hg with rfl | hg
  · rcases hh with rfl | hh
    · exact .inl rfl
    · exact .inr (.inr hh)
  · rcases hh with rfl | hh
    · exact .inr (.inl hg)
    · -- both are beginnings of one name, so one is a beginning of the other
      rcases List.prefix_or_prefix_of_prefix hg hh with hp | hp <;>
        rcases List.prefix_concat_iff.mp hp with he | hp
      · exact .inl (String.toList_inj.mp (List.append_cancel_right he))
      · exact .inr (.inl hp)
      · exact .inl (String.toList_inj.mp (List.append_cancel_right he)).symm
      · exact .inr (.inr hp)

/-- A full name of the other group is a full name of this one too. -/
theorem Request.nameFor_of_opens {g h : String} (hgh : Opens g h) (suffix : String) :
    nameFor g (h ++ "[" ++ suffix ++ "]") = h ++ "[" ++ suffix ++ "]" := by
  have hfull : isFullName g (h ++ "[" ++ suffix ++ "]") = true := by
    rw [isFullName, Bool.and_eq_true]
    have hlast : (h ++ "[" ++ suffix ++ "]").toList =
        (h.toList ++ ['['] ++ suffix.toList) ++ [']'] := by simp
    refine ⟨List.isPrefixOf_iff_prefix.mpr (hgh.trans_bracketed suffix), ?_⟩
    rw [hlast, List.getLast?_concat]
    rfl
  have hne : ¬ h ++ "[" ++ suffix ++ "]" = "" := by
    intro he
    have hlist := congrArg String.toList he
    simp at hlist
  rw [nameFor, if_neg hne, if_pos hfull]

/-! ## 2. Contexts have the group of their key -/

namespace ContextCache.Session

variable {σ : Type u}

/-- Each cached context is of the group of its key. -/
def Grouped (s : Session σ) : Prop := ∀ k c, s.cache.get? k = some c → c.spec.group = k.group

/-- A context that is handed out is of the group of the configuration that was asked for. -/
theorem Grouped.answered {s : Session σ} (h : s.Grouped) {source : ContextSource}
    {c : PlanningContext} {cache : ContextCache σ} {w : Workspace σ}
    (ha : Answers s.cache source s.workspace (.ok c) cache w) :
    c.spec.group = source.configuration.group := by
  cases ha with
  | cached hc => exact h _ c hc
  | built _ hb =>
    cases hb with
    | built => rfl

theorem Grouped.step {s : Session σ} (h : s.Grouped) (op : Operation) : (s.step op).Grouped := by
  intro k c hc
  rcases (s.get?_step op k c).mp hc with ⟨source, rfl, rfl, hout⟩ | ⟨-, hold⟩
  · rcases ha : s.cache.context source s.workspace with ⟨_ | d, cache, w⟩ <;>
      rw [handsOut?, ha] at hout <;> cases hout
    exact h.answered (answers_of_eq ha)
  · exact h k c hold

end ContextCache.Session

/-! ## 3. Conventional configurations in force -/

/-- Each configuration stands under its own name, and is named as the convention has it. -/
def Configurations.Conventional (cs : Configurations) : Prop :=
  ∀ name c, cs.get? name = some c → c.name = name ∧ c.Conventional

namespace Manager

variable {σ : Type u}

namespace Session

theorem grouped_run {s : Session σ} (h : s.cached.Grouped) (ops : List Operation) :
    (s.run ops).cached.Grouped := by
  induction ops generalizing s with
  | nil => exact h
  | cons op ops ih =>
    refine ih ?_
    rw [cached_perform]
    exact h.step _

/-- A run is passed conventional configurations only, as tables and in the documents that can be
applied. -/
structure PassedConventional (ops : List Operation) : Prop where
  tables : ∀ cs, .setConfigurations cs ∈ ops → cs.Conventional
  documents : ∀ d cs, .apply d ∈ ops → d.table = .ok cs → cs.Conventional

theorem conventional_run {ops : List Operation} (hops : PassedConventional ops) :
    ∀ {s : Session σ}, s.manager.configurations.Conventional →
      (s.run ops).manager.configurations.Conventional := by
  induction ops with
  | nil => exact fun h => h
  | cons op ops ih =>
    intro s hs
    refine ih ⟨fun cs h => hops.tables cs (List.mem_cons_of_mem _ h),
      fun d cs h => hops.documents d cs (List.mem_cons_of_mem _ h)⟩ ?_
    rcases s.configurations_perform op with h | h | ⟨d, h, hd⟩
    · rw [h]
      exact hs
    · exact hops.tables _ (h ▸ List.mem_cons_self ..)
    · exact hops.documents d _ (h ▸ List.mem_cons_self ..) hd

end Session

/-! ## 4. A sample -/

namespace Session

open MotionContexts.Sample

/-- A planner is registered, and one configuration put in force. -/
def singleRun (name group : String) : List Operation :=
  [.registerPlanner "roadmap" roadmaps, .setConfigurations (.ofList
    [⟨name, group, (∅ : Table String).insert ContextSource.plannerOption "roadmap"⟩])]

/-- A scene that knows one group. -/
def onlyArm : Scene := fun g => g == "arm"

theorem passedConventional_singleRun (name group : String)
    (h : ∀ options, Configuration.Conventional ⟨name, group, options⟩) :
    PassedConventional (singleRun name group) where
  tables cs hcs := by
    obtain rfl : cs = .ofList
        [⟨name, group, (∅ : Table String).insert ContextSource.plannerOption "roadmap"⟩] := by
      simpa [singleRun] using hcs
    intro key c hc
    obtain ⟨rfl, rfl⟩ : key = name ∧ c = _ := by
      have hget : (if key = name then _ else none) = some c := (Table.get?_insert ..).symm.trans hc
      split at hget
      · exact ⟨‹_›, (Option.some.inj hget).symm⟩
      · cases hget
    exact ⟨rfl, h _⟩
  documents d cs hd := by simp [singleRun] at hd

/-- Whatever the name and the group are, a request that means the name gets a context of the
group. -/
theorem contextForRequest_singleRun (storage : Storage σ) (w : Workspace σ) (name group : String)
    (scene : Scene) (request : Request) (hscene : scene request.group = true)
    (hname : request.configurationName = name) (hspace : request.representation = none) :
    ∃ c m' w', ((new storage w).run (singleRun name group)).manager.contextForRequest scene request
        ((new storage w).run (singleRun name group)).workspace = (.ok c, m', w') ∧
      c.spec.group = group := by
  have hfind : ((new storage w).run (singleRun name group)).manager.configurations.find name =
      .ok ⟨name, group, (∅ : Table String).insert ContextSource.plannerOption "roadmap"⟩ := by
    have hget : ((new storage w).run (singleRun name group)).manager.configurations.get? name =
        some ⟨name, group, (∅ : Table String).insert ContextSource.plannerOption "roadmap"⟩ :=
      Table.get?_insert_self ..
    rw [Configurations.find, hget]
  unfold contextForRequest resolve
  rw [hscene, hname, hspace, hfind]
  exact ⟨_, _, _, rfl, rfl⟩

end Session

/-! ## 5. The theorem -/

/-- A request that is answered is for a group of the scene. -/
theorem scene_of_contextForRequest {m m' : Manager σ} {scene : Scene} {request : Request}
    {w w' : Workspace σ} {c : PlanningContext}
    (h : m.contextForRequest scene request w = (.ok c, m', w')) : scene request.group = true := by
  unfold contextForRequest at h
  split at h
  · cases h
  · rename_i hscene
    simpa using hscene

/-- **Whose context a request gets.**  In every run of a new manager that is passed conventional
configurations: a request that is answered is for a group that the scene knows, and the context it
gets is of its OWN group, unless one of the two groups begins with the other and an opening bracket.
So the group is the request's, and known to the scene, wherever neither has a bracket in it. -/
theorem request_answered_for_group (storage : Storage σ) (w : Workspace σ) (ops : List Operation)
    (hops : Session.PassedConventional ops) (scene : Scene) (request : Request)
    (c : PlanningContext) (m' : Manager σ) (w' : Workspace σ)
    (h : ((Session.new storage w).run ops).manager.contextForRequest scene request
      ((Session.new storage w).run ops).workspace = (.ok c, m', w')) :
    scene request.group = true ∧
    (c.spec.group = request.group ∨
      Opens c.spec.group request.group ∨ Opens request.group c.spec.group) ∧
    ('[' ∉ request.group.toList → '[' ∉ c.spec.group.toList →
      c.spec.group = request.group ∧ scene c.spec.group = true) := by
  have hscene := scene_of_contextForRequest h
  have hgroup : c.spec.group = request.group ∨
      Opens c.spec.group request.group ∨ Opens request.group c.spec.group := by
    have hgrouped := Session.grouped_run (s := Session.new storage w) (fun k c hc => by cases hc) ops
    have hconventional :=
      Session.conventional_run hops (s := Session.new storage w) (fun _ _ hc => by cases hc)
    have hl := looksUp_contextForRequest h
    cases hl with
    | @answered cfg f c cache w' hn hf ha =>
      have hout : c.spec.group = cfg.group := hgrouped.answered ha
      obtain ⟨hname, hcfg⟩ := hconventional _ _ hn
      rw [hout]
      exact group_of_common_name (hname ▸ hcfg.opens) request.configurationName_opens
  refine ⟨hscene, hgroup, fun hr hc => ?_⟩
  rcases hgroup with hg | hg | hg
  · exact ⟨hg, hg ▸ hscene⟩
  · exact absurd hg.mem hr
  · exact absurd hg.mem hc

open Session in
theorem request_answered_for_group_singleRun :
    ∃ c m' w', ((Session.new .memory { contents := ∅ }).run
        (singleRun "arm[rrt]" "arm")).manager.contextForRequest onlyArm
          { group := "arm", plannerId := "rrt" }
          ((Session.new .memory { contents := ∅ }).run (singleRun "arm[rrt]" "arm")).workspace =
            (.ok c, m', w') ∧
      c.spec.group = "arm" ∧ onlyArm c.spec.group = true := by
  obtain ⟨c, m', w', hanswer, hgroup⟩ := contextForRequest_singleRun .memory { contents := ∅ }
    "arm[rrt]" "arm" onlyArm { group := "arm", plannerId := "rrt" } rfl (by decide +kernel) rfl
  have hname : "arm[rrt]" = "arm" ++ "[" ++ "rrt" ++ "]" := by decide +kernel
  have hops := passedConventional_singleRun "arm[rrt]" "arm" fun _ => .inr ⟨"rrt", hname⟩
  obtain ⟨-, -, hplain⟩ := request_answered_for_group .memory { contents := ∅ } _ hops _ _ c m' w'
    hanswer
  exact ⟨c, m', w', hanswer, hplain (by decide +kernel) (by rw [hgroup]; decide +kernel)⟩

/-- **Wherever one group begins with another and a bracket**, a request for the other gets a context
of the one, if it means one of its full names. -/
theorem answered_for_opened_group (storage : Storage σ) (w : Workspace σ) {g h : String}
    (hgh : Opens g h) (suffix : String) {scene : Scene} (hscene : scene g = true) :
    ∃ ops, Session.PassedConventional ops ∧
      ∃ request c m' w', ((Session.new storage w).run ops).manager.contextForRequest scene request
          ((Session.new storage w).run ops).workspace = (.ok c, m', w') ∧
        request.group = g ∧ c.spec.group = h := by
  obtain ⟨c, m', w', hanswer, hgroup⟩ := Session.contextForRequest_singleRun storage w
    (h ++ "[" ++ suffix ++ "]") h scene { group := g, plannerId := h ++ "[" ++ suffix ++ "]" }
    hscene (Request.nameFor_of_opens hgh suffix) rfl
  have hops := Session.passedConventional_singleRun (h ++ "[" ++ suffix ++ "]") h
    fun _ => .inr ⟨suffix, rfl⟩
  exact ⟨_, hops, _, c, m', w', hanswer, rfl, hgroup⟩

open Session in
/-- A request for a group gets a context of ANOTHER one, which the scene does not even know: the
name of the other group reads as that of a variant of the first. -/
theorem request_answered_for_other_group :
    PassedConventional (singleRun "arm[rrt]" "arm[rrt]") ∧
    ∃ c m' w', ((Session.new .memory { contents := ∅ }).run
        (singleRun "arm[rrt]" "arm[rrt]")).manager.contextForRequest onlyArm
          { group := "arm", plannerId := "rrt" }
          ((Session.new .memory { contents := ∅ }).run (singleRun "arm[rrt]" "arm[rrt]")).workspace =
            (.ok c, m', w') ∧
      c.spec.group ≠ "arm" ∧ onlyArm c.spec.group = false := by
  obtain ⟨c, m', w', hanswer, hgroup⟩ := contextForRequest_singleRun .memory { contents := ∅ }
    "arm[rrt]" "arm[rrt]" onlyArm { group := "arm", plannerId := "rrt" } rfl (by decide +kernel) rfl
  refine ⟨passedConventional_singleRun _ _ fun _ => .inl rfl, c, m', w', hanswer, ?_⟩
  rw [hgroup]
  decide

end Manager

end MotionContexts
