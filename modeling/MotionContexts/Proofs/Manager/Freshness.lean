/-
# No stale context

The key of a cached context says group, configuration and space type, but NOT the options that the
context was built with.  That a look-up still answers with the options in force rests on two stores
kept in step: whatever is cached agrees with some configuration of its name and group that is in
force NOW.  Replacing the configurations drops every context, and no other operation touches them.

Configurations are put in force as a table, and nothing forces the key of an entry to be the name of
its configuration.  What is cached is right all the same; it takes tables that are `Keyed` to say
that a look-up answers with the very configuration it was asked for.

Main statement: `no_stale_context`, for every run of a new manager.
-/
import MotionContexts.Proofs.Manager.Session

namespace MotionContexts

universe u

/-! ## 1. What is taken for granted -/

/-- A representation builds spaces of its own type, for the group it is asked for. -/
def Representation.Faithful (f : Representation) : Prop :=
  ∀ group space, f.build group = .ok space → space = ⟨f.spaceType, group⟩

theorem Representation.jointModel_faithful : jointModel.Faithful := by
  rintro group space ⟨⟩
  rfl

theorem Representation.poseModel_faithful (ikGroups : List String) :
    (poseModel ikGroups).Faithful := by
  intro group space h
  unfold poseModel at h
  dsimp only at h
  split at h
  · cases h
    rfl
  · cases h

/-- Each configuration stands under its own name. -/
def Configurations.Keyed (cs : Configurations) : Prop :=
  ∀ name c, cs.get? name = some c → c.name = name

theorem Configurations.keyed_empty : Keyed ∅ := fun _ _ h => by cases h

theorem Configurations.Keyed.insert {cs : Configurations} (h : cs.Keyed) (c : Configuration) :
    Keyed (Table.insert cs c.name c) := by
  intro name d hd
  rw [Table.get?_insert] at hd
  split at hd
  · rename_i hn
    cases hd
    exact hn.symm
  · exact h name d hd

/-- A list of configurations makes a keyed table. -/
theorem Configurations.keyed_ofList (l : List Configuration) : (ofList l).Keyed := by
  suffices h : ∀ cs : Configurations, cs.Keyed →
      Keyed ((l.map fun c => (c.name, c)).foldl (fun t e => Table.insert t e.1 e.2) cs) from
    h ∅ keyed_empty
  induction l with
  | nil => exact fun _ h => h
  | cons c l ih => exact fun cs h => ih _ (h.insert c)

theorem ManagerDocument.keyed_extend :
    ∀ {l : List Configuration} {t cs : Configurations}, t.Keyed → extend t l = .ok cs → cs.Keyed
  | [], _, _, ht, h => by
    cases h
    exact ht
  | c :: l, t, cs, ht, h => by
    unfold extend at h
    split at h
    · cases h
    · exact keyed_extend (ht.insert c) h

/-- A document makes a keyed table, if it makes one. -/
theorem ManagerDocument.keyed_table {d : ManagerDocument} {cs : Configurations}
    (h : d.table = .ok cs) :
    cs.Keyed :=
  keyed_extend Configurations.keyed_empty h

/-! ## 2. The invariant -/

/-- The context is what its key says, and some configuration in force is what it was built from. -/
structure PlanningContext.Current (cs : Configurations) (k : ContextKey) (c : PlanningContext) :
    Prop where
  name : c.spec.name = k.configuration
  group : c.spec.group = k.group
  space : c.space = ⟨k.spaceType, k.group⟩
  configuration : ∃ name cfg, cs.get? name = some cfg ∧ cfg.name = k.configuration ∧
    cfg.group = k.group ∧ cfg.options = c.spec.options

namespace Manager

variable {σ : Type u}

/-- Every cached context is current. -/
def Fresh (m : Manager σ) : Prop :=
  ∀ k c, m.cache.get? k = some c → c.Current m.configurations k

/-- Every registered representation is faithful. -/
def Faithful (m : Manager σ) : Prop := ∀ f ∈ m.representations.entries, f.Faithful

/-- What is answered for a configuration in force is current, be it cached or new. -/
theorem current_of_answers {m : Manager σ} (hm : m.Fresh) {name : String} {cfg : Configuration}
    {f : Representation} (hn : m.configurations.get? name = some cfg) (hf : f.Faithful)
    {w w' : Workspace σ} {c : PlanningContext} {cache : ContextCache σ}
    (h : ContextCache.Answers m.cache ⟨cfg, f, m.planners, m.limits⟩ w (.ok c) cache w') :
    c.Current m.configurations ⟨cfg.group, cfg.name, f.spaceType⟩ := by
  cases h with
  | cached hc => exact hm _ c hc
  | built hc hb =>
    cases hb with
    | built hl hp hs ha =>
      refine ⟨rfl, rfl, ?_, name, cfg, hn, rfl, rfl, rfl⟩
      exact hf cfg.group _ hs

theorem Fresh.looksUp {m m' : Manager σ} (hm : m.Fresh) (hf : m.Faithful) {name : String}
    {w w' : Workspace σ} {c : Option PlanningContext} (h : LooksUp m name w c m' w') :
    m'.Fresh := by
  cases h with
  | refused => exact hm
  | answered hn hr ha =>
    have hc := current_of_answers hm hn (hf _ hr) ha
    cases ha with
    | cached _ => exact hm
    | built _ hb =>
      intro k d hd
      simp only [ContextCache.get?, KeyedList.get?_insert] at hd
      split at hd
      · rename_i hk
        cases hd
        rw [hk]
        exact hc
      · exact hm k d hd

/-- **One operation keeps the contexts current.** -/
theorem Fresh.effect {s s' : Session σ} {c : Option PlanningContext} (hm : s.manager.Fresh)
    (hf : s.manager.Faithful) (h : Session.Effect s c s') : s'.manager.Fresh := by
  cases h with
  | looked h => exact hm.looksUp hf h
  | replaced h =>
    intro k d hd
    rw [h] at hd
    cases hd
  | adjusted hc h =>
    intro k d hd
    rw [h] at hd
    rw [hc]
    exact hm k d hd
  | forgot name =>
    intro k d hd
    rw [ContextCache.get?, ContextCache.get?_invalidatePlanner] at hd
    split at hd
    · cases hd
    · exact hm k d hd
  | stored => exact hm
  | explored n bytes => exact hm

theorem Faithful.perform {s : Session σ} (hf : s.manager.Faithful) {op : Operation}
    (hop : ∀ f, op = .registerRepresentation f → f.Faithful) :
    (s.perform op).2.manager.Faithful := by
  intro f hmem
  rcases Session.representations_perform hmem with hmem | heq
  · exact hf f hmem
  · exact hop f heq

/-- **A run keeps the contexts current**, if it registers faithful representations only. -/
theorem Fresh.run {ops : List Operation}
    (hops : ∀ f, .registerRepresentation f ∈ ops → f.Faithful) :
    ∀ {s : Session σ}, s.manager.Fresh → s.manager.Faithful →
      (s.run ops).manager.Fresh ∧ (s.run ops).manager.Faithful := by
  induction ops with
  | nil => exact fun hm hf => ⟨hm, hf⟩
  | cons op ops ih =>
    intro s hm hf
    refine ih (fun f h => hops f (List.mem_cons_of_mem _ h)) (hm.effect hf (s.effect_perform op)) ?_
    exact hf.perform fun f h => hops f (h ▸ List.mem_cons_self ..)

/-- A run leaves keyed tables in force, if it is passed keyed tables only. -/
theorem keyed_run {ops : List Operation} (hops : ∀ cs, .setConfigurations cs ∈ ops → cs.Keyed) :
    ∀ {s : Session σ}, s.manager.configurations.Keyed →
      (s.run ops).manager.configurations.Keyed := by
  induction ops with
  | nil => exact fun h => h
  | cons op ops ih =>
    intro s hk
    refine ih (fun cs h => hops cs (List.mem_cons_of_mem _ h)) ?_
    rcases s.configurations_perform op with h | h | ⟨d, -, h⟩
    · rw [h]
      exact hk
    · exact hops _ (h ▸ List.mem_cons_self ..)
    · exact ManagerDocument.keyed_table h

/-! ## 3. What a look-up answers -/

/-- From keyed tables, a look-up answers with the configuration that stands under the name. -/
theorem LooksUp.current {m m' : Manager σ} (hm : m.Fresh) (hf : m.Faithful)
    (hk : m.configurations.Keyed) {name : String} {w w' : Workspace σ} {c : PlanningContext}
    (h : LooksUp m name w (some c) m' w') :
    ∃ cfg, m.configurations.get? name = some cfg ∧
      c.spec.name = cfg.name ∧ c.spec.group = cfg.group ∧ c.spec.options = cfg.options := by
  cases h with
  | @answered cfg f c cache w' hn hr ha =>
    have hc := current_of_answers hm hn (hf f hr) ha
    obtain ⟨key, cfg', hcfg, hname, -, hoptions⟩ := hc.configuration
    -- both configurations have one name, and each stands under its own
    have hkey : key = name := by
      rw [← hk key cfg' hcfg, hname]
      exact hk name cfg hn
    subst hkey
    have heq : cfg' = cfg := Option.some.inj (hcfg.symm.trans hn)
    exact ⟨cfg, hn, hc.name, hc.group, by rw [← hoptions, heq]⟩

/-- **No stale context is ever served.**  After every run of a new manager whose representations are
faithful, each cached context is what its key says and was built with the options of some
configuration in force that has the name and the group of the key.  If every table that was put in
force is keyed, as lists and documents make them, a context looked up by name, directly or by
request, carries exactly the name, group and options of the configuration in force under it. -/
theorem no_stale_context (storage : Storage σ) (w : Workspace σ) (ops : List Operation)
    (hops : ∀ f, .registerRepresentation f ∈ ops → f.Faithful) :
    (∀ k c, ((Session.new storage w).run ops).manager.cache.get? k = some c →
      c.Current ((Session.new storage w).run ops).manager.configurations k) ∧
    ((∀ cs, .setConfigurations cs ∈ ops → cs.Keyed) →
      (∀ name hint c m' w', ((Session.new storage w).run ops).manager.context name hint
          ((Session.new storage w).run ops).workspace = (.ok c, m', w') →
        m'.configurations = ((Session.new storage w).run ops).manager.configurations ∧
        ∃ cfg, m'.configurations.get? name = some cfg ∧
          c.spec.name = cfg.name ∧ c.spec.group = cfg.group ∧ c.spec.options = cfg.options) ∧
      (∀ scene request c m' w',
        ((Session.new storage w).run ops).manager.contextForRequest scene request
          ((Session.new storage w).run ops).workspace = (.ok c, m', w') →
        m'.configurations = ((Session.new storage w).run ops).manager.configurations ∧
        ∃ cfg, m'.configurations.get? request.configurationName = some cfg ∧
          c.spec.name = cfg.name ∧ c.spec.group = cfg.group ∧ c.spec.options = cfg.options)) ∧
    (∀ l, (Configurations.ofList l).Keyed) ∧
    (∀ (d : ManagerDocument) cs, d.table = .ok cs → cs.Keyed) := by
  have hnew : (new storage).Fresh := fun k c h => by cases h
  have hbuiltin : (new storage).Faithful := by
    intro f hf
    rw [List.mem_singleton.mp hf]
    exact Representation.jointModel_faithful
  obtain ⟨hm, hf⟩ := Fresh.run hops (s := Session.new storage w) hnew hbuiltin
  refine ⟨hm, fun hkeyed => ?lookups, Configurations.keyed_ofList,
    fun d cs h => ManagerDocument.keyed_table h⟩
  case lookups =>
    have hk := keyed_run hkeyed (s := Session.new storage w) Configurations.keyed_empty
    refine ⟨?named, ?requested⟩
    case named =>
      intro name hint c m' w' h
      have hl := looksUp_context h
      rw [hl.configurations]
      exact ⟨rfl, hl.current hm hf hk⟩
    case requested =>
      intro scene request c m' w' h
      have hl := looksUp_contextForRequest h
      rw [hl.configurations]
      exact ⟨rfl, hl.current hm hf hk⟩

theorem no_stale_context_posedRun :
    ∃ c m' w', ((Session.new .memory { contents := ∅ }).run Session.posedRun).manager.context
        "arm" (some "PoseModel")
        ((Session.new .memory { contents := ∅ }).run Session.posedRun).workspace = (.ok c, m', w') ∧
      ∃ cfg, m'.configurations.get? "arm" = some cfg ∧ c.spec.options = cfg.options := by
  have hops : ∀ f, .registerRepresentation f ∈ Session.posedRun → f.Faithful := by
    intro f hf
    obtain rfl : f = .poseModel ["arm"] := by simpa [Session.posedRun] using hf
    exact Representation.poseModel_faithful _
  have hkeyed : ∀ cs, .setConfigurations cs ∈ Session.posedRun → cs.Keyed := by
    intro cs hcs
    obtain rfl : cs = .ofList [Sample.arm Sample.kept] := by simpa [Session.posedRun] using hcs
    exact Configurations.keyed_ofList _
  obtain ⟨-, hlookups, -, -⟩ := no_stale_context .memory { contents := ∅ } Session.posedRun hops
  obtain ⟨-, cfg, hcfg, -, -, hoptions⟩ := (hlookups hkeyed).1 "arm" (some "PoseModel") _ _ _ rfl
  exact ⟨_, _, _, rfl, cfg, hcfg, hoptions⟩

end Manager

end MotionContexts
