/-
# Forgetting a planner, and what becomes of its graph

To forget a planner touches three things under ONE name: the kept planner, its registration and the
contexts of the configuration.  And it may store, once, at the path that was registered.  Everything
else is as before: other names, other contexts, all planner instances, and every other entry of the
storage (`Storage.Confines`).

If the configuration wants the planner loaded from where it was stored, the next look-up of the name
makes a new instance and puts the old graph into it.  Two things carry it across: the storage, which
gives back what it was given (`Storage.Recalls`), and the family, whose new planner has the graph of
the data (`PlannerFamily.KeepsGraphs`).  The order matters: the data is stored before the planner is
forgotten, with the graph that it has at that moment.

Main statements:
* `PlannerPool.contents_invalidate_eq`, what is stored on the way;
* `PlannerPool.Allocates.seeded_of_first`, a first planner that starts from data;
* `invalidation_hands_over`, the frame and the hand-over.
-/
import MotionContexts.Proofs.Manager.Session
import MotionContexts.Proofs.PlannerPool.Resuming
import MotionContexts.Proofs.PlannerPool.Seeding
import MotionContexts.Proofs.Storage.Entries

namespace MotionContexts

universe u

variable {σ : Type u}

/-! ## 1. Forgetting -/

namespace PlannerPool

variable {pool pool' : PlannerPool σ} {name : String} {w w' : Workspace σ}

theorem storeOne_snd {path : Path} {p : Planner}
    (hp : (pool.planners.get? name).bind w.planner? = some p) :
    (pool.storeOne name path w).2 = (w.store pool.storage p.data path).2 := by
  unfold storeOne
  rw [hp]
  dsimp only
  split <;> rename_i h <;> rw [h]

/-- **What is stored as a planner is forgotten**: its data of then, at the registered path. -/
theorem contents_invalidate_eq {path : Path} {n : Nat} {p : Planner}
    (hn : pool.planners.get? name = some n) (hp : w.planner? n = some p)
    (hpath : pool.storagePaths.get? name = some path) :
    (pool.invalidate name w).2.2.contents = (pool.storage.store p.data path w.contents).2 := by
  have hkept : (pool.planners.get? name).bind w.planner? = some p := by
    rw [hn, Option.bind_some, hp]
  unfold invalidate
  dsimp only
  rw [hpath]
  dsimp only
  rw [storeOne_snd hkept]
  rfl

/-- Entries at places to which the registered path does not lead are left alone. -/
theorem entry_invalidate {π ε : Type} {place : Path → Option π} {entry : π → σ → Option ε}
    (hs : pool.storage.Confines place entry) {x : π}
    (hx : ∀ path, pool.storagePaths.get? name = some path → place path ≠ some x) :
    entry x (pool.invalidate name w).2.2.contents = entry x w.contents :=
  contents_invalidate (P := fun c => entry x c = entry x w.contents)
    (fun path hpath c d hc => (hs d path c x (hx path hpath)).trans hc) rfl

/-! ## 2. Starting again -/

/-- **The first planner of a name** that the options want started from data that is there. -/
theorem Allocates.seeded_of_first {family : PlannerFamily} {space : Space}
    {config : Table String} {n : Nat}
    (h : Allocates pool family space name config w (.ok n) pool' w')
    (hnone : pool.planners.get? name = none) {path : Path} {data : PlannerData} {p : Planner}
    (hs : Seeds pool.storage family space config w.contents path data p) :
    n = w.planners.length ∧ ∃ options, w' = { w with
      planners := w.planners ++ [p.prepare name options space]
      calls := w.calls ++
        [.load path (.ok data), .allocateWithData family.plannerType space] } := by
  have hnew : w'.planners ≠ w.planners := by
    rcases h.reused_or_made with ⟨-, hn, -, -⟩ | ⟨made, hw, -, -⟩
    · rw [hnone] at hn
      cases hn
    · intro he
      have hlength := hw.length
      rw [he] at hlength
      omega
  obtain ⟨loadFrom, made, calls, hload, hmade, hn, hw⟩ := h.constructs hnew
  obtain ⟨rfl, rfl⟩ := hmade.of_seeds hload hs
  exact ⟨hn, _, hw⟩

end PlannerPool

/-- The wish for a planner that is loaded is read off the four options. -/
theorem Retention.LoadsFrom.congr {options rest : Table String} {path : Path}
    (h : LoadsFrom options path) (hrest : ∀ key ∈ keys, rest.get? key = options.get? key) :
    LoadsFrom rest path where
  multiQuery := by rw [IsSet, hrest _ (by decide)]; exact h.multiQuery
  load := by rw [IsSet, hrest _ (by decide)]; exact h.load
  path := by rw [GivesPath, hrest _ (by decide)]; exact h.path

/-- From data of its own type the family makes a planner with the graph of the data. -/
def PlannerFamily.KeepsGraphs (f : PlannerFamily) : Prop :=
  ∀ space data, data.plannerType = f.plannerType →
    ∃ p, f.allocateWithData space data = .ok p ∧ p.graph = data.graph

namespace Manager

/-! ## 3. Handing over -/

/-- What it takes for the graph of the planner `old`, of the number `i`, to outlive it. -/
structure HandsOver (m : Manager σ) (w : Workspace σ) (name : String) (cfg : Configuration)
    (family : PlannerFamily) (i : Nat) (old : Planner) (p q : Path) : Prop where
  /-- The configuration of the name is called so itself. -/
  configured : m.configurations.get? name = some cfg
  named : cfg.name = name
  /-- It wants a planner of the family, kept and loaded from `p`. -/
  wanted : Retention.LoadsFrom cfg.options p
  resolved : ∃ id,
    m.planners.resolve (cfg.options.get? ContextSource.plannerOption) = .ok (id, family)
  /-- The planner is the one that is kept, and it is registered at `q`, which is equal to `p`. -/
  kept : m.cache.pool.planners.get? name = some i
  enrolled : w.planner? i = some old
  registered : m.cache.pool.storagePaths.get? name = some q
  same : p.same q = true
  /-- It tells the type of the family, which keeps graphs and marks what it starts from data. -/
  typed : old.data.plannerType = family.plannerType
  keeps : family.KeepsGraphs
  marks : family.Marks
  /-- The storage gives back what it is given, and neither the store at `q` nor the load at `p`
  behind it fails. -/
  recalls : m.cache.pool.storage.Recalls
  stored : (m.cache.pool.storage.store old.data q w.contents).1 = .ok ()
  loaded : ∃ d, m.cache.pool.storage.load p
    (m.cache.pool.storage.store old.data q w.contents).2 = .ok d

variable {m m' m'' : Manager σ} {name : String} {w w' w'' : Workspace σ}

/-- What is loaded for the next planner is the data of the old one. -/
theorem HandsOver.load_eq {cfg : Configuration} {family : PlannerFamily} {i : Nat} {old : Planner}
    {p q : Path} (h : HandsOver m w name cfg family i old p q) :
    m.cache.pool.storage.load p (m.invalidatePlanner name w).2.2.contents = .ok old.data := by
  have hcontents : (m.invalidatePlanner name w).2.2.contents =
      (m.cache.pool.storage.store old.data q w.contents).2 :=
    PlannerPool.contents_invalidate_eq h.kept h.enrolled h.registered
  obtain ⟨d, hd⟩ := h.loaded
  rw [hcontents, hd, h.recalls h.same h.stored hd]

/-- **The next look-up of the name** makes a new planner from the data of the old one. -/
theorem HandsOver.lookUp {cfg : Configuration} {family : PlannerFamily} {i : Nat} {old : Planner}
    {p q : Path} (h : HandsOver m w name cfg family i old p q) {c : PlanningContext}
    (hlook : LooksUp (m.invalidatePlanner name w).2.1 name (m.invalidatePlanner name w).2.2
      (some c) m'' w'') :
    c.planner ≠ i ∧ ∃ new, w''.planner? c.planner = some new ∧ new.seeded = true ∧
      new.graph = old.graph := by
  have hplanners : (m.invalidatePlanner name w).2.2.planners = w.planners :=
    (PlannerPool.saved_invalidate m.cache.pool name w).planners
  have hload := h.load_eq
  cases hlook with
  | @answered cfg' f _ cache _ hn hf ha =>
    -- the configuration is the one from before, and its contexts are forgotten
    obtain rfl : cfg = cfg' := Option.some.inj (h.configured.symm.trans hn)
    cases ha with
    | cached hc =>
      have hnone := m.cache.get?_invalidatePlanner name w ⟨cfg.group, cfg.name, f.spaceType⟩
      rw [if_pos h.named] at hnone
      exact absurd (hc.symm.trans hnone) (Option.some_ne_none c)
    | built hc hb =>
      cases hb with
      | @built limits options plannerId family' space k pool' w₁ hl hp hb ha =>
        obtain ⟨id, hid⟩ := h.resolved
        obtain rfl : family = family' := congrArg Prod.snd (Except.ok.inj (hid.symm.trans hp))
        obtain ⟨made, hmade, hgraph⟩ := h.keeps space old.data h.typed
        have hfirst : (m.cache.pool.invalidate name w).2.1.planners.get? cfg.name = none := by
          rw [h.named, PlannerPool.planners_invalidate, Table.get?_erase_self]
        have hseeds : PlannerPool.Seeds m.cache.pool.storage family space options
            (m.invalidatePlanner name w).2.2.contents p old.data made :=
          ⟨h.wanted.congr fun key hkey => Limits.get?_applyOverrides hkey hl, hload, h.typed, hmade⟩
        obtain ⟨hnumber, given, hw₁⟩ := ha.seeded_of_first hfirst hseeds
        have hold : i < k := by
          rw [hnumber, hplanners]
          exact Workspace.lt_of_planner?_eq_some h.enrolled
        refine ⟨Nat.ne_of_gt hold, made.prepare cfg.name given space, ?_, ?_, ?_⟩
        · rw [hw₁, hnumber]
          exact List.getElem?_concat_length
        · rw [Planner.prepare_eq]
          exact h.marks.started space old.data made hmade
        · rw [Planner.graph_prepare, hgraph]
          rfl

/-- **Invalidation hands a graph over, and touches nothing else.**  In any state of a manager:
* invalidating a name tells whether a planner is kept under it;
* then the name is neither kept nor registered, and no context of its configuration is cached;
* every other context, kept planner and registered path is as before, and so are all planner
  instances and the rest of the manager;
* the storage is as before in all entries but the one at the registered path of the name;
* where the graph can be handed over, every look-up of the name directly behind, by name or by
  request, that hands out a context hands out one with ANOTHER planner instance, which is seeded and
  has exactly the graph of the old one. -/
theorem invalidation_hands_over (m : Manager σ) (name : String) (w : Workspace σ) :
    let had := (m.invalidatePlanner name w).1
    let m' := (m.invalidatePlanner name w).2.1
    let w' := (m.invalidatePlanner name w).2.2
    (had = true ↔ ∃ i, m.cache.pool.planners.get? name = some i) ∧
    (m'.cache.pool.planners.get? name = none ∧ m'.cache.pool.storagePaths.get? name = none ∧
      ∀ k c, m'.cache.get? k = some c → k.configuration ≠ name) ∧
    ((∀ k, k.configuration ≠ name → m'.cache.get? k = m.cache.get? k) ∧
      (∀ other, other ≠ name →
        m'.cache.pool.planners.get? other = m.cache.pool.planners.get? other ∧
        m'.cache.pool.storagePaths.get? other = m.cache.pool.storagePaths.get? other) ∧
      w'.planners = w.planners ∧ w'.contexts = w.contexts ∧
      m'.configurations = m.configurations ∧ m'.representations = m.representations ∧
      m'.planners = m.planners ∧ m'.limits = m.limits) ∧
    (∀ (π ε : Type) (place : Path → Option π) (entry : π → σ → Option ε),
      m.cache.pool.storage.Confines place entry →
      ∀ x, (∀ q, m.cache.pool.storagePaths.get? name = some q → place q ≠ some x) →
        entry x w'.contents = entry x w.contents) ∧
    ∀ cfg family i old p q, HandsOver m w name cfg family i old p q →
      ∀ c m'' w'',
        ((∃ hint, m'.context name hint w' = (.ok c, m'', w'')) ∨
          ∃ scene request, request.configurationName = name ∧
            m'.contextForRequest scene request w' = (.ok c, m'', w'')) →
        c.planner ≠ i ∧ ∃ new, w''.planner? c.planner = some new ∧ new.seeded = true ∧
          new.graph = old.graph := by
  intro had m' w'
  have hsaved := PlannerPool.saved_invalidate m.cache.pool name w
  have hcontexts : ∀ k, m'.cache.get? k =
      if k.configuration = name then none else m.cache.get? k :=
    m.cache.get?_invalidatePlanner name w
  refine ⟨?had, ⟨Table.get?_erase_self .., Table.get?_erase_self .., ?forgotten⟩,
    ⟨?others, ?pool, hsaved.planners, hsaved.contexts, rfl, rfl, rfl, rfl⟩, ?entries, ?handed⟩
  case had => exact Option.isSome_iff_exists
  case forgotten =>
    intro k c hc hk
    rw [hcontexts, if_pos hk] at hc
    cases hc
  case others =>
    intro k hk
    rw [hcontexts, if_neg hk]
  case pool =>
    intro other hother
    have herase : ∀ {α : Type} (t : Table α), (t.erase name).get? other = t.get? other := by
      intro α t
      rw [Table.get?_erase, if_neg hother]
    exact ⟨herase _, herase _⟩
  case entries =>
    intro π ε place entry hs x hx
    exact PlannerPool.entry_invalidate hs hx
  case handed =>
    intro cfg family i old p q h c m'' w'' hlook
    rcases hlook with ⟨hint, hlook⟩ | ⟨scene, request, rfl, hlook⟩
    · exact h.lookUp (looksUp_context hlook)
    · exact h.lookUp (looksUp_contextForRequest hlook)

open MotionContexts.Sample

/-- A planner is explored, and then its configuration comes anew, with its path spelled in another
way. -/
def respelledRun : List Operation :=
  [.registerPlanner "roadmap" resuming, .setConfigurations (.ofList [arm (resumedAt "graphs/arm")]),
    .context "arm" none, .explore 0 [5],
    .setConfigurations (.ofList [arm (resumedAt "graphs//arm")])]

/-- The planner is forgotten, and the next one has its graph; nothing is stored elsewhere. -/
theorem invalidation_hands_over_respelledRun :
    let s := (Session.new .memory { contents := ∅ }).run respelledRun
    let m' := (s.manager.invalidatePlanner "arm" s.workspace).2.1
    let w' := (s.manager.invalidatePlanner "arm" s.workspace).2.2
    (∀ place, place ≠ (⟨"graphs/arm"⟩ : Path).components →
      w'.contents.get? place = s.workspace.contents.get? place) ∧
    ∃ c m'' w'', m'.context "arm" none w' = (.ok c, m'', w'') ∧ c.planner ≠ 0 ∧
      ∃ new, w''.planner? c.planner = some new ∧ new.seeded = true ∧ new.graph = [5] := by
  intro s m' w'
  have hover : HandsOver s.manager s.workspace "arm" (arm (resumedAt "graphs//arm")) resuming 0 _
      ⟨"graphs//arm"⟩ ⟨"graphs/arm"⟩ := {
    configured := rfl
    named := rfl
    wanted := ⟨by decide, by decide, by decide⟩
    resolved := ⟨"roadmap", rfl⟩
    kept := rfl
    enrolled := rfl
    registered := rfl
    same := by decide
    typed := rfl
    keeps := fun space data h => ⟨_, rfl, rfl⟩
    marks := ⟨fun _ => rfl, fun space data p h => by cases h; rfl⟩
    recalls := Storage.recalls_memory
    stored := rfl
    loaded := ⟨_, rfl⟩ }
  obtain ⟨-, -, -, hentries, hhands⟩ := invalidation_hands_over s.manager "arm" s.workspace
  refine ⟨fun place hplace => ?elsewhere, ?handed⟩
  case elsewhere =>
    refine hentries _ _ _ _ Storage.confines_memory place fun q hq he => hplace ?_
    obtain rfl : q = ⟨"graphs/arm"⟩ := (Option.some.inj hq).symm
    exact (Option.some.inj he).symm
  case handed =>
    have hlook : m'.context "arm" none w' = (.ok _, _, _) := rfl
    exact ⟨_, _, _, hlook, hhands _ _ _ _ _ _ hover _ _ _ (.inl ⟨none, hlook⟩)⟩

end Manager

end MotionContexts
