/-
# What was explored survives restarts

A planner is kept under a name, starts from the data at a path, and its data is stored there when
its manager ends.  The next manager goes on from there.  So through any number of managers, one
after the other, nothing that was explored is lost, doubled or put in another order: the graph at
the path is at last what all of them appended, byte for byte.

A `Generation` is the life of one manager.  It ends with a shutdown or without one, and since
whatever is registered is `Pending` as long as nobody shuts down, its end flushes the planner in
either case.  What a lineage needs of a generation is said by `Lineage.Carries`.

Main statement: `exploration_survives_restarts`, in memory and in files.
-/
import MotionContexts.Proofs.Manager.Lineage

namespace MotionContexts.Manager

universe u

variable {σ : Type u}

/-! ## 1. Generations -/

/-- The life of a manager: what happens to it, and whether it is shut down before its end. -/
structure Generation where
  operations : List Operation
  shutDown : Bool

/-- What a new manager leaves behind at its end. -/
def Generation.finish (g : Generation) (storage : Storage σ) (w : Workspace σ) : Workspace σ :=
  let s := (Session.new storage w).run g.operations
  let s := if g.shutDown then (s.perform .shutdown).2 else s
  s.manager.release s.workspace

/-- One manager after the other. -/
def lifetimes (storage : Storage σ) (w : Workspace σ) (gens : List Generation) : Workspace σ :=
  gens.foldl (fun w g => g.finish storage w) w

/-- The bytes that all generations append, one generation after the other. -/
def appendedThrough (name : String) (storage : Storage σ) :
    Workspace σ → List Generation → List UInt8
  | _, [] => []
  | w, g :: gs =>
    (Session.new storage w).appended name [] g.operations ++
      appendedThrough name storage (g.finish storage w) gs

/-! ## 2. What is pending -/

theorem LooksUp.pending {m m' : Manager σ} {name : String} {w w' : Workspace σ}
    {c : Option PlanningContext} (h : LooksUp m name w c m' w') (hp : m.cache.pool.Pending) :
    m'.cache.pool.Pending := by
  cases h with
  | refused => exact hp
  | answered hn hf ha =>
    cases ha with
    | cached hc => exact hp
    | built hc hb =>
      cases hb with
      | built hlimits hplanner hspace hal => exact hal.pending hp

theorem pending_new {storage : Storage σ} {w : Workspace σ} :
    (Session.new storage w).manager.cache.pool.Pending := fun name path hpath => by cases hpath

/-- Only a shutdown can settle what is pending. -/
theorem pending_perform {s : Session σ} {op : Operation} (hop : op ≠ .shutdown)
    (hp : s.manager.cache.pool.Pending) : (s.perform op).2.manager.cache.pool.Pending := by
  cases op with
  | context name hint =>
    rcases hc : s.manager.context name hint s.workspace with ⟨result, m, w⟩
    rw [Session.perform, hc]
    exact (looksUp_context hc).pending hp
  | request scene request =>
    rcases hc : s.manager.contextForRequest scene request s.workspace with ⟨result, m, w⟩
    rw [Session.perform, hc]
    exact (looksUp_contextForRequest hc).pending hp
  | apply d =>
    rcases hm : s.manager.configure d with ⟨result, m⟩
    rw [Session.perform, hm]
    cases Session.configures_of_eq hm with
    | refused => exact hp
    | applied hcs => exact hp
  | invalidatePlanner name => exact hp.invalidate name s.workspace
  | shutdown => exact absurd rfl hop
  | _ => exact hp

theorem pending_run {s : Session σ} {ops : List Operation} (hops : .shutdown ∉ ops)
    (hp : s.manager.cache.pool.Pending) : (s.run ops).manager.cache.pool.Pending := by
  induction ops generalizing s with
  | nil => exact hp
  | cons op ops ih =>
    rw [List.mem_cons, not_or] at hops
    have hstep := pending_perform (Ne.symm hops.1) hp
    exact ih hops.2 hstep

/-- The end of a manager flushes its pool, in a shutdown or because something is left to flush. -/
theorem finish_eq {g : Generation} {storage : Storage σ} {w : Workspace σ}
    (h : g.shutDown = false →
      ((Session.new storage w).run g.operations).manager.cache.pool.flushed = false) :
    g.finish storage w = (((Session.new storage w).run g.operations).manager.cache.pool.shutdown
      ((Session.new storage w).run g.operations).workspace).2.2 := by
  unfold Generation.finish
  dsimp only
  cases hshut : g.shutDown with
  | true => rfl
  | false =>
    have hflushed := h hshut
    rw [if_neg Bool.false_ne_true, release, ContextCache.release, PlannerPool.release, hflushed,
      if_neg Bool.false_ne_true]

/-! ## 3. One generation -/

namespace Lineage

variable (L : Lineage σ)

/-- What the lineage needs of a generation. -/
structure Carries (w : Workspace σ) (g : Generation) : Prop where
  suits : ∀ k, L.Suits ((Session.new L.storage w).run (g.operations.take k))
  /-- The context is obtained. -/
  obtained : ∃ c ∈ (Session.new L.storage w).handedOut g.operations, c.spec.name = L.name
  notForgotten : .invalidatePlanner L.name ∉ g.operations
  /-- What a shutdown stores is stored for good only if there is another one at the end. -/
  shutDown : .shutdown ∈ g.operations → g.shutDown = true
  /-- The storage does not fail at the path. -/
  stored : (g.finish L.storage w).NoFailureAt L.path

/-- Every generation carries the lineage on. -/
def Unbroken : Workspace σ → List Generation → Prop
  | _, [] => True
  | w, g :: gs => L.Carries w g ∧ Unbroken (g.finish L.storage w) gs

variable {L}

/-- **What a generation leaves at the path** is what was stored before, and what was appended. -/
theorem Carries.load_finish (hL : L.Kept) {w : Workspace σ} {g : Generation} {before : List UInt8}
    (hg : L.Carries w g) (h : L.Offers before w.contents) :
    L.storage.load L.path (g.finish L.storage w).contents =
      .ok ⟨L.type, before ++ (Session.new L.storage w).appended L.name [] g.operations⟩ := by
  have hgrown := (Growing.new h).run hL hg.suits hg.notForgotten
  have hsuits := hg.suits g.operations.length
  rw [List.take_length] at hsuits
  have hflushed : g.shutDown = false →
      ((Session.new L.storage w).run g.operations).manager.cache.pool.flushed = false := by
    intro hshut
    have hno : .shutdown ∉ g.operations := fun hmem => by
      rw [hg.shutDown hmem] at hshut
      cases hshut
    exact pending_run hno pending_new _ _ (hgrown.registered hg.obtained)
  have hok := hg.stored
  rw [finish_eq hflushed] at hok ⊢
  exact hgrown.load_flush hL hsuits hg.obtained hok

/-! ## 4. All generations -/

/-- **What is left at the path by generations, one after the other**, is what was stored before, and
what all of them appended. -/
theorem Unbroken.load_lifetimes (hL : L.Kept) :
    ∀ {gens : List Generation} {w : Workspace σ} {before : List UInt8}, gens ≠ [] →
      L.Unbroken w gens → L.Offers before w.contents →
      L.storage.load L.path (lifetimes L.storage w gens).contents =
        .ok ⟨L.type, before ++ appendedThrough L.name L.storage w gens⟩
  | [g], w, before, _, hg, h => by
    rw [appendedThrough, appendedThrough, List.append_nil]
    exact hg.1.load_finish hL h
  | g :: g' :: gens, w, before, _, hg, h => by
    have hfinish := hg.1.load_finish hL h
    have hrest := load_lifetimes hL (List.cons_ne_nil g' gens) hg.2 (.inr hfinish)
    rwa [List.append_assoc] at hrest

end Lineage

/-! ## 5. In memory and in files -/

/-- **What was explored survives restarts, byte for byte.**  Through any number of managers, one
after the other, over a path where nothing is stored at first, each of which obtains the context of
the name: the data that is loaded from the path at last has the type, and its graph is what all of
them appended, in order.

1. In memory, where the other paths differ in their components.
2. In files, where the other paths lead to other places, whatever the working directory. -/
theorem exploration_survives_restarts (name type : String) (path : Path) (gens : List Generation)
    (hne : gens ≠ []) :
    (∀ w : Workspace Blobs, w.contents.holds path = false →
      (Lineage.inMemory name type path).Unbroken w gens →
      Storage.memory.load path (lifetimes .memory w gens).contents =
        .ok ⟨type, appendedThrough name .memory w gens⟩) ∧
    (∀ (working : Place) (w : Workspace (FileTree working)),
      (∀ place bytes, FileTree.placeOf working path = .ok place →
        w.contents.get? place ≠ some (.file bytes)) →
      (Lineage.inFiles working name type path).Unbroken w gens →
      Storage.files.load path (lifetimes .files w gens).contents =
        .ok ⟨type, appendedThrough name .files w gens⟩) := by
  constructor
  case left =>
    intro w hvacant hgens
    have hkept : (Lineage.inMemory name type path).Kept := Storage.keeps_memory path
    exact hgens.load_lifetimes hkept hne (.inl ⟨hvacant, rfl⟩)
  case right =>
    intro working w hvacant hgens
    have hkept : (Lineage.inFiles working name type path).Kept := Storage.keeps_files working path
    exact hgens.load_lifetimes hkept hne (.inl ⟨hvacant, rfl⟩)

open MotionContexts.Sample

/-- A manager is set up for a planner that goes on from the data at a path; the planner of the
number explores. -/
def exploringRun (n : Nat) (bytes : List UInt8) : List Operation :=
  [.registerPlanner "roadmap" resuming, .setConfigurations (.ofList [arm (resumedAt "arm.graph")]),
    .context "arm" none, .explore n bytes]

/-- One manager that is shut down, and one that is not. -/
def twoManagers : List Generation :=
  [⟨exploringRun 0 [1, 2], true⟩, ⟨exploringRun 1 [3], false⟩]

/-- A table with one entry at most. -/
theorem eq_of_get?_single {α : Type u} {t : Table α} {k j : String} {v u : α}
    (ht : t = ∅ ∨ t = (∅ : Table α).insert k v) (hu : t.get? j = some u) : j = k ∧ u = v := by
  rcases ht with rfl | rfl
  · cases hu
  · rw [Table.get?_insert] at hu
    split at hu
    · rename_i hj
      exact ⟨hj, (Option.some.inj hu).symm⟩
    · cases hu

/-- What is in force and registered at any moment of the run, over any storage. -/
theorem manager_exploringRun (storage : Storage σ) (w : Workspace σ) (n : Nat) (bytes : List UInt8)
    (k : Nat) :
    let m := ((Session.new storage w).run ((exploringRun n bytes).take k)).manager
    (m.configurations = ∅ ∨ m.configurations = (∅ : Configurations).insert "arm"
        (arm (resumedAt "arm.graph"))) ∧
      (m.planners.families = ∅ ∨
        m.planners.families = (∅ : Table PlannerFamily).insert "roadmap" resuming) ∧
      (m.cache.pool.storagePaths = ∅ ∨
        m.cache.pool.storagePaths = (∅ : Table Path).insert "arm" ⟨"arm.graph"⟩) := by
  match k with
  | 0 => exact ⟨.inl rfl, .inl rfl, .inl rfl⟩
  | 1 => exact ⟨.inl rfl, .inr rfl, .inl rfl⟩
  | 2 => exact ⟨.inr rfl, .inr rfl, .inl rfl⟩
  | 3 => exact ⟨.inr rfl, .inr rfl, .inr rfl⟩
  | k + 4 =>
    have hall : (exploringRun n bytes).take (k + 4) = exploringRun n bytes :=
      List.take_of_length_le (by simp [exploringRun])
    rw [hall]
    exact ⟨.inr rfl, .inr rfl, .inr rfl⟩

theorem resumes_resuming : resuming.Resumes "roadmap" where
  plannerType := rfl
  fresh _ := rfl
  resumed := by
    rintro space ⟨type, graph⟩ rfl
    exact ⟨_, rfl, rfl⟩

theorem Lineage.carries_exploringRun {L : Lineage σ} (hname : L.name = "arm")
    (htype : L.type = "roadmap") (hpath : L.path = ⟨"arm.graph"⟩) {w : Workspace σ} {n : Nat}
    {bytes : List UInt8} {b : Bool}
    (hstored : ((⟨exploringRun n bytes, b⟩ : Generation).finish L.storage w).NoFailureAt L.path) :
    L.Carries w ⟨exploringRun n bytes, b⟩ where
  suits k := by
    obtain ⟨hconfigurations, hplanners, hpaths⟩ := manager_exploringRun L.storage w n bytes k
    refine ⟨?wants, ?resumes, ?others⟩
    case wants =>
      intro key c hc _
      obtain ⟨-, rfl⟩ := eq_of_get?_single hconfigurations hc
      rw [hpath]
      exact ⟨by decide, by decide, by decide, by decide⟩
    case resumes =>
      intro key c id f hc _ hf
      obtain ⟨-, rfl⟩ := eq_of_get?_single hconfigurations hc
      obtain ⟨-, rfl⟩ := eq_of_get?_single hplanners (PlannerCatalog.get?_of_resolve hf)
      exact htype ▸ resumes_resuming
    case others =>
      intro name path hget hne
      exact absurd ((eq_of_get?_single hpaths hget).1.trans hname.symm) hne
  obtained := ⟨_, List.mem_cons_self .., hname.symm⟩
  notForgotten := by simp [exploringRun]
  shutDown := by simp [exploringRun]
  stored := hstored

theorem exploration_survives_restarts_twoManagers :
    Storage.memory.load ⟨"arm.graph"⟩ (lifetimes .memory { contents := ∅ } twoManagers).contents =
        .ok ⟨"roadmap", [1, 2, 3]⟩ ∧
      Storage.files.load ⟨"arm.graph"⟩
          (lifetimes .files { contents := (.empty : FileTree ["work"]) } twoManagers).contents =
        .ok ⟨"roadmap", [1, 2, 3]⟩ := by
  obtain ⟨hmemory, hfiles⟩ :=
    exploration_survives_restarts "arm" "roadmap" ⟨"arm.graph"⟩ twoManagers (by simp [twoManagers])
  constructor
  case left =>
    exact hmemory { contents := ∅ } rfl
      ⟨Lineage.carries_exploringRun rfl rfl rfl (by decide +kernel),
        Lineage.carries_exploringRun rfl rfl rfl (by decide +kernel), trivial⟩
  case right =>
    have happended : appendedThrough "arm" .files { contents := (.empty : FileTree ["work"]) }
        twoManagers = [1, 2, 3] := by
      decide +kernel
    have hvacant : ∀ place bytes, (.empty : FileTree ["work"]).get? place ≠ some (.file bytes) := by
      intro place bytes
      unfold FileTree.get?
      split <;> intro h <;> cases h
    rw [← happended]
    exact hfiles ["work"] { contents := .empty } (fun place bytes _ => hvacant place bytes)
      ⟨Lineage.carries_exploringRun rfl rfl rfl (by decide +kernel),
        Lineage.carries_exploringRun rfl rfl rfl (by decide +kernel), trivial⟩

end MotionContexts.Manager
