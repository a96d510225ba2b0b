/-
# The lineage of a planner

A planner that is kept under a name, that starts from the data at a path and is stored there, has
ancestors: whatever they explored, and was stored, it has too.  A `Lineage` says which name, which
planner type and which path, over which storage.

In the life of one manager its planner goes through two phases.  As long as no planner is kept under
the name, what was stored before is still on offer.  From then on the planner has it, and everything
that was appended since, whatever becomes of the place on the way.  Beside this planner everything
may happen: other contexts, other planners that are stored to other places, configurations that come
and go.  What the lineage needs of a state is said by `Lineage.Suits`.

Main statements:
* `Growing.perform`, what one operation hands out and appends;
* `Growing.run`, the same of a run;
* `Growing.load_flush`, what a flush leaves at the path.
-/
import MotionContexts.Proofs.Manager.Session
import MotionContexts.Proofs.PlannerPool.Resuming

namespace MotionContexts.Manager

universe u

variable {σ : Type u}

/-! ## 1. What is appended -/

/-- The bytes that an operation appends to the planner of a context of the name, among the contexts
that were handed out. -/
def Operation.appended (name : String) (seen : List PlanningContext) : Operation → List UInt8
  | .explore n bytes =>
    if seen.any fun c => c.spec.name == name && c.planner == n then bytes else []
  | _ => []

/-- The bytes that a run appends, one operation after the other. -/
def Session.appended (name : String) (seen : List PlanningContext) (s : Session σ) :
    List Operation → List UInt8
  | [] => []
  | op :: ops =>
    op.appended name seen ++ (s.perform op).2.appended name (seen ++ (s.perform op).1.toList) ops

/-! ## 2. Lineages -/

/-- Planners of one type that are kept under one name, and that start from one path and are stored
there.  The storage has its own notions of a path where nothing is, and of paths apart from it. -/
structure Lineage (σ : Type u) where
  name : String
  type : String
  path : Path
  storage : Storage σ
  vacant : σ → Prop
  apart : Path → Prop

namespace Lineage

/-- A lineage in memory: paths are told apart by their components. -/
def inMemory (name type : String) (path : Path) : Lineage Blobs where
  name := name
  type := type
  path := path
  storage := .memory
  vacant m := m.holds path = false
  apart q := path.same q = false

/-- A lineage in files: paths are told apart by the place they lead to, and a path is vacant if no
file is at its place. -/
def inFiles (working : Place) (name type : String) (path : Path) : Lineage (FileTree working) where
  name := name
  type := type
  path := path
  storage := .files
  vacant t := ∀ place bytes, FileTree.placeOf working path = .ok place →
    t.get? place ≠ some (.file bytes)
  apart q := ∀ place, FileTree.placeOf working path = .ok place →
    FileTree.placeOf working q ≠ .ok place

variable (L : Lineage σ)

/-- The settings and registrations that the lineage needs in every state. -/
structure Suits (s : Session σ) : Prop where
  /-- A configuration of the name wants its planner kept, loaded and stored at the path. -/
  wants : ∀ key c, s.manager.configurations.get? key = some c → c.name = L.name →
    Retention.Wants c.options L.path
  /-- The family that it stands for makes planners that can resume. -/
  resumes : ∀ key c id f, s.manager.configurations.get? key = some c → c.name = L.name →
    s.manager.planners.resolve (c.options.get? ContextSource.plannerOption) = .ok (id, f) →
    f.Resumes L.type
  /-- The other names are registered for other places. -/
  others : ∀ name path, s.manager.cache.pool.storagePaths.get? name = some path → name ≠ L.name →
    L.apart path

/-- The storage keeps what is stored at the path. -/
def Kept : Prop := L.storage.Keeps L.path L.vacant L.apart

/-- What a planner of the lineage can start with. -/
def Offers (graph : List UInt8) (c : σ) : Prop :=
  L.storage.Offers L.vacant L.path L.type graph c

/-! ## 3. The two phases -/

/-- Whether the planner of the lineage is kept yet, and where what was explored is. -/
inductive Phase (before : List UInt8) (seen : List PlanningContext) (bytes : List UInt8)
    (pool : PlannerPool σ) (w : Workspace σ) : Prop
  /-- What was stored before is on offer. -/
  | idle (hpool : pool.planners.get? L.name = none)
    (hpath : pool.storagePaths.get? L.name = none) (hseen : ∀ c ∈ seen, c.spec.name ≠ L.name)
    (hbytes : bytes = []) (hoffers : L.Offers before w.contents)
  /-- The planner has it, and what was appended since. -/
  | kept {n : Nat} {p : Planner} (hpool : pool.planners.get? L.name = some n)
    (hpath : pool.storagePaths.get? L.name = some L.path) (hp : w.planner? n = some p)
    (hdata : p.data = ⟨L.type, before ++ bytes⟩)
    (hseen : ∀ c ∈ seen, c.spec.name = L.name → c.planner = n)
    (hsome : ∃ c ∈ seen, c.spec.name = L.name)

/-- The invariant of a generation: `before` was stored when it began, the contexts `seen` were
handed out, and `bytes` were appended. -/
structure Growing (before : List UInt8) (seen : List PlanningContext) (bytes : List UInt8)
    (s : Session σ) : Prop where
  storage : s.manager.cache.pool.storage = L.storage
  cached : ∀ k c, s.manager.cache.contexts.get? k = some c →
    c ∈ seen ∧ c.spec.name = k.configuration
  phase : L.Phase before seen bytes s.manager.cache.pool s.workspace

variable {L} {before bytes : List UInt8} {seen : List PlanningContext} {s : Session σ}

theorem Growing.new {w : Workspace σ} (h : L.Offers before w.contents) :
    L.Growing before [] [] (Session.new L.storage w) where
  storage := rfl
  cached k c hc := by cases hc
  phase := .idle rfl rfl (fun c hc => by cases hc) rfl h

/-- What leaves pool and workspace alone, and adds no context to the cache, changes nothing. -/
theorem Growing.congr {s' : Session σ} (h : L.Growing before seen bytes s)
    (hpool : s'.manager.cache.pool = s.manager.cache.pool) (hw : s'.workspace = s.workspace)
    (hcached : ∀ k c, s'.manager.cache.contexts.get? k = some c →
      s.manager.cache.contexts.get? k = some c) : L.Growing before seen bytes s' where
  storage := hpool ▸ h.storage
  cached k c hc := h.cached k c (hcached k c hc)
  phase := by
    rw [hpool, hw]
    exact h.phase

/-- Handing out a context again, or one of another name, changes nothing. -/
theorem Phase.handOut {pool : PlannerPool σ} {w : Workspace σ} {c : PlanningContext}
    (h : L.Phase before seen bytes pool w) (hc : c ∈ seen ∨ c.spec.name ≠ L.name) :
    L.Phase before (seen ++ [c]) bytes pool w := by
  have hmem : ∀ d ∈ seen ++ [c], d.spec.name = L.name → d ∈ seen := by
    intro d hd hname
    rcases List.mem_append.mp hd with hd | hd
    · exact hd
    · rw [List.mem_singleton.mp hd] at hname ⊢
      exact hc.resolve_right fun hne => hne hname
  cases h with
  | idle hpool hpath hseen hbytes hoffers =>
    exact .idle hpool hpath (fun d hd hname => hseen d (hmem d hd hname) hname) hbytes hoffers
  | kept hpool hpath hp hdata hseen hsome =>
    obtain ⟨d, hd, hname⟩ := hsome
    exact .kept hpool hpath hp hdata (fun d hd hname => hseen d (hmem d hd hname) hname)
      ⟨d, List.mem_append_left _ hd, hname⟩

/-- What leaves the planner and what is on offer alone changes nothing. -/
theorem Phase.mono {pool pool' : PlannerPool σ} {w w' : Workspace σ}
    (h : L.Phase before seen bytes pool w)
    (hplanners : pool'.planners.get? L.name = pool.planners.get? L.name)
    (hpaths : pool'.storagePaths.get? L.name = pool.storagePaths.get? L.name)
    (hplanner : ∀ i q, w.planner? i = some q → w'.planner? i = some q)
    (hoffers : pool.storagePaths.get? L.name = none → L.Offers before w.contents →
      L.Offers before w'.contents) : L.Phase before seen bytes pool' w' := by
  cases h with
  | idle hpool hpath hseen hbytes hstored =>
    exact .idle (hplanners.trans hpool) (hpaths.trans hpath) hseen hbytes (hoffers hpath hstored)
  | kept hpool hpath hp hdata hseen hsome =>
    exact .kept (hplanners.trans hpool) (hpaths.trans hpath) (hplanner _ _ hp) hdata hseen hsome

/-- What happens to other names changes nothing. -/
theorem Phase.elsewhere {pool pool' : PlannerPool σ} {w w' : Workspace σ}
    (h : L.Phase before seen bytes pool w)
    (he : PlannerPool.Elsewhere L.name pool pool' w w') :
    L.Phase before seen bytes pool' w' :=
  h.mono he.planners he.storagePaths he.planner fun _ hstored => he.contents ▸ hstored

/-- The first planner of the name starts with what is on offer. -/
theorem Phase.first (hL : L.Kept) {pool : PlannerPool σ} {family : PlannerFamily} {space : Space}
    {w w' : Workspace σ} {n : Nat} {p : Planner} {c : PlanningContext}
    (h : L.Phase before seen bytes pool w) (hstorage : pool.storage = L.storage)
    (hnone : pool.planners.get? L.name = none) (hf : family.Resumes L.type)
    (hw : w.Enrolls w' n p)
    (hdata : p.data = (PlannerPool.construct pool.storage family space (some L.path) w).1.data)
    (hname : c.spec.name = L.name) (hplanner : c.planner = n) :
    L.Phase before (seen ++ [c]) bytes (pool.keep L.name n (some L.path)) w' := by
  cases h with
  | kept hpool => rw [hnone] at hpool; cases hpool
  | idle hpool hpath hseen hbytes hoffers =>
    rw [hstorage, PlannerPool.data_construct hL hf hoffers] at hdata
    refine .kept (n := n) (p := p) ?_ ?_ ?_ ?_ (fun d hd hdname => ?_) ⟨c, by simp, hname⟩
    · rw [PlannerPool.planners_keep, Table.get?_insert_self]
    · rw [PlannerPool.storagePaths_keep, if_pos rfl, Option.some_or]
    · rw [hw.planner?, if_pos rfl]
    · rw [hdata, hbytes, List.append_nil]
    · rcases List.mem_append.mp hd with hd | hd
      · exact absurd hdname (hseen d hd)
      · rw [List.mem_singleton.mp hd, hplanner]

/-! ## 4. Operations -/

/-- Handing out a planner for a context, of the name or of another one. -/
theorem Growing.allocates (hL : L.Kept) (h : L.Growing before seen bytes s)
    {family : PlannerFamily} {space : Space} {options : Table String} {c : PlanningContext}
    {pool : PlannerPool σ} {w : Workspace σ}
    (ha : PlannerPool.Allocates s.manager.cache.pool family space c.spec.name options s.workspace
      (.ok c.planner) pool w)
    (hwants : c.spec.name = L.name → Retention.Wants options L.path)
    (hf : c.spec.name = L.name → family.Resumes L.type) :
    pool.storage = L.storage ∧ L.Phase before (seen ++ [c]) bytes pool w := by
  by_cases hname : c.spec.name = L.name
  · rcases ha.of_wants (hwants hname) with ⟨hn, rfl, rfl⟩ | ⟨hnone, rfl, p, hw, hdata⟩
    · refine ⟨h.storage, ?_⟩
      rw [hname] at hn
      cases h.phase with
      | idle hpool => rw [hn] at hpool; cases hpool
      | kept hpool hpath hp hdata hseen hsome =>
        obtain rfl : c.planner = _ := Option.some.inj (hn.symm.trans hpool)
        refine .kept hpool hpath hp hdata (fun d hd hdname => ?_) ⟨c, by simp, hname⟩
        rcases List.mem_append.mp hd with hd | hd
        · exact hseen d hd hdname
        · rw [List.mem_singleton.mp hd]
    · rw [hname] at hnone ⊢
      refine ⟨(PlannerPool.storage_keep ..).trans h.storage, ?_⟩
      exact h.phase.first hL h.storage hnone (hf hname) hw hdata hname rfl
  · have he := ha.elsewhere fun heq => hname heq.symm
    exact ⟨he.storage.trans h.storage, (h.phase.elsewhere he).handOut (.inr hname)⟩

/-- **A look-up** hands out a context of the planner, or one of another name. -/
theorem Growing.looksUp (hL : L.Kept) (hs : L.Suits s) (h : L.Growing before seen bytes s)
    {name : String} {c : Option PlanningContext} {m : Manager σ} {w : Workspace σ}
    (hl : LooksUp s.manager name s.workspace c m w) :
    L.Growing before (seen ++ c.toList) bytes ⟨m, w⟩ := by
  cases hl with
  | refused =>
    rw [Option.toList_none, List.append_nil]
    exact h
  | @answered cfg f c cache w hn hf ha =>
    rw [Option.toList_some]
    cases ha with
    | cached hc =>
      obtain ⟨hmem, -⟩ := h.cached _ _ hc
      refine ⟨h.storage, fun k d hd => ?_, h.phase.handOut (.inl hmem)⟩
      obtain ⟨hd, hname⟩ := h.cached k d hd
      exact ⟨List.mem_append_left _ hd, hname⟩
    | @built c pool w' hc hb =>
      cases hb with
      | @built limits options plannerId family space n pool w₁ hlimits hp hspace hal =>
        have hwants : cfg.name = L.name → Retention.Wants options L.path := fun hname =>
          (hs.wants _ cfg hn hname).congr fun key hkey => Limits.get?_applyOverrides hkey hlimits
        have hresumes : cfg.name = L.name → family.Resumes L.type := fun hname =>
          hs.resumes _ cfg _ _ hn hname hp
        have hplanner := h.allocates hL
          (c := ⟨w₁.contexts, ⟨cfg.name, cfg.group, plannerId, cfg.options, limits⟩, space, n⟩)
          hal hwants hresumes
        refine ⟨hplanner.1, fun k d hd => ?cached, ?phase⟩
        case cached =>
          rw [KeyedList.get?_insert] at hd
          split at hd
          · rename_i hk
            cases hd
            exact ⟨by simp, hk ▸ rfl⟩
          · obtain ⟨hd, hname⟩ := h.cached k d hd
            exact ⟨List.mem_append_left _ hd, hname⟩
        case phase =>
          -- the number of the context is counted, and nothing else
          exact hplanner.2.elsewhere ⟨rfl, rfl, rfl, rfl, fun _ _ hq => hq⟩

/-- **Forgetting another planner** stores its data elsewhere. -/
theorem Growing.forget (hL : L.Kept) (hs : L.Suits s) (h : L.Growing before seen bytes s)
    {name : String} (hne : name ≠ L.name) :
    L.Growing before seen bytes (s.perform (.invalidatePlanner name)).2 where
  storage := h.storage
  cached k c hc := by
    have hfilter : (s.manager.cache.contexts.filterKeys fun k => k.configuration != name).get? k =
        some c := hc
    rw [KeyedList.get?_filterKeys] at hfilter
    split at hfilter
    · exact h.cached k c hfilter
    · cases hfilter
  phase := by
    have hother : ∀ {α : Type} (t : Table α), (t.erase name).get? L.name = t.get? L.name :=
      fun t => by rw [Table.get?_erase, if_neg hne.symm]
    refine h.phase.mono (hother _) (hother _) (fun i q hq => ?planner) fun _ hstored => ?contents
    case planner =>
      rw [← hq]
      exact (PlannerPool.saved_invalidate ..).planner? i
    case contents =>
      refine PlannerPool.contents_invalidate (fun path hpath c d hc => ?_) hstored
      rw [h.storage]
      exact hc.store hL (hs.others name path hpath hne) d

/-- **A shutdown** stores elsewhere as long as no planner of the lineage is kept. -/
theorem Growing.shutdown (hL : L.Kept) (hs : L.Suits s) (h : L.Growing before seen bytes s) :
    L.Growing before seen bytes (s.perform .shutdown).2 where
  storage := h.storage
  cached := h.cached
  phase := by
    refine h.phase.mono rfl rfl (fun i q hq => ?planner) fun hnone hstored => ?contents
    case planner =>
      rw [← hq]
      exact (PlannerPool.saved_shutdown ..).planner? i
    case contents =>
      refine PlannerPool.contents_storeAll (fun e he c d hc => ?_) hstored
      have hpath : s.manager.cache.pool.storagePaths.get? e.1 = some e.2 :=
        (Table.get?_eq_some_iff _).mpr he
      have hne : e.1 ≠ L.name := by
        intro heq
        rw [heq, hnone] at hpath
        cases hpath
      rw [h.storage]
      exact hc.store hL (hs.others e.1 e.2 hpath hne) d

/-- **Exploring** appends to the planner of the lineage if a context of its name holds it. -/
theorem Growing.explore (h : L.Growing before seen bytes s) (n : Nat) (new : List UInt8) :
    L.Growing before seen (bytes ++ (Operation.explore n new).appended L.name seen)
      (s.perform (.explore n new)).2 where
  storage := h.storage
  cached := h.cached
  phase := by
    rw [Operation.appended]
    cases h.phase with
    | idle hpool hpath hseen hbytes hstored =>
      have hany : (seen.any fun c => c.spec.name == L.name && c.planner == n) = false := by
        simpa using fun c hc hname => absurd hname (hseen c hc)
      have hsame := (s.workspace.contents_explore n new).symm
      rw [hany, hbytes]
      exact .idle hpool hpath hseen rfl (hsame ▸ hstored)
    | @kept m p hpool hpath hp hdata hseen hsome =>
      have hplanner := s.workspace.planner?_explore n m new
      by_cases hm : m = n
      · have hany : (seen.any fun c => c.spec.name == L.name && c.planner == n) = true := by
          obtain ⟨c, hc, hname⟩ := hsome
          simpa using ⟨c, hc, hname, (hseen c hc hname).trans hm⟩
        rw [if_pos hm, hp, Option.map_some] at hplanner
        rw [hany, if_pos rfl]
        refine .kept hpool hpath hplanner ?_ hseen hsome
        rw [Planner.data_explore, hdata, List.append_assoc]
      · have hany : (seen.any fun c => c.spec.name == L.name && c.planner == n) = false := by
          simpa using fun c hc hname hn => hm ((hseen c hc hname).symm.trans hn)
        rw [if_neg hm, hp] at hplanner
        rw [hany, if_neg Bool.false_ne_true, List.append_nil]
        exact .kept hpool hpath hplanner hdata hseen hsome

/-- **One operation** hands out and appends what it says, and the invariant goes on. -/
theorem Growing.perform (hL : L.Kept) (hs : L.Suits s) (h : L.Growing before seen bytes s)
    {op : Operation} (hop : op ≠ .invalidatePlanner L.name) :
    L.Growing before (seen ++ (s.perform op).1.toList) (bytes ++ op.appended L.name seen)
      (s.perform op).2 := by
  have hquiet : ∀ {s' : Session σ}, L.Growing before seen bytes s' →
      L.Growing before (seen ++ []) (bytes ++ []) s' := by
    intro s' h'
    rwa [List.append_nil, List.append_nil]
  have hlooks : ∀ {name : String} {c : Option PlanningContext} {m : Manager σ} {w : Workspace σ},
      LooksUp s.manager name s.workspace c m w →
      L.Growing before (seen ++ c.toList) (bytes ++ []) ⟨m, w⟩ := by
    intro name c m w hl
    rw [List.append_nil]
    exact h.looksUp hL hs hl
  cases op with
  | context name hint =>
    rcases hc : s.manager.context name hint s.workspace with ⟨result, m, w⟩
    rw [Session.perform, hc]
    exact hlooks (looksUp_context hc)
  | request scene request =>
    rcases hc : s.manager.contextForRequest scene request s.workspace with ⟨result, m, w⟩
    rw [Session.perform, hc]
    exact hlooks (looksUp_contextForRequest hc)
  | setConfigurations cs => exact hquiet (h.congr rfl rfl fun k c hc => by cases hc)
  | apply d =>
    rcases hm : s.manager.configure d with ⟨result, m⟩
    rw [Session.perform, hm]
    cases Session.configures_of_eq hm with
    | refused => exact hquiet h
    | applied hcs => exact hquiet (h.congr rfl rfl fun k c hc => by cases hc)
  | invalidatePlanner name =>
    have hne : name ≠ L.name := fun heq => hop (heq ▸ rfl)
    exact hquiet (h.forget hL hs hne)
  | shutdown => exact hquiet (h.shutdown hL hs)
  | explore n new =>
    have hseen : seen ++ (s.perform (.explore n new)).1.toList = seen := List.append_nil seen
    rw [hseen]
    exact h.explore n new
  | _ => exact hquiet (h.congr rfl rfl fun _ _ hc => hc)

/-- **A run** hands out and appends one operation after the other. -/
theorem Growing.run (hL : L.Kept) {ops : List Operation} (h : L.Growing before seen bytes s)
    (hs : ∀ k, L.Suits (s.run (ops.take k))) (hops : .invalidatePlanner L.name ∉ ops) :
    L.Growing before (seen ++ s.handedOut ops) (bytes ++ s.appended L.name seen ops)
      (s.run ops) := by
  induction ops generalizing seen bytes s with
  | nil =>
    rw [Session.handedOut, Session.appended, List.append_nil, List.append_nil]
    exact h
  | cons op ops ih =>
    rw [List.mem_cons, not_or] at hops
    have hstep := h.perform hL (hs 0) (Ne.symm hops.1)
    have hrest := ih hstep (fun k => hs (k + 1)) hops.2
    rwa [List.append_assoc, List.append_assoc] at hrest

/-! ## 5. The end -/

/-- Once a context of the name was handed out, the planner is registered for the path. -/
theorem Growing.registered (h : L.Growing before seen bytes s)
    (hsome : ∃ c ∈ seen, c.spec.name = L.name) :
    s.manager.cache.pool.storagePaths.get? L.name = some L.path := by
  cases h.phase with
  | idle hpool hpath hseen =>
    obtain ⟨c, hc, hname⟩ := hsome
    exact absurd hname (hseen c hc)
  | kept hpool hpath => exact hpath

/-- **What a flush leaves at the path** is what was stored before, and what was appended. -/
theorem Growing.load_flush (hL : L.Kept) (hs : L.Suits s) (h : L.Growing before seen bytes s)
    (hsome : ∃ c ∈ seen, c.spec.name = L.name)
    (hok : (s.manager.cache.pool.shutdown s.workspace).2.2.NoFailureAt L.path) :
    L.storage.load L.path (s.manager.cache.pool.shutdown s.workspace).2.2.contents =
      .ok ⟨L.type, before ++ bytes⟩ := by
  have hregistered := h.registered hsome
  cases h.phase with
  | idle hpool hpath => rw [hpath] at hregistered; cases hregistered
  | @kept n p hpool hpath hp hdata =>
    have hplanner : (s.manager.cache.pool.planners.get? L.name).bind s.workspace.planner? =
        some p := by
      rw [hpool, Option.bind_some, hp]
    have hothers : ∀ e ∈ s.manager.cache.pool.storagePaths.entries,
        e = (L.name, L.path) ∨ L.apart e.2 := by
      intro ⟨name, path⟩ he
      have hget := (Table.get?_eq_some_iff _).mpr he
      by_cases hname : name = L.name
      · rw [hname, hpath] at hget
        cases hget
        exact .inl (by rw [hname])
      · exact .inr (hs.others name path hget hname)
    rw [← h.storage, ← hdata]
    have hkept : s.manager.cache.pool.storage.Keeps L.path L.vacant L.apart := h.storage ▸ hL
    exact PlannerPool.load_storeAll hkept ((Table.get?_eq_some_iff _).mp hpath) hothers hplanner hok

end Lineage

end MotionContexts.Manager
