/-
# Starting from what was stored

Two ends of a planner's life meet at a path.  A planner that wants to start from the data there has
exactly this data at first, or an empty graph where the path is vacant.  And a flush of its pool
leaves at the path exactly the data that it has then, provided that no other registered path names
the same place and that the store at this path did not fail.

Main statements:
* `data_construct`, what a planner starts with;
* `load_storeAll`, what a flush leaves at a path.
-/
import MotionContexts.Proofs.Planner
import MotionContexts.Proofs.PlannerPool.Allocation
import MotionContexts.Proofs.PlannerPool.Flush
import MotionContexts.Proofs.Storage

namespace MotionContexts

universe u

variable {σ : Type u}

/-! ## 1. The beginning -/

/-- Planners of the family mark their data with the type.  A fresh one has an empty graph, and from
data of the type there is one that has this data. -/
structure PlannerFamily.Resumes (f : PlannerFamily) (type : String) : Prop where
  plannerType : f.plannerType = type
  fresh : ∀ space, (f.allocate space).data = ⟨type, []⟩
  resumed : ∀ space data, data.plannerType = type →
    ∃ p, f.allocateWithData space data = .ok p ∧ p.data = data

/-- What a planner of the type can start with: the graph that is stored at the path, or the empty
one if the path is vacant. -/
def Storage.Offers (s : Storage σ) (vacant : σ → Prop) (path : Path) (type : String)
    (graph : List UInt8) (c : σ) : Prop :=
  vacant c ∧ graph = [] ∨ s.load path c = .ok ⟨type, graph⟩

/-- What is offered stays on offer, whatever is stored elsewhere. -/
theorem Storage.Offers.store {s : Storage σ} {vacant : σ → Prop} {apart : Path → Prop}
    {path : Path} {type : String} {graph : List UInt8} {c : σ} (hs : s.Keeps path vacant apart)
    (h : s.Offers vacant path type graph c) {q : Path} (hq : apart q) (d : PlannerData) :
    s.Offers vacant path type graph (s.store d q c).2 := by
  rcases h with ⟨hvacant, hgraph⟩ | hload
  · exact .inl ⟨hs.vacant_store d hq hvacant, hgraph⟩
  · exact .inr (hs.load_store_of_apart d hq hload)

namespace PlannerPool

theorem seed?_of_load_error {s : Storage σ} {path : Path} {w : Workspace σ} {e : DataError}
    (h : s.load path w.contents = .error e) (family : PlannerFamily) (space : Space) :
    (seed? s family space path w).1 = none := by
  unfold seed? Workspace.load
  rw [h]

theorem seed?_of_load_ok {s : Storage σ} {path : Path} {w : Workspace σ} {d : PlannerData}
    (h : s.load path w.contents = .ok d) {family : PlannerFamily} {space : Space} {p : Planner}
    (htype : d.plannerType = family.plannerType) (hp : family.allocateWithData space d = .ok p) :
    (seed? s family space path w).1 = some p := by
  have hd := (d.ensureType_eq_ok_iff family.plannerType).mpr htype
  unfold seed? Workspace.load
  rw [h]
  dsimp only
  rw [hd]
  dsimp only
  rw [hp]

theorem construct_fst (s : Storage σ) (family : PlannerFamily) (space : Space) (path : Path)
    (w : Workspace σ) :
    (construct s family space (some path) w).1 =
      ((seed? s family space path w).1).getD (family.allocate space) := by
  unfold construct
  dsimp only
  split <;> rename_i h <;> rw [h] <;> rfl

/-- **What a planner starts with** is what is on offer. -/
theorem data_construct {s : Storage σ} {vacant : σ → Prop} {apart : Path → Prop} {path : Path}
    {type : String} {graph : List UInt8} {w : Workspace σ} {family : PlannerFamily}
    (hs : s.Keeps path vacant apart) (hf : family.Resumes type)
    (h : s.Offers vacant path type graph w.contents) (space : Space) :
    (construct s family space (some path) w).1.data = ⟨type, graph⟩ := by
  rw [construct_fst]
  rcases h with ⟨hvacant, rfl⟩ | hload
  · obtain ⟨e, he⟩ := hs.load_of_vacant hvacant
    rw [seed?_of_load_error he]
    exact hf.fresh space
  · obtain ⟨p, hp, hdata⟩ := hf.resumed space ⟨type, graph⟩ rfl
    rw [seed?_of_load_ok hload hf.plannerType.symm hp]
    exact hdata

end PlannerPool

/-! ## 2. What the options want -/

namespace Retention

/-- The options want the planner kept, started from the data at the path, and its data stored
there. -/
structure Wants (options : Table String) (path : Path) : Prop where
  multiQuery : (options.get? multiQueryKey).bind flag? = some true
  load : (options.get? loadKey).bind flag? = some true
  store : (options.get? storeKey).bind flag? = some true
  path : pathOf? (options.get? pathKey) = some path

/-- What is wanted is what is read. -/
theorem Wants.extract {options : Table String} {path : Path} (h : Wants options path) :
    ∃ rest, extract options = (.ok ⟨true, true, true, some path⟩, rest) := by
  have hflag : ∀ {key : String}, (options.get? key).bind flag? = some true →
      readFlag key options = .ok true := fun hkey =>
    readFlag_eq_ok_iff.mpr (.inr (Option.bind_eq_some_iff.mp hkey))
  have hread : ∀ key ∈ flagKeys, readFlag key options = .ok true :=
    forall_mem_flagKeys.mpr ⟨hflag h.multiQuery, hflag h.load, hflag h.store⟩
  obtain ⟨r, rest, hout⟩ := (exists_extract_ok_iff options).mpr fun key hkey =>
    ⟨true, hread key hkey⟩
  cases extracts_of_eq hout with
  | read hm hl hs =>
    rw [hread _ (by decide)] at hm hl hs
    cases hm
    cases hl
    cases hs
    exact ⟨_, by rw [hout, h.path]⟩

/-- The wish is read off the four options. -/
theorem Wants.congr {options rest : Table String} {path : Path} (h : Wants options path)
    (hrest : ∀ key ∈ keys, rest.get? key = options.get? key) : Wants rest path where
  multiQuery := by rw [hrest _ (by decide)]; exact h.multiQuery
  load := by rw [hrest _ (by decide)]; exact h.load
  store := by rw [hrest _ (by decide)]; exact h.store
  path := by rw [hrest _ (by decide)]; exact h.path

end Retention

namespace PlannerPool

/-- **Where the options want it all**, an allocation hands out the planner that is kept, or makes the
first one of the name from what is at the path, and registers it for the path. -/
theorem Allocates.of_wants {pool pool' : PlannerPool σ} {family : PlannerFamily} {space : Space}
    {name : String} {config : Table String} {path : Path} {w w' : Workspace σ} {n : Nat}
    (h : Allocates pool family space name config w (.ok n) pool' w')
    (hwants : Retention.Wants config path) :
    (pool.planners.get? name = some n ∧ pool' = pool ∧ w' = w) ∨
      (pool.planners.get? name = none ∧ pool' = pool.keep name n (some path) ∧
        ∃ p, w.Enrolls w' n p ∧
          p.data = (construct pool.storage family space (some path) w).1.data) := by
  obtain ⟨rest, hextract⟩ := hwants.extract
  cases h with
  | single hx hr =>
    rw [hextract] at hx
    cases hx
    cases hr
  | kept hx hr hn => exact .inl ⟨hn, rfl, rfl⟩
  | first hx hr hn =>
    rw [hextract] at hx
    cases hx
    exact .inr ⟨hn, rfl, _, build_enrolls .., Planner.data_prepare ..⟩

/-- An allocation for one name does nothing to another, and stores nothing. -/
structure Elsewhere (name : String) (pool pool' : PlannerPool σ) (w w' : Workspace σ) : Prop where
  storage : pool'.storage = pool.storage
  planners : pool'.planners.get? name = pool.planners.get? name
  storagePaths : pool'.storagePaths.get? name = pool.storagePaths.get? name
  contents : w'.contents = w.contents
  planner : ∀ i q, w.planner? i = some q → w'.planner? i = some q

theorem Allocates.elsewhere {pool pool' : PlannerPool σ} {family : PlannerFamily} {space : Space}
    {name other : String} {config : Table String} {w w' : Workspace σ} {n : Nat}
    (h : Allocates pool family space other config w (.ok n) pool' w') (hne : name ≠ other) :
    Elsewhere name pool pool' w w' := by
  cases h with
  | @single r options hx hr =>
    have hb := build_enrolls pool.storage family space other options none w
    exact ⟨rfl, rfl, rfl, hb.contents, fun i q hq => hb.planner?_of_some hq⟩
  | kept hx hr hn => exact ⟨rfl, rfl, rfl, rfl, fun i q hq => hq⟩
  | @first r options hx hr hn =>
    have hb := build_enrolls pool.storage family space other options r.loadFrom w
    refine ⟨storage_keep .., ?_, ?_, hb.contents, fun i q hq => hb.planner?_of_some hq⟩
    · rw [planners_keep, Table.get?_insert, if_neg hne]
    · rw [storagePaths_keep, if_neg hne]

end PlannerPool

/-! ## 3. The end -/

/-- Whether the call is a store at the path that failed. -/
def Call.failsAt (path : Path) : Call → Bool
  | .store q _ (.error _) => q == path
  | _ => false

/-- No store at the path is on record as failed. -/
def Workspace.NoFailureAt (w : Workspace σ) (path : Path) : Prop :=
  ∀ c ∈ w.calls, c.failsAt path = false

instance (w : Workspace σ) (path : Path) : Decidable (w.NoFailureAt path) :=
  inferInstanceAs (Decidable (∀ c ∈ w.calls, c.failsAt path = false))

namespace PlannerPool

variable {pool : PlannerPool σ}

/-- What every store at a path preserves is there after a store of one planner at the path. -/
theorem contents_storeOne {P : σ → Prop} {name : String} {path : Path} {w : Workspace σ}
    (hP : ∀ c d, P c → P (pool.storage.store d path c).2) (h : P w.contents) :
    P (pool.storeOne name path w).2.contents := by
  unfold storeOne
  split
  · exact h
  · rename_i p hp
    have hstored : P (w.store pool.storage p.data path).2.contents := hP w.contents p.data h
    split <;> rename_i hs <;> rw [hs] at hstored <;> exact hstored

/-- The first planner is stored, and then the others. -/
theorem storeAll_cons (pool : PlannerPool σ) (name : String) (path : Path)
    (rest : List (String × Path)) (report : FlushReport) (w : Workspace σ) :
    ∃ report', pool.storeAll ((name, path) :: rest) report w =
      pool.storeAll rest report' (pool.storeOne name path w).2 := by
  rw [storeAll]
  split <;> rename_i h <;> rw [h] <;> exact ⟨_, rfl⟩

/-- What every store at one of the paths preserves is there after all of them. -/
theorem contents_storeAll {P : σ → Prop} {l : List (String × Path)} {report : FlushReport}
    {w : Workspace σ} (hP : ∀ e ∈ l, ∀ c d, P c → P (pool.storage.store d e.2 c).2)
    (h : P w.contents) : P (pool.storeAll l report w).2.contents := by
  induction l generalizing report w with
  | nil => exact h
  | cons e rest ih =>
    obtain ⟨name, path⟩ := e
    obtain ⟨report', hunfold⟩ := pool.storeAll_cons name path rest report w
    have hone : P (pool.storeOne name path w).2.contents :=
      contents_storeOne (hP _ (List.mem_cons_self ..)) h
    rw [hunfold]
    exact ih (fun e he => hP e (List.mem_cons_of_mem _ he)) hone

/-- What every store of another planner preserves is there after one was forgotten. -/
theorem contents_invalidate {P : σ → Prop} {name : String} {w : Workspace σ}
    (hP : ∀ path, pool.storagePaths.get? name = some path →
      ∀ c d, P c → P (pool.storage.store d path c).2)
    (h : P w.contents) : P (pool.invalidate name w).2.2.contents := by
  unfold invalidate
  dsimp only
  split
  · rename_i path hpath
    exact contents_storeOne (hP path hpath) h
  · exact h

/-- A planner that is stored without failure can be loaded. -/
theorem load_storeOne {vacant : σ → Prop} {apart : Path → Prop} {name : String} {path : Path}
    {w : Workspace σ} {p : Planner} (hs : pool.storage.Keeps path vacant apart)
    (hp : (pool.planners.get? name).bind w.planner? = some p)
    (hok : (pool.storeOne name path w).2.NoFailureAt path) :
    pool.storage.load path (pool.storeOne name path w).2.contents = .ok p.data := by
  have hcall : .store path p.data (pool.storage.store p.data path w.contents).1 ∈
      (w.store pool.storage p.data path).2.calls := List.mem_append_right _ (List.mem_singleton.mpr rfl)
  have hload : (pool.storage.store p.data path w.contents).1 = .ok () →
      pool.storage.load path (w.store pool.storage p.data path).2.contents = .ok p.data :=
    hs.load_store
  have houtcome : (w.store pool.storage p.data path).1 =
    (pool.storage.store p.data path w.contents).1 := rfl
  unfold storeOne at hok ⊢
  rw [hp] at hok ⊢
  dsimp only at hok ⊢
  rw [← houtcome] at hcall hload
  rcases hw : w.store pool.storage p.data path with ⟨outcome, w'⟩
  rw [hw] at hcall hload hok
  cases outcome with
  | ok u => exact hload rfl
  | error e =>
    have hfails := hok _ hcall
    simp [Call.failsAt] at hfails

/-- **What a flush leaves at a path** is the data of the planner that is registered there, if the
other paths are apart from it and no store at it failed. -/
theorem load_storeAll {vacant : σ → Prop} {apart : Path → Prop} {name : String} {path : Path}
    {p : Planner} (hs : pool.storage.Keeps path vacant apart) {l : List (String × Path)}
    {report : FlushReport} {w : Workspace σ} (hmem : (name, path) ∈ l)
    (hothers : ∀ e ∈ l, e = (name, path) ∨ apart e.2)
    (hp : (pool.planners.get? name).bind w.planner? = some p)
    (hok : (pool.storeAll l report w).2.NoFailureAt path) :
    pool.storage.load path (pool.storeAll l report w).2.contents = .ok p.data := by
  induction l generalizing report w with
  | nil => cases hmem
  | cons e rest ih =>
    obtain ⟨k, q⟩ := e
    have hone := pool.saved_storeOne k q w
    have hplanner : w.planner? = (pool.storeOne k q w).2.planner? := funext fun n =>
      (hone.planner? n).symm
    have hrest : ∀ e ∈ rest, e = (name, path) ∨ apart e.2 := fun e he =>
      hothers e (List.mem_cons_of_mem _ he)
    obtain ⟨report', hunfold⟩ := pool.storeAll_cons k q rest report w
    rw [hplanner] at hp
    rw [hunfold] at hok ⊢
    by_cases hin : (name, path) ∈ rest
    · exact ih hin hrest hp hok
    · -- the planner is stored now, and what is stored behind it is stored elsewhere
      obtain ⟨rfl, rfl⟩ : name = k ∧ path = q := by simpa [hin] using hmem
      have hlater := (pool.saved_storeAll rest report' (pool.storeOne name path w).2).calls
      obtain ⟨made, hcalls, -⟩ := hlater
      have hfirst : (pool.storeOne name path w).2.NoFailureAt path := fun c hmem =>
        hok c (hcalls ▸ List.mem_append_left _ hmem)
      rw [← hplanner] at hp
      refine contents_storeAll (P := fun c => pool.storage.load path c = .ok p.data) ?_
        (load_storeOne hs hp hfirst)
      intro e he c d hc
      rcases hrest e he with rfl | hapart
      · exact absurd he hin
      · exact hs.load_store_of_apart d hapart hc

/-! ## 4. What is pending -/

/-- Whatever is registered waits for the next flush. -/
def Pending (pool : PlannerPool σ) : Prop :=
  ∀ name path, pool.storagePaths.get? name = some path → pool.flushed = false

theorem Allocates.pending {pool' : PlannerPool σ} {family : PlannerFamily} {space : Space}
    {name : String} {config : Table String} {w w' : Workspace σ} {n : Nat}
    (h : Allocates pool family space name config w (.ok n) pool' w') (hp : pool.Pending) :
    pool'.Pending := by
  cases h with
  | single hx hr => exact hp
  | kept hx hr hn => exact hp
  | @first r options hx hr hn =>
    intro other path hpath
    rw [storagePaths_keep] at hpath
    rw [flushed_keep]
    cases hstore : r.storeTo with
    | some q => rfl
    | none =>
      rw [hstore, Option.none_or, ite_self] at hpath
      exact hp other path hpath

theorem Pending.invalidate (hp : pool.Pending) (name : String) (w : Workspace σ) :
    (pool.invalidate name w).2.1.Pending := by
  intro other path hpath
  have herase : (pool.storagePaths.erase name).get? other = some path := hpath
  rw [Table.get?_erase] at herase
  split at herase
  · cases herase
  · exact hp other path herase

end PlannerPool

end MotionContexts
