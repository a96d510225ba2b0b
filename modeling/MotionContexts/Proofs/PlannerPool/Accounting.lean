/-
# The account of a shutdown

A shutdown goes through the registered names in ascending order and makes one attempt for each.
Over a memory that refuses at some PLACES and only there, nothing about it is left open: which
attempts are made, what each of them comes to, what the report says and what the memory holds
afterwards.  All of this is one equation (`storeAll_eq`).

Names may share a place, spelled in one way or in several.  Then the later name overwrites what the
earlier one stored, which is reported as stored all the same; the place holds the data of the
GREATEST name (`get?_settle`).  A second shutdown stores what is there already.

Main statement: `shutdown_accounted`, for every state of a pool.
-/
import MotionContexts.Proofs.PlannerPool.Retrying
import MotionContexts.Proofs.Storage

namespace MotionContexts

universe u

/-! ## 1. A memory that fails at some places -/

/-- A memory in which storing fails at some places, and whatever is spelled otherwise but names the
same place fails too; elsewhere it is a memory like any other. -/
structure Storage.FailsAt (s : Storage Blobs) (fails : Path → Bool)
    (failure : PlannerData → Path → DataError) : Prop where
  same : ∀ p q, p.same q = true → fails p = fails q
  store : ∀ d p m, s.store d p m =
    if fails p then (.error (failure d p), m) else memory.store d p m
  load : ∀ p m, s.load p m = memory.load p m

theorem Path.same_iff {p q : Path} : p.same q = true ↔ p.components = q.components :=
  decide_eq_true_iff

/-- A memory that refuses to store at the places of some paths. -/
theorem Storage.refusing_failsAt (stores : List Path) :
    (memory.refusing [] stores).FailsAt (fun p => stores.any p.same) fun _ _ => refusal where
  same := by
    intro p q hpq
    have hcomponents := Path.same_iff.mp hpq
    have hsame : p.same = q.same := by
      funext r
      rw [Path.same, Path.same, hcomponents]
    rw [hsame]
  store := fun _ _ _ => rfl
  load := fun _ _ => rfl

/-! ## 2. What the memory holds -/

namespace Blobs

/-- The memory after the entries were stored one after the other, but for those that fail. -/
def settle (fails : Path → Bool) (data : String → PlannerData) (l : List (String × Path))
    (m : Blobs) : Blobs :=
  l.foldl (fun m e => if fails e.2 then m else m.insert e.2.components (data e.1)) m

variable {fails : Path → Bool} {data : String → PlannerData}

/-- **A place holds what the LAST of the entries stored there**, or what it held before. -/
theorem get?_settle (k : List Path.Component) :
    ∀ (l : List (String × Path)) (m : Blobs), (settle fails data l m).get? k =
      ((l.findRev? fun e => !fails e.2 && e.2.components == k).map fun e => data e.1).or (m.get? k)
  | [], m => rfl
  | e :: l, m => by
    have ih := get?_settle k l (if fails e.2 then m else m.insert e.2.components (data e.1))
    refine ih.trans ?_
    rw [List.findRev?_eq_find?_reverse, List.findRev?_eq_find?_reverse, List.reverse_cons,
      List.find?_append]
    cases hl : l.reverse.find? fun e => !fails e.2 && e.2.components == k with
    | some d => rfl
    | none =>
      cases hfails : fails e.2 with
      | true => simp [hfails]
      | false =>
        by_cases hk : e.2.components = k
        · simp [hfails, hk]
        · have hk' : ¬ k = e.2.components := fun h => hk h.symm
          simp [hfails, hk, hk', KeyedList.get?_insert]

/-- A place that no entry stores at holds what it held before. -/
theorem get?_settle_of_elsewhere {k : List Path.Component} {l : List (String × Path)} (m : Blobs)
    (h : ∀ e ∈ l, e.2.components = k → fails e.2 = true) :
    (settle fails data l m).get? k = m.get? k := by
  have hnone : l.findRev? (fun e => !fails e.2 && e.2.components == k) = none := by
    rw [List.findRev?_eq_find?_reverse, List.find?_eq_none]
    intro e he hstored
    obtain ⟨hfails, hk⟩ : fails e.2 = false ∧ e.2.components = k := by simpa using hstored
    rw [h e (List.mem_reverse.mp he) hk] at hfails
    cases hfails
  rw [get?_settle, hnone]
  rfl

/-- **Of the names that share a place, the greatest one has its data there**, if the names come in
ascending order. -/
theorem get?_settle_of_mem {k : List Path.Component} {l : List (String × Path)}
    (hl : l.Pairwise fun a b => a.1 < b.1) (m : Blobs) {e : String × Path} (he : e ∈ l)
    (hk : e.2.components = k) (hfails : fails e.2 = false) :
    ∃ d ∈ l, d.2.components = k ∧ (∀ c ∈ l, c.2.components = k → fails c.2 = false → c.1 ≤ d.1) ∧
      (settle fails data l m).get? k = some (data d.1) := by
  have hrev := List.pairwise_reverse.mpr hl
  rw [get?_settle, List.findRev?_eq_find?_reverse]
  cases hd : l.reverse.find? fun e => !fails e.2 && e.2.components == k with
  | none =>
    have hno := List.find?_eq_none.mp hd e (List.mem_reverse.mpr he)
    simp [hk, hfails] at hno
  | some d =>
    obtain ⟨hstored, behind, before, hsplit, hbehind⟩ := List.find?_eq_some_iff_append.mp hd
    obtain ⟨-, hdk⟩ : fails d.2 = false ∧ d.2.components = k := by simpa using hstored
    rw [hsplit] at hrev
    refine ⟨d, ?_, hdk, fun c hc hck hcfails => ?_, rfl⟩
    · rw [← List.mem_reverse, hsplit]
      exact List.mem_append_right _ (List.mem_cons_self ..)
    · rw [← List.mem_reverse, hsplit] at hc
      rcases List.mem_append.mp hc with hc | hc
      · have hno := hbehind c hc
        simp [hck, hcfails] at hno
      · rcases List.mem_cons.mp hc with rfl | hc
        · exact String.le_refl _
        · have hlt := (List.pairwise_cons.mp (List.pairwise_append.mp hrev).2.1).1 c hc
          exact Std.le_of_lt hlt

/-- Storing where something is held brings in no new place. -/
theorem keys_settle :
    ∀ {l : List (String × Path)} {m : Blobs},
      (∀ e ∈ l, fails e.2 = false → e.2.components ∈ m.entries.map (·.1)) →
      (settle fails data l m).entries.map (·.1) = m.entries.map (·.1)
  | [], m, _ => rfl
  | e :: l, m, h => by
    have hfirst : (if fails e.2 then m else m.insert e.2.components (data e.1)).entries.map (·.1) =
        m.entries.map (·.1) := by
      cases hfails : fails e.2 with
      | true => rfl
      | false => exact (m.keys_insert _ _).trans (if_pos (h e (List.mem_cons_self ..) hfails))
    have hrest : (settle fails data (e :: l) m).entries.map (·.1) =
        (if fails e.2 then m else m.insert e.2.components (data e.1)).entries.map (·.1) := by
      refine keys_settle (l := l) fun d hd hfails => ?_
      rw [hfirst]
      exact h d (List.mem_cons_of_mem _ hd) hfails
    exact hrest.trans hfirst

/-- **Stored twice is stored once.** -/
theorem settle_settle (l : List (String × Path)) (m : Blobs) :
    settle fails data l (settle fails data l m) = settle fails data l m := by
  refine KeyedList.ext_get? (keys_settle fun e he hfails => ?_) fun k => ?_
  · -- the first time something is stored at every place that does not fail
    have hstored : ((settle fails data l m).get? e.2.components).isSome = true := by
      rw [get?_settle]
      cases hd : l.findRev? fun d => !fails d.2 && d.2.components == e.2.components with
      | some d => rfl
      | none =>
        rw [List.findRev?_eq_find?_reverse] at hd
        have hno := List.find?_eq_none.mp hd e (List.mem_reverse.mpr he)
        simp [hfails] at hno
    exact (Entries.find_isSome_iff _ _).mp hstored
  · rw [get?_settle, get?_settle]
    cases l.findRev? fun e => !fails e.2 && e.2.components == k <;> rfl

end Blobs

/-! ## 3. What a shutdown comes to -/

namespace Table

variable {α : Type u}

/-- The keys of the values that pass a test. -/
theorem mem_keys_filter_iff (t : Table α) (p : α → Bool) (k : String) :
    k ∈ (t.entries.filter fun e => p e.2).map (·.1) ↔ ∃ v, t.get? k = some v ∧ p v = true := by
  constructor
  · intro h
    obtain ⟨⟨_, v⟩, he, rfl⟩ := List.mem_map.mp h
    obtain ⟨hmem, hv⟩ := List.mem_filter.mp he
    exact ⟨v, t.get?_eq_some_iff.mpr hmem, hv⟩
  · rintro ⟨v, hget, hv⟩
    exact List.mem_map.mpr ⟨(k, v), List.mem_filter.mpr ⟨t.get?_eq_some_iff.mp hget, hv⟩, rfl⟩

/-- They are in ascending order, too. -/
theorem pairwise_keys_filter (t : Table α) (p : α → Bool) :
    ((t.entries.filter fun e => p e.2).map (·.1)).Pairwise (· < ·) :=
  List.pairwise_map.mpr (t.sorted.filter _)

end Table

namespace PlannerPool

variable {pool : PlannerPool Blobs} {fails : Path → Bool} {failure : PlannerData → Path → DataError}

/-- The data of the planner that is kept under the name; there is nothing in it if none is. -/
def dataOf {σ : Type u} (pool : PlannerPool σ) (w : Workspace σ) (name : String) : PlannerData :=
  (((pool.planners.get? name).bind w.planner?).map Planner.data).getD ⟨"", []⟩

/-- What is to be saved for an entry is the data of the planner under its name. -/
theorem dataOf_of_saveOf? {σ : Type u} {pool : PlannerPool σ} {w : Workspace σ} {e : String × Path}
    {s : Path × PlannerData} (h : pool.saveOf? w e = some s) : s = (e.2, pool.dataOf w e.1) := by
  obtain ⟨n, p, hn, hp, rfl⟩ := saveOf?_eq_some_iff.mp h
  rw [dataOf, hn, Option.bind_some, hp]
  rfl

/-- The call that attempts to store an entry. -/
def attempt (fails : Path → Bool) (failure : PlannerData → Path → DataError)
    (data : String → PlannerData) (e : String × Path) : Call :=
  .store e.2 (data e.1) (if fails e.2 then .error (failure (data e.1) e.2) else .ok ())

/-- What the report says of an entry that cannot be stored. -/
def complaint (failure : PlannerData → Path → DataError) (data : String → PlannerData)
    (e : String × Path) : String × ResolutionError :=
  (e.1, .storeFailed e.1 e.2 (failure (data e.1) e.2))

/-- The entries that cannot be stored, as the report has them. -/
theorem mem_complaints_iff (t : Table Path) (failure : PlannerData → Path → DataError)
    (data : String → PlannerData) (name : String) (e : ResolutionError) :
    (name, e) ∈ (t.entries.filter fun e => fails e.2).map (complaint failure data) ↔
      ∃ path, t.get? name = some path ∧ fails path = true ∧
        e = .storeFailed name path (failure (data name) path) := by
  constructor
  · intro h
    obtain ⟨⟨_, path⟩, he, hcomplaint⟩ := List.mem_map.mp h
    obtain ⟨hmem, hfails⟩ := List.mem_filter.mp he
    cases hcomplaint
    exact ⟨path, t.get?_eq_some_iff.mpr hmem, hfails, rfl⟩
  · rintro ⟨path, hget, hfails, rfl⟩
    have hmem := t.get?_eq_some_iff.mp hget
    exact List.mem_map.mpr ⟨(name, path), List.mem_filter.mpr ⟨hmem, hfails⟩, rfl⟩

/-- Their names. -/
theorem map_fst_complaints (l : List (String × Path)) (failure : PlannerData → Path → DataError)
    (data : String → PlannerData) :
    (l.map (complaint failure data)).map (·.1) = l.map (·.1) := by
  rw [List.map_map]
  rfl

/-- One planner is stored, or refused. -/
theorem storeOne_eq (hs : pool.storage.FailsAt fails failure) {name : String} {path : Path}
    {d : PlannerData} {w : Workspace Blobs}
    (h : pool.saveOf? w (name, path) = some (path, d)) :
    pool.storeOne name path w =
      if fails path then
        (.error (.storeFailed name path (failure d path)),
          w.record (.store path d (.error (failure d path))))
      else (.ok (), { w with contents := w.contents.insert path.components d }.record
        (.store path d (.ok ()))) := by
  obtain ⟨n, p, hn, hp, hd⟩ := saveOf?_eq_some_iff.mp h
  cases hd
  have hstore := hs.store p.data path w.contents
  unfold storeOne
  rw [hn, Option.bind_some, hp]
  dsimp only
  rw [Workspace.store, hstore]
  cases fails path <;> rfl

/-- **What a shutdown comes to**: one attempt for every entry, in order; an entry is reported and
stored, or reported and refused, by its place. -/
theorem storeAll_eq (hs : pool.storage.FailsAt fails failure) {data : String → PlannerData} :
    ∀ (l : List (String × Path)) (report : FlushReport) (w : Workspace Blobs),
      (∀ e ∈ l, pool.saveOf? w e = some (e.2, data e.1)) →
      pool.storeAll l report w =
        ({ stored := report.stored ++ (l.filter fun e => !fails e.2).map (·.1)
           failed := report.failed ++ (l.filter fun e => fails e.2).map (complaint failure data) },
          { w with
            contents := w.contents.settle fails data l
            calls := w.calls ++ l.map (attempt fails failure data) })
  | [], report, w, _ => by simp [storeAll, Blobs.settle]
  | (name, path) :: l, report, w, h => by
    have hone := storeOne_eq hs (h _ (List.mem_cons_self ..))
    have hcongr := pool.saveOf?_congr (pool.saved_storeOne name path w)
    rw [storeAll_note, storeAll_eq hs l _ _ fun e he => by
      rw [hcongr]
      exact h e (List.mem_cons_of_mem _ he)]
    rw [hone]
    cases hfails : fails path <;>
      simp [FlushReport.note, Workspace.record, Blobs.settle, attempt, complaint, hfails]

namespace Session

/-- In a sound state there is something to be saved for every registered name. -/
theorem saveOf?_of_sound {σ : Type u} {s : Session σ} (hs : s.Sound) {e : String × Path}
    (he : e ∈ s.pool.storagePaths.entries) :
    ∃ n p, s.Registered e.1 e.2 n ∧ s.workspace.planner? n = some p ∧
      s.pool.dataOf s.workspace e.1 = p.data ∧
      s.pool.saveOf? s.workspace e = some (e.2, s.pool.dataOf s.workspace e.1) := by
  have hpath := (Table.get?_eq_some_iff _).mpr he
  cases hn : s.pool.planners.get? e.1 with
  | none =>
    rw [hs.kept e.1 hn] at hpath
    cases hpath
  | some n =>
    obtain ⟨p, hp⟩ := Workspace.planner?_eq_some_of_lt (hs.enrolled e.1 n hn)
    have hsave : s.pool.saveOf? s.workspace e = some (e.2, p.data) :=
      saveOf?_eq_some_iff.mpr ⟨n, p, hn, hp, rfl⟩
    have hdata : p.data = s.pool.dataOf s.workspace e.1 :=
      congrArg Prod.snd (dataOf_of_saveOf? hsave)
    exact ⟨n, p, ⟨hn, hpath⟩, hp, hdata.symm, hdata ▸ hsave⟩

/-- What a shutdown comes to in a sound state. -/
theorem shutdown_eq {s : Session Blobs} (hsound : s.Sound)
    (hs : s.pool.storage.FailsAt fails failure) :
    let entries := s.pool.storagePaths.entries
    let data := s.pool.dataOf s.workspace
    s.pool.shutdown s.workspace =
      ({ stored := (entries.filter fun e => !fails e.2).map (·.1)
         failed := (entries.filter fun e => fails e.2).map (complaint failure data) },
        { s.pool with flushed := true },
        { s.workspace with
          contents := s.workspace.contents.settle fails data entries
          calls := s.workspace.calls ++ entries.map (attempt fails failure data) }) := by
  intro entries data
  have hsaves : ∀ e ∈ entries, s.pool.saveOf? s.workspace e = some (e.2, data e.1) := by
    intro e he
    obtain ⟨-, -, -, -, -, hsave⟩ := saveOf?_of_sound hsound he
    exact hsave
  unfold shutdown
  rw [storeAll_eq hs entries {} s.workspace hsaves]
  rfl

/-! ## 4. The theorem -/

/-- **The account of a shutdown.**  Behind any run of a pool over a memory that fails at some places,
whatever the memory holds by then, a shutdown ends with a report, and:

1. every registered name has a planner, and `data` is what this planner has now;
2. one attempt is made for each registered name, in ascending order, at its path and with its data,
   and nothing else is asked for;
3. the names that are reported as stored are those with a path that does not fail, in ascending
   order, and the names that are reported as failed are the others, in ascending order too, each
   with its path and the failure; so no name is reported twice and none is left out;
4. a place that does not fail and that is registered holds the data of the greatest name registered
   there, whichever spelling of the place it has; every other place holds what it held before;
5. the pool keeps its planners and paths, and no planner has changed;
6. another shutdown reports the same and leaves the same memory. -/
theorem shutdown_accounted {storage : Storage Blobs} (hs : storage.FailsAt fails failure)
    (w₀ : Workspace Blobs) (ops : List Operation) (contents : Blobs) :
    let s := (new storage w₀).run ops
    let w : Workspace Blobs := { s.workspace with contents := contents }
    let registered := s.pool.storagePaths
    let data := s.pool.dataOf w
    ∃ report pool' w', s.pool.shutdown w = (report, pool', w') ∧
      (∀ name path, registered.get? name = some path → ∃ n p, s.Registered name path n ∧
        w.planner? n = some p ∧ data name = p.data) ∧
      w'.calls = w.calls ++ registered.entries.map (attempt fails failure data) ∧
      registered.keys.Pairwise (· < ·) ∧
      report.stored.Pairwise (· < ·) ∧ (report.failed.map (·.1)).Pairwise (· < ·) ∧
      (∀ name, name ∈ report.stored ↔
        ∃ path, registered.get? name = some path ∧ fails path = false) ∧
      (∀ name e, (name, e) ∈ report.failed ↔
        ∃ path, registered.get? name = some path ∧ fails path = true ∧
          e = .storeFailed name path (failure (data name) path)) ∧
      (∀ name, ¬ (name ∈ report.stored ∧ name ∈ report.failed.map (·.1))) ∧
      (∀ name, name ∈ report.stored ∨ name ∈ report.failed.map (·.1) ↔ name ∈ registered.keys) ∧
      (∀ p, fails p = false →
        (∃ name path, registered.get? name = some path ∧ p.same path = true) →
        ∃ name path, registered.get? name = some path ∧ p.same path = true ∧
          (∀ name' path', registered.get? name' = some path' → p.same path' = true →
            name' ≤ name) ∧
          w'.contents.load p = .ok (data name)) ∧
      (∀ p, (fails p = true ∨
          ∀ name path, registered.get? name = some path → p.same path = false) →
        w'.contents.load p = w.contents.load p) ∧
      pool' = { s.pool with flushed := true } ∧ w'.planners = w.planners ∧
      ∃ w'', pool'.shutdown w' = (report, pool', w'') ∧ w''.contents = w'.contents := by
  intro s w registered data
  have hsound : (⟨s.pool, w⟩ : Session Blobs).Sound :=
    ((Sound.new storage w₀).run ops).over contents
  have hstorage : s.pool.storage.FailsAt fails failure := by
    rw [show s.pool.storage = storage from storage_run (new storage w₀) ops]
    exact hs
  have hshutdown := shutdown_eq hsound hstorage
  refine ⟨_, _, _, hshutdown, ?planners, rfl, registered.keys_pairwise,
    registered.pairwise_keys_filter fun path => !fails path, ?failedOrder, ?stored,
    mem_complaints_iff registered failure data, ?apart, ?complete, ?held, ?elsewhere, rfl, rfl,
    ?again⟩
  case planners =>
    intro name path hpath
    obtain ⟨n, p, hn, hp, hdata, -⟩ := saveOf?_of_sound hsound (registered.get?_eq_some_iff.mp hpath)
    exact ⟨n, p, hn, hp, hdata⟩
  case failedOrder =>
    rw [map_fst_complaints]
    exact registered.pairwise_keys_filter fails
  case stored =>
    intro name
    rw [registered.mem_keys_filter_iff (fun path => !fails path)]
    simp
  case apart =>
    rintro name ⟨hstored, hfailed⟩
    rw [map_fst_complaints, registered.mem_keys_filter_iff fails] at hfailed
    rw [registered.mem_keys_filter_iff (fun path => !fails path)] at hstored
    obtain ⟨path, hpath, hok⟩ := hstored
    obtain ⟨path', hpath', hfails⟩ := hfailed
    rw [hpath] at hpath'
    cases hpath'
    rw [hfails] at hok
    cases hok
  case complete =>
    intro name
    rw [map_fst_complaints, registered.mem_keys_filter_iff fails,
      registered.mem_keys_filter_iff (fun path => !fails path), ← registered.contains_iff_mem_keys,
      Table.contains]
    cases hpath : registered.get? name with
    | none => simp
    | some path => cases hfails : fails path <;> simp [hfails]
  case held =>
    rintro p hp ⟨name, path, hpath, hsame⟩
    have hcomponents := Path.same_iff.mp hsame
    have hfails : fails path = false := (hs.same p path hsame).symm.trans hp
    obtain ⟨d, hd, hdk, hgreatest, hholds⟩ := Blobs.get?_settle_of_mem registered.sorted contents
      (registered.get?_eq_some_iff.mp hpath) hcomponents.symm hfails
    refine ⟨d.1, d.2, registered.get?_eq_some_iff.mpr hd, Path.same_iff.mpr hdk.symm, ?_,
      Storage.load_memory_eq_ok_iff.mpr hholds⟩
    intro name' path' hpath' hsame'
    exact hgreatest (name', path') (registered.get?_eq_some_iff.mp hpath')
      (Path.same_iff.mp hsame').symm ((hs.same p path' hsame').symm.trans hp)
  case elsewhere =>
    intro p hp
    have hheld : (contents.settle fails data registered.entries).get? p.components =
        contents.get? p.components := by
      refine Blobs.get?_settle_of_elsewhere contents fun e he hk => ?_
      have hsame : p.same e.2 = true := Path.same_iff.mpr hk.symm
      rcases hp with hp | hp
      · rw [← hs.same p e.2 hsame, hp]
      · rw [hp e.1 e.2 (registered.get?_eq_some_iff.mpr he)] at hsame
        cases hsame
    show Blobs.load p (contents.settle fails data registered.entries) = Blobs.load p contents
    rw [Blobs.load, hheld, Blobs.load]
  case again =>
    -- the planners are the same, and so is what is to be saved
    refine ⟨_, shutdown_eq (s := ⟨_, _⟩) ⟨hsound.kept, hsound.enrolled⟩ hstorage, ?_⟩
    exact Blobs.settle_settle registered.entries contents

open Sample in
/-- Two planners are registered at one place in two spellings, and a third where storing fails. -/
def crowdedRun : List Operation :=
  [.allocate roadmaps ⟨"JointModel", "leg"⟩ "leg" (keptAt "limbs/graph"), .explore 0 [2],
    .allocate roadmaps ⟨"JointModel", "arm"⟩ "arm" (keptAt "limbs//graph/"), .explore 1 [5],
    .allocate roadmaps ⟨"JointModel", "hand"⟩ "hand" (keptAt "hand.graph")]

/-- Both names at the one place are reported as stored, and it holds the data of the greater one. -/
theorem shutdown_accounted_crowdedRun :
    let storage := Storage.memory.refusing [] [⟨"./hand.graph"⟩, ⟨"hand.graph/"⟩]
    let s := (new storage { contents := ∅ }).run crowdedRun
    storage.FailsAt (fun p => [⟨"./hand.graph"⟩, ⟨"hand.graph/"⟩].any p.same)
        (fun _ _ => Storage.refusal) ∧
      ∃ report pool' w', s.pool.shutdown s.workspace = (report, pool', w') ∧
        report.stored = ["arm", "leg"] ∧
        ("hand", .storeFailed "hand" ⟨"hand.graph"⟩ Storage.refusal) ∈ report.failed ∧
        w'.contents.load ⟨"limbs/./graph"⟩ = .ok ⟨"roadmap", [2]⟩ ∧
        ∃ w'', pool'.shutdown w' = (report, pool', w'') ∧ w''.contents = w'.contents := by
  intro storage s
  have hs := Storage.refusing_failsAt [⟨"./hand.graph"⟩, ⟨"hand.graph/"⟩]
  refine ⟨hs, ?_⟩
  obtain ⟨report, pool', w', h, -, -, -, -, -, -, hfailed, -, -, hheld, -, -, -, hagain⟩ :=
    shutdown_accounted hs { contents := ∅ } crowdedRun ∅
  refine ⟨report, pool', w', h, ?stored, (hfailed _ _).mpr ⟨_, rfl, by decide, rfl⟩, ?held, hagain⟩
  case stored =>
    cases h
    rfl
  case held =>
    obtain ⟨name, path, hpath, hsame, hgreatest, hload⟩ :=
      hheld ⟨"limbs/./graph"⟩ (by decide) ⟨"arm", _, rfl, by decide⟩
    have hleg : "leg" ≤ name := hgreatest "leg" _ rfl (by decide)
    have hmem : (name, path) ∈ [("arm", (⟨"limbs//graph/"⟩ : Path)), ("hand", ⟨"hand.graph"⟩),
      ("leg", ⟨"limbs/graph"⟩)] := (Table.get?_eq_some_iff _).mp hpath
    simp only [List.mem_cons, Prod.mk.injEq, List.not_mem_nil, or_false] at hmem
    rcases hmem with ⟨rfl, -⟩ | ⟨-, rfl⟩ | ⟨rfl, -⟩
    · exact absurd hleg (by decide)
    · exact absurd hsame (by decide)
    · exact hload

end Session

end PlannerPool

end MotionContexts
