/-
# When a store is tried again at the end

A shutdown that could not store everything sets the flag of the pool all the same: the flag says
that every registered planner was ATTEMPTED, and not that its data is stored.  The end of the pool
goes by the flag.  So it is not the outcome of the last attempt for a name that decides whether the
end attempts the name again, but whether anybody was registered since: one new registration brings
all names back, those that were stored and those that were not.

`FlushReport.outcome?` and `attempt?` say what became of a name in a shutdown or as it was
forgotten; a shutdown reports on every registered name, and reports what the storage answered
(`outcome?_shutdown`).  The flag is followed through a run by the last registration
(`registers_of_unflushed`) and by the shutdown that has to come behind it (`shutdown_of_flushed`).

Main statement: `Retries.run`, in every run of a new pool the end attempts a name again exactly if
some planner was registered since the last attempt.
-/
import MotionContexts.Proofs.PlannerPool.Saving

namespace MotionContexts

universe u

/-! ## 1. What a shutdown reports -/

namespace FlushReport

/-- What the report says about the name. -/
def outcome? (r : FlushReport) (name : String) : Option (Except ResolutionError Unit) :=
  match Entries.find name r.failed with
  | some e => some (.error e)
  | none => if name ∈ r.stored then some (.ok ()) else none

/-- The report with what became of one more name. -/
def note (r : FlushReport) (name : String) : Except ResolutionError Unit → FlushReport
  | .ok _ => { r with stored := r.stored ++ [name] }
  | .error e => { r with failed := r.failed ++ [(name, e)] }

/-- A name that nothing was said about gets what became of it. -/
theorem outcome?_note_self {r : FlushReport} {name : String} (h : r.outcome? name = none)
    (x : Except ResolutionError Unit) : (r.note name x).outcome? name = some x := by
  have hfailed : Entries.find name r.failed = none := by
    unfold outcome? at h
    split at h
    · cases h
    · assumption
  unfold outcome?
  cases x with
  | ok _ =>
    rw [note, hfailed]
    exact if_pos (List.mem_append_right _ (List.mem_singleton_self name))
  | error e => rw [note, Entries.find_concat, hfailed, Option.none_or, if_pos rfl]

/-- Nothing changes for another name. -/
theorem outcome?_note_of_ne {r : FlushReport} {name other : String} (h : other ≠ name)
    (x : Except ResolutionError Unit) : (r.note name x).outcome? other = r.outcome? other := by
  unfold outcome?
  cases x with
  | ok _ => simp only [note, List.mem_append, List.mem_singleton, h, or_false]
  | error e => rw [note, Entries.find_concat, if_neg h, Option.or_none]

end FlushReport

namespace PlannerPool

variable {σ : Type u}

/-- The first name is stored and noted, and then the others. -/
theorem storeAll_note (pool : PlannerPool σ) (name : String) (path : Path)
    (rest : List (String × Path)) (report : FlushReport) (w : Workspace σ) :
    pool.storeAll ((name, path) :: rest) report w =
      pool.storeAll rest (report.note name (pool.storeOne name path w).1)
        (pool.storeOne name path w).2 := by
  rw [storeAll]
  split <;> rename_i h <;> rw [h] <;> rfl

/-- A shutdown says nothing about names that it does not go through. -/
theorem outcome?_storeAll_of_not_mem (pool : PlannerPool σ) {name : String} :
    ∀ {l : List (String × Path)} (report : FlushReport) (w : Workspace σ), name ∉ l.map (·.1) →
      (pool.storeAll l report w).1.outcome? name = report.outcome? name
  | [], _, _, _ => rfl
  | (other, path) :: rest, report, w, h => by
    rw [List.map_cons, List.mem_cons, not_or] at h
    rw [storeAll_note, outcome?_storeAll_of_not_mem pool _ _ h.2,
      FlushReport.outcome?_note_of_ne h.1]

/-- What it says about a name is what became of it as its turn came. -/
theorem outcome?_storeAll (pool : PlannerPool σ) {name : String} {path : Path}
    {behind : List (String × Path)} (hbehind : name ∉ behind.map (·.1)) :
    ∀ (before : List (String × Path)) (report : FlushReport) (w : Workspace σ),
      name ∉ before.map (·.1) → report.outcome? name = none →
      (pool.storeAll (before ++ (name, path) :: behind) report w).1.outcome? name =
        some (pool.storeOne name path (pool.storeAll before report w).2).1
  | [], report, w, _, hnone => by
    rw [List.nil_append, storeAll_note, outcome?_storeAll_of_not_mem pool _ _ hbehind,
      FlushReport.outcome?_note_self hnone]
    rfl
  | (other, q) :: before, report, w, h, hnone => by
    rw [List.map_cons, List.mem_cons, not_or] at h
    rw [List.cons_append, storeAll_note, storeAll_note]
    refine outcome?_storeAll pool hbehind before _ _ h.2 ?_
    rw [FlushReport.outcome?_note_of_ne h.1, hnone]

/-- **A shutdown reports on every registered name** what became of its store. -/
theorem outcome?_shutdown (pool : PlannerPool σ) (w : Workspace σ) {name : String} {path : Path}
    (h : pool.storagePaths.get? name = some path) :
    ∃ before behind, pool.storagePaths.entries = before ++ (name, path) :: behind ∧
      (pool.shutdown w).1.outcome? name =
        some (pool.storeOne name path (pool.storeAll before {} w).2).1 := by
  obtain ⟨before, behind, hentries⟩ :=
    List.append_of_mem ((Table.get?_eq_some_iff _).mp h)
  have hsorted := pool.storagePaths.keys_pairwise
  rw [Table.keys, hentries, List.map_append, List.map_cons] at hsorted
  obtain ⟨-, hrest, hbefore⟩ := List.pairwise_append.mp hsorted
  have hnone : ({} : FlushReport).outcome? name = none := rfl
  refine ⟨before, behind, hentries, ?_⟩
  show (pool.storeAll pool.storagePaths.entries {} w).1.outcome? name = _
  rw [hentries]
  refine outcome?_storeAll pool (fun hmem => ?_) before {} w (fun hmem => ?_) hnone
  · exact String.lt_irrefl name ((List.pairwise_cons.mp hrest).1 name hmem)
  · exact String.lt_irrefl name (hbefore name hmem name (List.mem_cons_self ..))

/-! ## 2. Attempts -/

/-- What an operation stores the data of: all registered planners, or the one of a name. -/
inductive Flush where
  | all
  | one (name : String)

/-- What the operation stores the data of, if it stores anything. -/
def Operation.flush? : Operation → Option Flush
  | .shutdown => some .all
  | .invalidate name => some (.one name)
  | _ => none

theorem Operation.flush?_cases {op : Operation} {f : Flush} (h : op.flush? = some f) :
    (op = .shutdown ∧ f = .all) ∨ ∃ name, op = .invalidate name ∧ f = .one name := by
  cases op with
  | shutdown =>
    cases h
    exact .inl ⟨rfl, rfl⟩
  | invalidate name =>
    cases h
    exact .inr ⟨name, rfl, rfl⟩
  | _ => cases h

namespace Session

/-- What becomes of the attempt to store the data of the planner under the name, if there is one. -/
def attempt? (s : Session σ) (name : String) : Flush → Option (Except ResolutionError Unit)
  | .all => (s.pool.shutdown s.workspace).1.outcome? name
  | .one other =>
    if name = other then
      (s.pool.storagePaths.get? name).map fun path => (s.pool.storeOne name path s.workspace).1
    else none

/-- A shutdown leaves no registered planner out. -/
theorem attempt?_all_ne_none {s : Session σ} {name : String} {path : Path} {n : Nat}
    (h : s.Registered name path n) : s.attempt? name .all ≠ none := by
  obtain ⟨_, _, -, houtcome⟩ := outcome?_shutdown s.pool s.workspace h.2
  rw [attempt?, houtcome]
  exact Option.some_ne_none _

/-! ## 3. The flag and the registrations -/

/-- An operation that registers a planner takes the flag away. -/
theorem Registers.flushed {s : Session σ} (hs : s.Sound) {op : Operation} {name : String}
    {path : Path} {n : Nat} (h : s.Registers op name path n) : (s.step op).pool.flushed = false := by
  rcases (registered_step_iff hs op name path n).mp h.2 with ⟨hr, -⟩ | ⟨hp, hnone, -⟩
  · exact absurd hr h.1
  · rw [← Bool.not_eq_true, flushed_step_iff]
    rintro (rfl | ⟨-, hno⟩)
    · cases hp
    · exact hno name path hp hnone

/-- The first planner of a name with a path is registered. -/
theorem registers_of_first {s : Session σ} (hs : s.Sound) {op : Operation} {name : String}
    {path : Path} (hp : op.place? = some (name, path)) (hnone : s.pool.planners.get? name = none) :
    s.Registers op name path s.workspace.planners.length := by
  refine ⟨?_, (registered_step_iff hs op _ _ _).mpr (.inr ⟨hp, hnone, rfl⟩)⟩
  rintro ⟨hn, -⟩
  rw [hnone] at hn
  cases hn

/-- **Behind a registration the flag is set by a shutdown only.** -/
theorem shutdown_of_flushed {s : Session σ} (hs : s.Sound) {ops : List Operation} {i : Nat}
    {op : Operation} (hop : ops[i]? = some op) {name : String} {path : Path} {n : Nat}
    (h : (s.after ops i).Registers op name path n) :
    ∀ t, i < t → t ≤ ops.length → (s.after ops t).pool.flushed = true →
      ∃ j, i < j ∧ j < t ∧ ops[j]? = some .shutdown := by
  intro t
  induction t with
  | zero => exact fun hit => absurd hit (by omega)
  | succ t ih =>
    intro hit ht hf
    rcases Nat.lt_or_eq_of_le (Nat.le_of_lt_succ hit) with hlt | rfl
    · have hop' : ops[t]? = some ops[t] := List.getElem?_eq_getElem ht
      rw [s.after_succ hop'] at hf
      rcases (flushed_step_iff _ _).mp hf with hsd | ⟨hf, -⟩
      · exact ⟨t, hlt, by omega, hsd ▸ hop'⟩
      · obtain ⟨j, hij, hjt, hj⟩ := ih hlt (by omega) hf
        exact ⟨j, hij, by omega, hj⟩
    · rw [s.after_succ hop, h.flushed (hs.after ops i)] at hf
      cases hf

/-- **Where the flag is not set**, there is a registration that no shutdown follows. -/
theorem registers_of_unflushed {s : Session σ} (hs : s.Sound) (hnew : s.pool.flushed = true)
    (ops : List Operation) :
    ∀ t ≤ ops.length, (s.after ops t).pool.flushed = false →
      ∃ i op name path n, i < t ∧ ops[i]? = some op ∧ (s.after ops i).Registers op name path n ∧
        ∀ j, i < j → j < t → ops[j]? ≠ some .shutdown := by
  intro t
  induction t with
  | zero =>
    intro _ hf
    rw [show s.after ops 0 = s from rfl, hnew] at hf
    cases hf
  | succ t ih =>
    intro ht hf
    have hop : ops[t]? = some ops[t] := List.getElem?_eq_getElem ht
    rw [s.after_succ hop, ← Bool.not_eq_true, flushed_step_iff, not_or] at hf
    obtain ⟨hsd, hf⟩ := hf
    cases hold : (s.after ops t).pool.flushed with
    | false =>
      obtain ⟨i, op, name, path, n, hit, hiop, hreg, hno⟩ := ih (by omega) hold
      refine ⟨i, op, name, path, n, by omega, hiop, hreg, fun j hij hjt => ?_⟩
      rcases Nat.lt_or_eq_of_le (Nat.le_of_lt_succ hjt) with hlt | rfl
      · exact hno j hij hlt
      · rw [hop]
        exact fun h => hsd (Option.some.inj h)
    | true =>
      -- the flag goes with a first planner of its name
      obtain ⟨name, path, hp, hnone⟩ : ∃ name path, ops[t].place? = some (name, path) ∧
          (s.after ops t).pool.planners.get? name = none := by
        refine Classical.byContradiction fun hno => hf ⟨hold, fun name path hp hnone => ?_⟩
        exact hno ⟨name, path, hp, hnone⟩
      exact ⟨t, ops[t], name, path, _, by omega, hop, registers_of_first (hs.after ops t) hp hnone,
        fun j htj hjt => by omega⟩

/-! ## 4. The law of trying again -/

/-- The law, for the states of a pool in a run of so many operations, what each operation stores,
and what is saved at the end: a planner that is registered at the end is saved there exactly if,
behind the LAST operation that attempted to store under its name, some planner was registered,
under this name or another.  What became of that attempt makes no difference. -/
def Retries (state : Nat → Session σ) (flush? : Nat → Option Flush) (len : Nat)
    (atEnd : List (Path × PlannerData)) : Prop :=
  ∀ name path n p, (state len).Registered name path n →
    (state len).workspace.planner? n = some p →
    ∀ k f outcome, k < len → flush? k = some f → (state k).attempt? name f = some outcome →
      (∀ j g, k < j → j < len → flush? j = some g → (state j).attempt? name g = none) →
      ((path, p.data) ∈ atEnd ↔
        ∃ i name' path' n', k < i ∧ i < len ∧ ¬ (state i).Registered name' path' n' ∧
          (state (i + 1)).Registered name' path' n')

/-- The end of a pool comes up for what is registered, if the flag is not set. -/
theorem mem_saves_release_of_registered {s : Session σ} {name : String} {path : Path} {n : Nat}
    {p : Planner} (h : s.Registered name path n) (hp : s.workspace.planner? n = some p) :
    (path, p.data) ∈ s.workspace.saves (s.pool.release s.workspace) ↔ s.pool.flushed = false := by
  rw [mem_saves_release_iff]
  exact ⟨fun h => h.1, fun hf => ⟨hf, name, n, p, h, hp, rfl⟩⟩

/-- **In every run of a new pool**, a name is attempted again at the end exactly if some planner was
registered since the last attempt. -/
theorem Retries.run (storage : Storage σ) (w : Workspace σ) (ops : List Operation) :
    Retries ((new storage w).after ops) (fun k => ops[k]?.bind Operation.flush?) ops.length
      (((new storage w).after ops ops.length).workspace.saves
        (((new storage w).after ops ops.length).pool.release
          ((new storage w).after ops ops.length).workspace)) := by
  have hs := Sound.new storage w
  have h₀ := not_registered_new storage w
  intro name path n p hreg hp k f outcome hk hflush hattempt hlast
  rw [mem_saves_release_of_registered hreg hp]
  -- the operation that registered this very planner
  obtain ⟨own, ownOp, hown, hownOp, hownReg, hstays⟩ :=
    exists_registers h₀ ops ops.length (Nat.le_refl _) hreg
  obtain ⟨op, hop, hf⟩ := Option.bind_eq_some_iff.mp hflush
  constructor
  · intro hunflushed
    rcases Operation.flush?_cases hf with ⟨rfl, rfl⟩ | ⟨other, rfl, rfl⟩
    · -- behind the shutdown stands the last registration of all
      obtain ⟨i, iOp, name', path', n', hi, hiOp, hregs, hno⟩ :=
        registers_of_unflushed hs rfl ops ops.length (Nat.le_refl _) hunflushed
      have hki : k < i := by
        rcases Nat.lt_trichotomy k i with hlt | rfl | hlt
        · exact hlt
        · obtain rfl : iOp = .shutdown := Option.some.inj (hiOp.symm.trans hop)
          cases (hregs.made (hs.after ops k)).1
        · exact absurd hop (hno k hlt hk)
      refine ⟨i, name', path', n', hki, hi, hregs.1, ?_⟩
      rw [Session.after_succ _ hiOp]
      exact hregs.2
    · -- the name was forgotten, so this planner was registered later
      obtain rfl : name = other := by
        rw [attempt?] at hattempt
        split at hattempt
        · assumption
        · cases hattempt
      have hgone : ¬ ((new storage w).after ops (k + 1)).Registered name path n := by
        rw [Session.after_succ _ hop, registered_step_iff (hs.after ops k)]
        rintro (⟨-, hne⟩ | ⟨hplace, -⟩)
        · exact hne rfl
        · cases hplace
      have hkown : k < own := by
        rcases Nat.lt_or_ge k own with hlt | hge
        · exact hlt
        · exact absurd (hstays (k + 1) (by omega) (by omega)) hgone
      refine ⟨own, name, path, n, hkown, hown, hownReg.1, ?_⟩
      rw [Session.after_succ _ hownOp]
      exact hownReg.2
  · rintro ⟨i, name', path', n', hki, hi, hbefore, hafter⟩
    -- behind the last attempt, no shutdown finds this planner registered
    have hno : ∀ j, k < j → own < j → j < ops.length → ops[j]? ≠ some .shutdown := by
      intro j hkj hownj hj hshutdown
      have hall : ops[j]?.bind Operation.flush? = some .all := by
        rw [hshutdown]
        rfl
      have hnone := hlast j .all hkj hj hall
      exact attempt?_all_ne_none (hstays j hownj (Nat.le_of_lt hj)) hnone
    rw [← Bool.not_eq_true]
    intro hflushed
    rcases Nat.lt_or_ge i own with hlt | hge
    · obtain ⟨j, hij, hj, hshutdown⟩ :=
        shutdown_of_flushed hs hownOp hownReg ops.length hown (Nat.le_refl _) hflushed
      exact hno j (by omega) hij hj hshutdown
    · have hiOp : ops[i]? = some ops[i] := List.getElem?_eq_getElem hi
      rw [Session.after_succ _ hiOp] at hafter
      obtain ⟨j, hij, hj, hshutdown⟩ :=
        shutdown_of_flushed hs hiOp ⟨hbefore, hafter⟩ ops.length hi (Nat.le_refl _) hflushed
      exact hno j (by omega) (by omega) hj hshutdown

/-- The law for states that are those of a pool, and operations that store what those of the pool
do. -/
theorem Retries.of_run {state : Nat → Session σ} {flush? : Nat → Option Flush}
    {storage : Storage σ} {w : Workspace σ} {ops : List Operation} {len : Nat}
    (hstate : ∀ k, state k = (new storage w).after ops k)
    (hflush : ∀ k, flush? k = ops[k]?.bind Operation.flush?) (hlen : len = ops.length) :
    Retries state flush? len
      ((state len).workspace.saves ((state len).pool.release (state len).workspace)) := by
  obtain rfl : state = (new storage w).after ops := funext hstate
  obtain rfl : flush? = fun k => ops[k]?.bind Operation.flush? := funext hflush
  subst hlen
  exact Retries.run storage w ops

end Session

end PlannerPool

end MotionContexts
