/-
# What is registered is saved, and nothing else

The pool has three ways to store the data of a registered planner: as the planner is forgotten, in a
shutdown, and at the end.  They share ONE flag, which a shutdown sets for all names and a new
registration takes away for all of them; the end does nothing where it is set.  So the flag must
never be set while some registered planner was not attempted yet, and that is `saved_of_flushed`, an
induction on the run: only a shutdown sets the flag, and a shutdown leaves nobody out.

Registrations are followed through a run by the states in which they hold.  `Stays` is one that
holds from one state to another without a gap, and `exists_registers` finds its beginning.

Main statement: `registered_saved`, the law of saving for every run that starts with a new pool.
-/
import MotionContexts.Proofs.PlannerPool.Session

namespace MotionContexts.PlannerPool.Session

universe u

open MotionContexts.Sample

variable {σ : Type u}

/-! ## 1. Attempts and registrations in a run -/

/-- The operation attempts to save the planner of the number at the path, with its data of then. -/
def SavesAt (s : Session σ) (ops : List Operation) (k : Nat) (path : Path) (n : Nat) : Prop :=
  ∃ p, (s.after ops k).workspace.planner? n = some p ∧ (path, p.data) ∈ s.savedAt ops k

/-- The planner is registered in every state BEHIND the first number, up to the second. -/
def Stays (s : Session σ) (ops : List Operation) (name : String) (path : Path) (n i k : Nat) :
    Prop :=
  ∀ m, i < m → m ≤ k → (s.after ops m).Registered name path n

theorem Stays.succ {s : Session σ} {ops : List Operation} {name : String} {path : Path}
    {n i k : Nat} (h : s.Stays ops name path n i k)
    (hk : (s.after ops (k + 1)).Registered name path n) :
    s.Stays ops name path n i (k + 1) := by
  intro m him hmk
  rcases Nat.lt_or_eq_of_le hmk with hlt | rfl
  · exact h m him (by omega)
  · exact hk

theorem stays_self (s : Session σ) (ops : List Operation) (name : String) (path : Path)
    (n i : Nat) :
    s.Stays ops name path n i i := fun m him hmi => absurd him (by omega)

theorem not_registered_new (storage : Storage σ) (w : Workspace σ) (name : String) (path : Path)
    (n : Nat) :
    ¬ (new storage w).Registered name path n := fun h => by cases h.1

/-- A registration is that of a first planner, just made, under the name and the path wanted. -/
theorem Registers.made {s : Session σ} (hs : s.Sound) {op : Operation} {name : String} {path : Path}
    {n : Nat} (h : s.Registers op name path n) :
    op.place? = some (name, path) ∧ n = s.workspace.planners.length := by
  rcases (registered_step_iff hs op name path n).mp h.2 with ⟨hr, -⟩ | ⟨hp, -, hn⟩
  · exact absurd hr h.1
  · exact ⟨hp, hn⟩

/-- A registration goes only with `invalidate`. -/
theorem eq_invalidate_of_removed {s : Session σ} (hs : s.Sound) {op : Operation} {name : String}
    {path : Path} {n : Nat} (h : s.Registered name path n)
    (h' : ¬ (s.step op).Registered name path n) :
    op = .invalidate name := by
  refine Classical.byContradiction fun hop => ?_
  exact h' ((registered_step_iff hs op name path n).mpr (.inl ⟨h, hop⟩))

/-- **A registration that holds began somewhere, and has held since.** -/
theorem exists_registers {s : Session σ} (hs : ∀ name path n, ¬ s.Registered name path n)
    (ops : List Operation) {name : String} {path : Path} {n : Nat} :
    ∀ k ≤ ops.length, (s.after ops k).Registered name path n →
      ∃ i op, i < k ∧ ops[i]? = some op ∧ (s.after ops i).Registers op name path n ∧
        s.Stays ops name path n i k := by
  intro k
  induction k with
  | zero => exact fun _ h => absurd h (hs name path n)
  | succ k ih =>
    intro hk h
    have hop := List.getElem?_eq_getElem (show k < ops.length by omega)
    by_cases hr : (s.after ops k).Registered name path n
    · obtain ⟨i, op, hi, hiop, hreg, hst⟩ := ih (by omega) hr
      exact ⟨i, op, by omega, hiop, hreg, hst.succ h⟩
    · refine ⟨k, _, by omega, hop, ⟨hr, ?_⟩, (stays_self s ops name path n k).succ h⟩
      rw [← s.after_succ hop]
      exact h

/-! ## 2. The three ways to save -/

theorem savesAt_of_step {s : Session σ} (hs : s.Sound) {ops : List Operation} {k : Nat}
    {op : Operation} (hop : ops[k]? = some op) {name : String} {path : Path} {n : Nat}
    (h : (s.after ops k).Registered name path n) (hc : op = .shutdown ∨ op = .invalidate name) :
    s.SavesAt ops k path n := by
  obtain ⟨p, hp⟩ := Workspace.planner?_eq_some_of_lt ((hs.after ops k).enrolled name n h.1)
  refine ⟨p, hp, ?_⟩
  rw [savedAt, hop]
  exact (mem_saves_step_iff _ op path p.data).mpr ⟨name, n, p, h, hp, rfl, hc⟩

theorem savesAt_end {s : Session σ} (hs : s.Sound) {ops : List Operation} {name : String}
    {path : Path} {n : Nat} (h : (s.after ops ops.length).Registered name path n)
    (hf : (s.after ops ops.length).pool.flushed = false) : s.SavesAt ops ops.length path n := by
  obtain ⟨p, hp⟩ := Workspace.planner?_eq_some_of_lt ((hs.after ops ops.length).enrolled name n h.1)
  refine ⟨p, hp, ?_⟩
  rw [savedAt, List.getElem?_eq_none (Nat.le_refl _)]
  exact (mem_saves_release_iff _ path p.data).mpr ⟨hf, name, n, p, h, hp, rfl⟩

/-- A step that ends without need of a shutdown registers nothing. -/
theorem registered_of_flushed_step {s : Session σ} (hs : s.Sound) {op : Operation} {name : String}
    {path : Path} {n : Nat} (hf : (s.step op).pool.flushed = true)
    (h : (s.step op).Registered name path n) : s.Registered name path n := by
  rcases (registered_step_iff hs op name path n).mp h with ⟨hr, -⟩ | ⟨hp, hnone, -⟩
  · exact hr
  · rcases (flushed_step_iff s op).mp hf with rfl | ⟨-, hno⟩
    · cases hp
    · exact absurd hnone (hno name path hp)

/-- **Where the flag is set, everybody was attempted.**  A planner that is registered in a state
without need of a shutdown was saved before, and its registration has held since. -/
theorem saved_of_flushed {s : Session σ} (hs : s.Sound)
    (h₀ : ∀ name path n, ¬ s.Registered name path n) (ops : List Operation) {name : String}
    {path : Path} {n : Nat} :
    ∀ t ≤ ops.length, (s.after ops t).pool.flushed = true → (s.after ops t).Registered name path n →
      ∃ k < t, (∀ m, k ≤ m → m ≤ t → (s.after ops m).Registered name path n) ∧
        s.SavesAt ops k path n := by
  intro t
  induction t with
  | zero => exact fun _ _ h => absurd h (h₀ name path n)
  | succ t ih =>
    intro ht hf h
    have hop := List.getElem?_eq_getElem (show t < ops.length by omega)
    have hr : (s.after ops t).Registered name path n := by
      rw [s.after_succ hop] at hf h
      exact registered_of_flushed_step (hs.after ops t) hf h
    rw [s.after_succ hop] at hf
    rcases (flushed_step_iff _ _).mp hf with hsd | ⟨hf, -⟩
    · -- a shutdown attempts everybody
      refine ⟨t, by omega, fun m hkm hmt => ?_, savesAt_of_step hs hop hr (.inl hsd)⟩
      rcases Nat.lt_or_eq_of_le hmt with hlt | rfl
      · rwa [show m = t by omega]
      · exact h
    · obtain ⟨k, hk, hst, hsave⟩ := ih (by omega) hf hr
      refine ⟨k, by omega, fun m hkm hmt => ?_, hsave⟩
      rcases Nat.lt_or_eq_of_le hmt with hlt | rfl
      · exact hst m hkm (by omega)
      · exact h

/-- Whoever is registered is saved as it is forgotten. -/
theorem savesAt_of_removed {s : Session σ} (hs : s.Sound) {ops : List Operation} {j : Nat}
    {op : Operation} (hop : ops[j]? = some op) {name : String} {path : Path} {n : Nat}
    (h : (s.after ops j).Registered name path n)
    (h' : ¬ ((s.after ops j).step op).Registered name path n) :
    op = .invalidate name ∧ s.SavesAt ops j path n := by
  have he := eq_invalidate_of_removed (hs.after ops j) h h'
  exact ⟨he, savesAt_of_step hs hop h (.inr he)⟩

/-- From its registration on, a planner has been saved or is registered still. -/
theorem saved_or_stays {s : Session σ} (hs : s.Sound) {ops : List Operation} {i : Nat}
    {op : Operation} (hop : ops[i]? = some op) {name : String} {path : Path} {n : Nat}
    (h : (s.after ops i).Registers op name path n) :
    ∀ t, i < t → t ≤ ops.length →
      (∃ k, i < k ∧ k < t ∧ s.Stays ops name path n i k ∧ s.SavesAt ops k path n) ∨
        s.Stays ops name path n i t := by
  intro t
  induction t with
  | zero => exact fun hit => absurd hit (by omega)
  | succ t ih =>
    intro hit ht
    rcases Nat.lt_or_eq_of_le (Nat.le_of_lt_succ hit) with hlt | rfl
    · rcases ih hlt (by omega) with ⟨k, hik, hkt, hst, hsave⟩ | hst
      · exact .inl ⟨k, hik, by omega, hst, hsave⟩
      · have hop' := List.getElem?_eq_getElem (show t < ops.length by omega)
        by_cases hr : (s.after ops (t + 1)).Registered name path n
        · exact .inr (hst.succ hr)
        · rw [s.after_succ hop'] at hr
          have hsave := (savesAt_of_removed hs hop' (hst t hlt (Nat.le_refl t)) hr).2
          exact .inl ⟨t, hlt, by omega, hst, hsave⟩
    · refine .inr ((stays_self s ops name path n i).succ ?_)
      rw [s.after_succ hop]
      exact h.2

/-- **Whoever is registered is saved, before it is gone.** -/
theorem exists_savesAt {s : Session σ} (hs : s.Sound)
    (h₀ : ∀ name path n, ¬ s.Registered name path n) {ops : List Operation} {i : Nat}
    {op : Operation} (hop : ops[i]? = some op) {name : String}
    {path : Path} {n : Nat} (h : (s.after ops i).Registers op name path n) :
    ∃ k, i < k ∧ k ≤ ops.length ∧ s.Stays ops name path n i k ∧ s.SavesAt ops k path n := by
  have hi : i < ops.length := (List.getElem?_eq_some_iff.mp hop).1
  rcases saved_or_stays hs hop h ops.length hi (Nat.le_refl _) with ⟨k, hik, hkt, hst, hsave⟩ | hst
  · exact ⟨k, hik, by omega, hst, hsave⟩
  · have hend := hst ops.length hi (Nat.le_refl _)
    cases hf : (s.after ops ops.length).pool.flushed with
    | false => exact ⟨ops.length, hi, Nat.le_refl _, hst, savesAt_end hs hend hf⟩
    | true =>
      obtain ⟨k, hk, hreg, hsave⟩ := saved_of_flushed hs h₀ ops _ (Nat.le_refl _) hf hend
      -- it was not registered where it was about to be
      have hik : i < k := by
        rcases Nat.lt_or_ge i k with hik | hki
        · exact hik
        · exact absurd (hreg i hki (by omega)) h.1
      exact ⟨k, hik, by omega, fun m him hmk => hst m him (by omega), hsave⟩

/-- Whatever is saved is the data of a planner that is registered, at its path. -/
theorem registered_of_mem_savedAt {s : Session σ} {ops : List Operation} {k : Nat} {path : Path}
    {d : PlannerData} (h : (path, d) ∈ s.savedAt ops k) :
    ∃ name n p, (s.after ops k).Registered name path n ∧
      (s.after ops k).workspace.planner? n = some p ∧ d = p.data := by
  unfold savedAt at h
  split at h
  · obtain ⟨name, n, p, hr, hp, hd, -⟩ := (mem_saves_step_iff _ _ path d).mp h
    exact ⟨name, n, p, hr, hp, hd⟩
  · obtain ⟨-, name, n, p, hr, hp, hd⟩ := (mem_saves_release_iff _ path d).mp h
    exact ⟨name, n, p, hr, hp, hd⟩

/-- After a shutdown there is no need of another one until something is registered. -/
theorem flushed_of_shutdown {s : Session σ} (hs : s.Sound) {ops : List Operation} {k : Nat}
    (hk : ops[k]? = some .shutdown)
    (hno : ∀ i op, k < i → ops[i]? = some op →
      ∀ name path n, ¬ (s.after ops i).Registers op name path n) :
    ∀ t, k < t → t ≤ ops.length → (s.after ops t).pool.flushed = true := by
  intro t
  induction t with
  | zero => exact fun hkt => absurd hkt (by omega)
  | succ t ih =>
    intro hkt ht
    rcases Nat.lt_or_eq_of_le (Nat.le_of_lt_succ hkt) with hlt | rfl
    · have hop := List.getElem?_eq_getElem (show t < ops.length by omega)
      rw [s.after_succ hop, flushed_step_iff]
      refine .inr ⟨ih hlt (by omega), fun name path hp hnone => ?_⟩
      refine hno t _ hlt hop name path (s.after ops t).workspace.planners.length ⟨?_, ?_⟩
      · rintro ⟨hn, -⟩
        rw [hnone] at hn
        cases hn
      · exact (registered_step_iff (hs.after ops t) _ _ _ _).mpr (.inr ⟨hp, hnone, rfl⟩)
    · rw [s.after_succ hk, flushed_step_iff]
      exact .inl rfl

/-! ## 3. The law of saving -/

/-- **No registered planner goes unsaved, and nothing else is ever saved.**  In every run of a new
pool, over any storage and in any workspace:

1. a planner that is registered is attempted to be saved behind its registration, with the data it
   has then, while it is registered still;
2. a registration goes only as the name is forgotten, and the planner is attempted to be saved
   there;
3. whatever is attempted to be saved is the data, at this moment, of a planner that is registered,
   at its path; the planner was made by the operation that registered it, and has been registered
   since;
4. the end does nothing behind a shutdown that no registration follows. -/
theorem registered_saved (storage : Storage σ) (w : Workspace σ) (ops : List Operation) :
    (∀ i op name path n, ops[i]? = some op →
      ((new storage w).after ops i).Registers op name path n →
      ∃ k, i < k ∧ k ≤ ops.length ∧ (new storage w).Stays ops name path n i k ∧
        (new storage w).SavesAt ops k path n) ∧
    (∀ j op name path n, ops[j]? = some op → ((new storage w).after ops j).Registered name path n →
      ¬ (((new storage w).after ops j).step op).Registered name path n →
      op = .invalidate name ∧ (new storage w).SavesAt ops j path n) ∧
    (∀ k path d, k ≤ ops.length → (path, d) ∈ (new storage w).savedAt ops k →
      ∃ name n p, ((new storage w).after ops k).Registered name path n ∧
        ((new storage w).after ops k).workspace.planner? n = some p ∧ d = p.data ∧
        ∃ i op, i < k ∧ ops[i]? = some op ∧ op.place? = some (name, path) ∧
          n = ((new storage w).after ops i).workspace.planners.length ∧
          (new storage w).Stays ops name path n i k) ∧
    (∀ k, ops[k]? = some .shutdown →
      (∀ i op, k < i → ops[i]? = some op →
        ∀ name path n, ¬ ((new storage w).after ops i).Registers op name path n) →
      ((new storage w).after ops ops.length).pool.release
        ((new storage w).after ops ops.length).workspace =
          ((new storage w).after ops ops.length).workspace) := by
  have hs := Sound.new storage w
  have h₀ := not_registered_new storage w
  refine ⟨?registered, ?removed, ?saved, ?shutdown⟩
  case registered =>
    intro i op name path n hop h
    exact exists_savesAt hs h₀ hop h
  case removed =>
    intro j op name path n hop h h'
    exact savesAt_of_removed hs hop h h'
  case saved =>
    intro k path d hk h
    obtain ⟨name, n, p, hr, hp, hd⟩ := registered_of_mem_savedAt h
    obtain ⟨i, op, hik, hop, hreg, hst⟩ := exists_registers h₀ ops k hk hr
    obtain ⟨hplace, hn⟩ := hreg.made (hs.after ops i)
    exact ⟨name, n, p, hr, hp, hd, i, op, hik, hop, hplace, hn, hst⟩
  case shutdown =>
    intro k hk hno
    have hlt := (List.getElem?_eq_some_iff.mp hk).1
    have hf := flushed_of_shutdown hs hk hno ops.length hlt (Nat.le_refl _)
    rw [release, if_pos hf]

/-- A run with one registered planner: it is explored, stored in a shutdown, and forgotten. -/
def storedRun : List Operation :=
  [.allocate roadmaps ⟨"JointModel", "arm"⟩ "arm" (keptAt "arm.graph"), .explore 0 [5], .shutdown,
    .invalidate "arm"]

theorem registered_saved_storedRun :
    (∃ k, 0 < k ∧ k ≤ 4 ∧
      (new .memory { contents := ∅ }).Stays storedRun "arm" ⟨"arm.graph"⟩ 0 0 k ∧
      (new .memory { contents := ∅ }).SavesAt storedRun k ⟨"arm.graph"⟩ 0) ∧
    (new .memory { contents := ∅ }).SavesAt storedRun 3 ⟨"arm.graph"⟩ 0 ∧
    (∃ name n,
      ((new .memory { contents := ∅ }).after storedRun 2).Registered name ⟨"arm.graph"⟩ n) ∧
    ((new .memory { contents := ∅ }).after storedRun 4).pool.release
      ((new .memory { contents := ∅ }).after storedRun 4).workspace =
        ((new .memory { contents := ∅ }).after storedRun 4).workspace := by
  obtain ⟨h₁, h₂, h₃, h₄⟩ := registered_saved .memory { contents := ∅ } storedRun
  refine ⟨?registered, ?removed, ?saved, ?shutdown⟩
  case registered => exact h₁ 0 _ "arm" ⟨"arm.graph"⟩ 0 rfl ⟨not_registered_new _ _ _ _ _, rfl, rfl⟩
  case removed => exact (h₂ 3 _ "arm" ⟨"arm.graph"⟩ 0 rfl ⟨rfl, rfl⟩ fun h => by cases h.1).2
  case saved =>
    have hmem : (⟨"arm.graph"⟩, ⟨"roadmap", [5]⟩) ∈
        (new .memory { contents := ∅ }).savedAt storedRun 2 := .head _
    obtain ⟨name, n, _, hr, -⟩ := h₃ 2 _ _ (by decide) hmem
    exact ⟨name, n, hr⟩
  case shutdown =>
    refine h₄ 2 rfl fun i op hi hop name path n h => ?_
    -- behind the shutdown stands only the operation that forgets the planner
    obtain ⟨rfl⟩ : i = 3 := by
      have hlt : i < 4 := (List.getElem?_eq_some_iff.mp hop).1
      omega
    cases hop
    cases h.2.1

end MotionContexts.PlannerPool.Session
