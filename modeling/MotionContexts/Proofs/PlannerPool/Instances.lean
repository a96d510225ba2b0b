/-
# One instance for every kept name

Planners are told apart by their instance numbers.  A pool hands out a new one for every query that
does not want its planner kept, and for a name that is kept the SAME one until the name is
forgotten.  The first query of the name makes the planner; what it asked for decides the parameters
of the planner and where its data is to be stored, and the options of later queries decide nothing.

A kept number is followed through a run by `keeps_after`: nothing but `invalidate` takes it away, and
the path registered with it stays too.

Main statement: `one_instance_per_name`, for every run that starts with a new pool.
-/
import MotionContexts.Proofs.Planner
import MotionContexts.Proofs.PlannerPool.Session

namespace MotionContexts

universe u

/-! ## 1. Kept planners are told apart -/

namespace PlannerPool

variable {σ : Type u}

/-- Kept planners exist, and those of different names are different. -/
structure Distinct (pool : PlannerPool σ) (w : Workspace σ) : Prop where
  enrolled : ∀ name n, pool.planners.get? name = some n → n < w.planners.length
  injective : ∀ name name' n, pool.planners.get? name = some n →
    pool.planners.get? name' = some n → name = name'

theorem Distinct.new (storage : Storage σ) (w : Workspace σ) : (new storage).Distinct w where
  enrolled _ _ h := by cases h
  injective _ _ _ h := by cases h

/-- Nothing that keeps no more planners takes the difference away. -/
theorem Distinct.fewer {pool pool' : PlannerPool σ} {w w' : Workspace σ} (h : pool.Distinct w)
    (hw : w.planners.length ≤ w'.planners.length)
    (hkept : ∀ name n, pool'.planners.get? name = some n → pool.planners.get? name = some n) :
    pool'.Distinct w' where
  enrolled name n hn := Nat.lt_of_lt_of_le (h.enrolled name n (hkept name n hn)) hw
  injective name name' n hn hn' := h.injective name name' n (hkept name n hn) (hkept name' n hn')

/-- A planner that was just made may be kept under a name. -/
theorem Distinct.insert {pool pool' : PlannerPool σ} {w w' : Workspace σ} {n : Nat} {name : String}
    (h : pool.Distinct w) (hn : n = w.planners.length) (hw : w'.planners.length = n + 1)
    (hp : pool'.planners = pool.planners.insert name n) : pool'.Distinct w' := by
  -- the new number is beyond all those kept so far
  have hold : ∀ k m, pool'.planners.get? k = some m →
      (k = name ∧ m = n) ∨ (pool.planners.get? k = some m ∧ m < n) := by
    intro k m hk
    rw [hp, Table.get?_insert] at hk
    split at hk
    · rename_i hname
      cases hk
      exact .inl ⟨hname, rfl⟩
    · exact .inr ⟨hk, hn ▸ h.enrolled k m hk⟩
  refine ⟨fun k m hk => ?_, fun k k' m hk hk' => ?_⟩
  · rcases hold k m hk with ⟨-, rfl⟩ | ⟨-, hlt⟩ <;> omega
  · rcases hold k m hk with ⟨rfl, rfl⟩ | ⟨hk, hlt⟩ <;>
      rcases hold k' m hk' with ⟨rfl, hm⟩ | ⟨hk', hlt'⟩
    · rfl
    · omega
    · omega
    · exact h.injective k k' m hk hk'

/-- **What an allocation that succeeds hands out**: the planner kept under the name, a planner of
its own, or the first planner of the name. -/
theorem Allocates.kept_or_own_or_first {pool pool' : PlannerPool σ} {family : PlannerFamily}
    {space : Space} {name : String} {config : Table String} {w w' : Workspace σ} {n : Nat}
    (h : Allocates pool family space name config w (.ok n) pool' w') :
    (Retention.enabled config = true ∧ pool.planners.get? name = some n ∧ pool' = pool ∧ w' = w) ∨
      (Retention.enabled config = false ∧ pool' = pool ∧ ∃ p, w.Enrolls w' n p) ∨
      (Retention.enabled config = true ∧ pool.planners.get? name = none ∧
        pool'.planners = pool.planners.insert name n ∧ ∃ p, w.Enrolls w' n p) := by
  cases h with
  | single hx hr =>
    rw [Retention.extract_multiQuery hx] at hr
    exact .inr (.inl ⟨hr, rfl, _, build_enrolls ..⟩)
  | kept hx hr hn =>
    rw [Retention.extract_multiQuery hx] at hr
    exact .inl ⟨hr, hn, rfl, rfl⟩
  | first hx hr hn =>
    rw [Retention.extract_multiQuery hx] at hr
    exact .inr (.inr ⟨hr, hn, planners_keep .., _, build_enrolls ..⟩)

/-- Handing a planner out keeps the kept planners apart. -/
theorem Distinct.allocates {pool pool' : PlannerPool σ} {family : PlannerFamily} {space : Space}
    {name : String} {config : Table String} {w w' : Workspace σ} {n : Nat} (h : pool.Distinct w)
    (ha : Allocates pool family space name config w (.ok n) pool' w') : pool'.Distinct w' := by
  rcases ha.kept_or_own_or_first with ⟨-, -, rfl, rfl⟩ | ⟨-, rfl, p, hw⟩ | ⟨-, -, hp, p, hw⟩
  · exact h
  · exact h.fewer (by rw [hw.length]; omega) fun _ _ hn => hn
  · exact h.insert hw.number (by rw [hw.length, hw.number]) hp

/-- Forgetting a planner keeps the others apart. -/
theorem Distinct.invalidate {pool : PlannerPool σ} {w : Workspace σ} (h : pool.Distinct w)
    (name : String) : (pool.invalidate name w).2.1.Distinct (pool.invalidate name w).2.2 := by
  have hw := saved_invalidate pool name w
  refine h.fewer (Nat.le_of_eq (by rw [hw.planners])) fun k n hn => ?_
  · rw [planners_invalidate, Table.get?_erase] at hn
    split at hn
    · cases hn
    · exact hn

/-! ## 2. What is made -/

/-- Whatever was loaded, the planner that is constructed is one that the family makes. -/
theorem construct_makes (s : Storage σ) (family : PlannerFamily) (space : Space)
    (loadFrom : Option Path) (w : Workspace σ) :
    family.Makes space (construct s family space loadFrom w).1 := by
  unfold construct
  split
  · exact .inl rfl
  · rename_i path
    split
    · rename_i p w' h
      unfold seed? at h
      split at h
      · cases h
      · rename_i data w₁ hl
        split at h
        · cases h
        · dsimp only at h
          split at h
          · cases h
          · rename_i q hq
            cases h
            exact .inr ⟨data, hq⟩
    · exact .inl rfl

namespace Session

/-! ## 3. What one step does to kept planners -/

/-- A kept planner, and the path registered with it, go only as the name is forgotten. -/
theorem keeps_step {s : Session σ} {op : Operation} {name : String} {n : Nat}
    (h : s.pool.planners.get? name = some n) (hop : op ≠ .invalidate name) :
    (s.step op).pool.planners.get? name = some n ∧
      (s.step op).pool.storagePaths.get? name = s.pool.storagePaths.get? name := by
  cases op with
  | allocate family space name' config =>
    obtain ⟨result, pool, w, ha, he⟩ := s.step_allocate family space name' config
    rw [he]
    cases ha with
    | refused hx => exact ⟨h, rfl⟩
    | single hx hr => exact ⟨h, rfl⟩
    | kept hx hr hn => exact ⟨h, rfl⟩
    | first hx hr hn =>
      have hne : ¬ name = name' := by
        rintro rfl
        rw [h] at hn
        cases hn
      dsimp only
      rw [planners_keep, storagePaths_keep, Table.get?_insert, if_neg hne, if_neg hne]
      exact ⟨h, rfl⟩
  | explore k bytes => exact ⟨h, rfl⟩
  | invalidate name' =>
    have hne : ¬ name = name' := fun he => hop (he ▸ rfl)
    rw [step_invalidate]
    dsimp only
    rw [Table.get?_erase, Table.get?_erase, if_neg hne, if_neg hne]
    exact ⟨h, rfl⟩
  | shutdown => exact ⟨h, rfl⟩

/-- No planner ever goes, and all that may happen to it is that it explores. -/
theorem explored_step {s : Session σ} (op : Operation) {n : Nat} {p : Planner}
    (h : s.workspace.planner? n = some p) :
    ∃ bytes, (s.step op).workspace.planner? n = some (p.explore bytes) := by
  have hsame : s.workspace.planner? n = some (p.explore []) := by rw [Planner.explore_nil, h]
  have hlt := Workspace.lt_of_planner?_eq_some h
  cases op with
  | allocate family space name config =>
    obtain ⟨result, pool, w, ha, he⟩ := s.step_allocate family space name config
    refine ⟨[], ?_⟩
    rw [he, ← hsame]
    dsimp only
    cases result with
    | error e => cases ha with | refused hx => rfl
    | ok k =>
      rcases ha.kept_or_own_or_first with ⟨-, -, -, rfl⟩ | ⟨-, -, q, hw⟩ | ⟨-, -, -, q, hw⟩
      · rfl
      all_goals
        have hne : ¬ n = k := by
          have hk := hw.number
          omega
        rw [hw.planner?, if_neg hne]
  | explore k bytes =>
    rw [step_explore, Workspace.planner?_explore, h, Option.map_some]
    split
    · exact ⟨bytes, rfl⟩
    · exact ⟨[], by rw [Planner.explore_nil]⟩
  | invalidate name =>
    exact ⟨[], by rw [step_invalidate, (saved_invalidate s.pool name s.workspace).planner?, hsame]⟩
  | shutdown =>
    exact ⟨[], by rw [step_shutdown, (saved_shutdown s.pool s.workspace).planner?, hsame]⟩

/-! ## 4. Planners in a run -/

/-- The instance number of the planner that an operation hands out. -/
def handsOut? (s : Session σ) : Operation → Option Nat
  | .allocate family space name config =>
    (s.pool.allocate family space name config s.workspace).1.toOption
  | _ => none

/-- The operation of a run hands the planner of the number out, to be kept under the name. -/
def KeepsAt (s : Session σ) (ops : List Operation) (i : Nat) (name : String) (n : Nat) : Prop :=
  ∃ family space config, ops[i]? = some (.allocate family space name config) ∧
    Retention.enabled config = true ∧
    (s.after ops i).handsOut? (.allocate family space name config) = some n

/-- No operation of the run strictly between the two forgets the name. -/
def Undisturbed (ops : List Operation) (name : String) (i k : Nat) : Prop :=
  ∀ m, i < m → m < k → ops[m]? ≠ some (.invalidate name)

theorem step_of_handsOut? {s : Session σ} {family : PlannerFamily} {space : Space} {name : String}
    {config : Table String} {n : Nat}
    (h : s.handsOut? (.allocate family space name config) = some n) :
    ∃ pool w, Allocates s.pool family space name config s.workspace (.ok n) pool w ∧
      s.step (.allocate family space name config) = ⟨pool, w⟩ := by
  rcases ha : s.pool.allocate family space name config s.workspace with ⟨result, pool, w⟩
  rw [handsOut?, ha] at h
  cases result with
  | error e => cases h
  | ok k =>
    cases h
    refine ⟨pool, w, allocates_of_eq ha, ?_⟩
    rw [step, ha]

theorem Distinct.step {s : Session σ} (h : s.pool.Distinct s.workspace) (op : Operation) :
    (s.step op).pool.Distinct (s.step op).workspace := by
  cases op with
  | allocate family space name config =>
    obtain ⟨result, pool, w, ha, he⟩ := s.step_allocate family space name config
    rw [he]
    cases result with
    | error e => cases ha with | refused hx => exact h
    | ok n => exact h.allocates ha
  | explore n bytes => exact h.fewer (by simp [step_explore]) fun _ _ hn => hn
  | invalidate name => exact h.invalidate name
  | shutdown =>
    have hw := saved_shutdown s.pool s.workspace
    exact h.fewer (Nat.le_of_eq (by rw [step_shutdown, hw.planners])) fun _ _ hn => hn

theorem Distinct.run {s : Session σ} (h : s.pool.Distinct s.workspace) (ops : List Operation) :
    (s.run ops).pool.Distinct (s.run ops).workspace := by
  induction ops generalizing s with
  | nil => exact h
  | cons op ops ih => exact ih (Distinct.step h op)

/-- **A kept planner stays** from one state of a run to another, with the path that is registered
with it, if the name is not forgotten on the way. -/
theorem keeps_after {s : Session σ} {ops : List Operation} {name : String} {n i : Nat}
    (h : (s.after ops (i + 1)).pool.planners.get? name = some n) :
    ∀ k, i < k → k ≤ ops.length → Undisturbed ops name i k →
      (s.after ops k).pool.planners.get? name = some n ∧
        (s.after ops k).pool.storagePaths.get? name =
          (s.after ops (i + 1)).pool.storagePaths.get? name := by
  intro k
  induction k with
  | zero => exact fun hik => absurd hik (by omega)
  | succ k ih =>
    intro hik hk hu
    rcases Nat.lt_or_eq_of_le (Nat.le_of_lt_succ hik) with hlt | rfl
    · obtain ⟨hn, hp⟩ := ih hlt (by omega) fun m him hmk => hu m him (by omega)
      have hop := List.getElem?_eq_getElem (show k < ops.length by omega)
      have hne : ops[k] ≠ .invalidate name := fun he => hu k hlt (by omega) (he ▸ hop)
      obtain ⟨hn', hp'⟩ := keeps_step hn hne
      rw [s.after_succ hop]
      exact ⟨hn', hp'.trans hp⟩
    · exact ⟨h, rfl⟩

/-- A planner is there for good, and explores at most. -/
theorem explored_after {s : Session σ} {ops : List Operation} {n i : Nat} {p : Planner}
    (h : (s.after ops i).workspace.planner? n = some p) :
    ∀ k, i ≤ k → k ≤ ops.length →
      ∃ bytes, (s.after ops k).workspace.planner? n = some (p.explore bytes) := by
  intro k
  induction k with
  | zero =>
    intro hi _
    obtain rfl : i = 0 := by omega
    exact ⟨[], by rw [Planner.explore_nil, h]⟩
  | succ k ih =>
    intro hik hk
    rcases Nat.lt_or_eq_of_le hik with hlt | rfl
    · obtain ⟨a, ha⟩ := ih (by omega) (by omega)
      have hop := List.getElem?_eq_getElem (show k < ops.length by omega)
      obtain ⟨b, hb⟩ := explored_step ops[k] ha
      rw [s.after_succ hop]
      exact ⟨a ++ b, by rw [hb, Planner.explore_explore]⟩
    · exact ⟨[], by rw [Planner.explore_nil, h]⟩

/-- A step that brings a kept planner in hands it out for its name. -/
theorem keepsAt_of_step {s : Session σ} {ops : List Operation} {k : Nat} {op : Operation}
    (hop : ops[k]? = some op) {name : String} {n : Nat}
    (hold : (s.after ops k).pool.planners.get? name ≠ some n)
    (h : ((s.after ops k).step op).pool.planners.get? name = some n) :
    s.KeepsAt ops k name n := by
  cases op with
  | allocate family space name' config =>
    rcases ha : (s.after ops k).pool.allocate family space name' config (s.after ops k).workspace
      with ⟨result, pool, w⟩
    rw [step, ha] at h
    dsimp only at h
    cases result with
    | error e =>
      obtain ⟨rfl, rfl⟩ := allocate_error ha
      exact absurd h hold
    | ok m =>
      rcases (allocates_of_eq ha).kept_or_own_or_first with
        ⟨-, -, rfl, -⟩ | ⟨-, rfl, -⟩ | ⟨henabled, -, hp, -⟩
      · exact absurd h hold
      · exact absurd h hold
      · rw [hp, Table.get?_insert] at h
        split at h
        · rename_i hname
          cases h
          subst hname
          exact ⟨family, space, config, hop, henabled, by rw [handsOut?, ha]; rfl⟩
        · exact absurd h hold
  | explore m bytes => exact absurd h hold
  | invalidate name' =>
    rw [step_invalidate, Table.get?_erase] at h
    split at h
    · cases h
    · exact absurd h hold
  | shutdown => exact absurd h hold

/-- **A planner that is kept was handed out for its name**, and the name was not forgotten since. -/
theorem exists_keepsAt {s : Session σ} (h₀ : ∀ name, s.pool.planners.get? name = none)
    (ops : List Operation) {name : String} {n : Nat} :
    ∀ k ≤ ops.length, (s.after ops k).pool.planners.get? name = some n →
      ∃ i < k, s.KeepsAt ops i name n ∧ Undisturbed ops name i k := by
  intro k
  induction k with
  | zero =>
    intro _ h
    have hnone := h₀ name
    rw [show s.after ops 0 = s from rfl, hnone] at h
    cases h
  | succ k ih =>
    intro hk h
    have hop := List.getElem?_eq_getElem (show k < ops.length by omega)
    rw [s.after_succ hop] at h
    by_cases hold : (s.after ops k).pool.planners.get? name = some n
    · obtain ⟨i, hi, hkeeps, hu⟩ := ih (by omega) hold
      refine ⟨i, by omega, hkeeps, fun m him hmk he => ?_⟩
      rcases Nat.lt_or_eq_of_le (Nat.le_of_lt_succ hmk) with hlt | rfl
      · exact hu m him hlt he
      · -- a name that is forgotten has no planner afterwards
        rw [hop] at he
        rw [Option.some.inj he, step_invalidate, Table.get?_erase_self] at h
        cases h
    · refine ⟨k, by omega, ?_, fun m him hmk => absurd hmk (by omega)⟩
      exact keepsAt_of_step hop hold h

/-- What an operation hands out is behind it among the planners, and if it is to be kept, it is. -/
theorem KeepsAt.kept {s : Session σ} {ops : List Operation} {i : Nat} {name : String} {n : Nat}
    (h : s.KeepsAt ops i name n) :
    (s.after ops (i + 1)).pool.planners.get? name = some n := by
  obtain ⟨family, space, config, hop, henabled, hout⟩ := h
  obtain ⟨pool, w, ha, he⟩ := step_of_handsOut? hout
  rw [s.after_succ hop, he]
  rcases ha.kept_or_own_or_first with ⟨-, hn, rfl, -⟩ | ⟨hno, -⟩ | ⟨-, -, hp, -⟩
  · exact hn
  · rw [henabled] at hno
    cases hno
  · rw [hp, Table.get?_insert_self]

/-- A planner that was handed out exists from then on. -/
theorem planner?_of_handsOut? {s : Session σ} (hs : s.Sound) {ops : List Operation} {i : Nat}
    {op : Operation} (hop : ops[i]? = some op) {n : Nat} (h : (s.after ops i).handsOut? op = some n)
    {k : Nat} (hik : i < k) (hk : k ≤ ops.length) :
    n < (s.after ops k).workspace.planners.length := by
  have hlt : n < (s.after ops (i + 1)).workspace.planners.length := by
    rw [s.after_succ hop]
    cases op with
    | allocate family space name config =>
      obtain ⟨pool, w, ha, he⟩ := step_of_handsOut? h
      rw [he]
      rcases ha.kept_or_own_or_first with ⟨-, hn, -, rfl⟩ | ⟨-, -, p, hw⟩ | ⟨-, -, -, p, hw⟩
      · exact (hs.after ops i).enrolled name n hn
      all_goals
        have hn := hw.number
        have hlen := hw.length
        dsimp only
        omega
    | explore m bytes => cases h
    | invalidate name => cases h
    | shutdown => cases h
  obtain ⟨p, hp⟩ := Workspace.planner?_eq_some_of_lt hlt
  obtain ⟨bytes, hb⟩ := explored_after hp k hik hk
  exact Workspace.lt_of_planner?_eq_some hb

/-! ## 5. The law of instances -/

/-- An allocation of a kept name hands out its planner, and changes NOTHING. -/
theorem step_of_kept {s : Session σ} {family : PlannerFamily} {space : Space} {name : String}
    {config : Table String} {n n' : Nat} (hn : s.pool.planners.get? name = some n)
    (henabled : Retention.enabled config = true)
    (h : s.handsOut? (.allocate family space name config) = some n') :
    n' = n ∧ s.step (.allocate family space name config) = s := by
  obtain ⟨pool, w, ha, he⟩ := step_of_handsOut? h
  rcases ha.kept_or_own_or_first with ⟨-, hn', rfl, rfl⟩ | ⟨hno, -⟩ | ⟨-, hnone, -⟩
  · rw [hn] at hn'
    cases hn'
    exact ⟨rfl, he⟩
  · rw [henabled] at hno
    cases hno
  · rw [hn] at hnone
    cases hnone

/-- An allocation that does not want its planner kept makes a fresh one, and that is all. -/
theorem step_of_single {s : Session σ} {family : PlannerFamily} {space : Space} {name : String}
    {config : Table String} {n : Nat} (henabled : Retention.enabled config = false)
    (h : s.handsOut? (.allocate family space name config) = some n) :
    n = s.workspace.planners.length ∧
      ∃ p, s.step (.allocate family space name config) =
        ⟨s.pool, { s.workspace with
          planners := s.workspace.planners ++ [p]
          calls := s.workspace.calls ++ [.allocate family.plannerType space] }⟩ := by
  rcases ha : s.pool.allocate family space name config s.workspace with ⟨result, pool, w⟩
  rw [handsOut?, ha] at h
  have he : s.step (.allocate family space name config) = ⟨pool, w⟩ := by rw [step, ha]
  rw [he]
  cases allocates_of_eq ha with
  | refused hx => cases h
  | single hx hr =>
    cases h
    exact ⟨rfl, _, rfl⟩
  | kept hx hr hn =>
    rw [Retention.extract_multiQuery hx, henabled] at hr
    cases hr
  | first hx hr hn =>
    rw [Retention.extract_multiQuery hx, henabled] at hr
    cases hr

/-- The first allocation of a name makes its planner and registers it where its options say. -/
theorem step_of_first {s : Session σ} (hs : s.Sound) {family : PlannerFamily} {space : Space}
    {name : String} {config : Table String} {n : Nat} (hnone : s.pool.planners.get? name = none)
    (henabled : Retention.enabled config = true)
    (h : s.handsOut? (.allocate family space name config) = some n) :
    n = s.workspace.planners.length ∧
      ∃ r options made, Retention.extract config = (.ok r, options) ∧ family.Makes space made ∧
        (s.step (.allocate family space name config)).pool.planners.get? name = some n ∧
        (s.step (.allocate family space name config)).pool.storagePaths.get? name = r.storeTo ∧
        (s.step (.allocate family space name config)).workspace.planner? n =
          some (made.prepare name options space) ∧
        (s.step (.allocate family space name config)).workspace.planners.length = n + 1 := by
  rcases ha : s.pool.allocate family space name config s.workspace with ⟨result, pool, w⟩
  rw [handsOut?, ha] at h
  have he : s.step (.allocate family space name config) = ⟨pool, w⟩ := by rw [step, ha]
  rw [he]
  cases allocates_of_eq ha with
  | refused hx => cases h
  | single hx hr =>
    rw [Retention.extract_multiQuery hx, henabled] at hr
    cases hr
  | kept hx hr hn =>
    rw [hnone] at hn
    cases hn
  | @first r options hx hr hn =>
    cases h
    have hb := build_enrolls s.pool.storage family space name options r.loadFrom s.workspace
    have hmade := construct_makes s.pool.storage family space r.loadFrom s.workspace
    refine ⟨hb.number, r, options, _, hx, hmade, ?_, ?_, ?_, ?_⟩
    · rw [planners_keep, Table.get?_insert_self]
    · rw [storagePaths_keep, if_pos rfl, hs.kept name hn, Option.or_none]
    · rw [hb.planner?, if_pos rfl]
    · rw [hb.length, hb.number]

/-- **A name has one instance at a time.**  In every run of a new pool, over any storage and in any
workspace:

1. if a planner was handed out to be kept under a name, and the name was not forgotten since, then
   the next allocation of the name that wants its planner kept hands out the SAME planner and leaves
   pool, planners, storage and record as they are;
2. the first such allocation makes one planner, with a new number; as long as the name is not
   forgotten, this planner is kept under it, is registered where the options of the first allocation
   say, and is what its family made, set up with the remaining options of the first allocation,
   whatever it explored; so the parameters in force are those among these options that it accepts,
   and which ones these are does not depend on what was loaded, if the family is uniform;
3. an allocation that does not want its planner kept hands out a planner unlike all those handed out
   before, loads nothing, whatever its options say, and leaves the pool as it is;
4. planners kept under different names are different;
5. a name with a path to store at has a planner. -/
theorem one_instance_per_name (storage : Storage σ) (w : Workspace σ) (ops : List Operation) :
    (∀ i j name n n', i < j → (new storage w).KeepsAt ops i name n →
      (new storage w).KeepsAt ops j name n' → Undisturbed ops name i j →
      n' = n ∧ (new storage w).after ops (j + 1) = (new storage w).after ops j) ∧
    (∀ i family space name config n, ops[i]? = some (.allocate family space name config) →
      Retention.enabled config = true →
      ((new storage w).after ops i).handsOut? (.allocate family space name config) = some n →
      (∀ j n', j < i → (new storage w).KeepsAt ops j name n' → ¬ Undisturbed ops name j i) →
      n = ((new storage w).after ops i).workspace.planners.length ∧
      ((new storage w).after ops (i + 1)).workspace.planners.length = n + 1 ∧
      ∃ r options made, Retention.extract config = (.ok r, options) ∧ family.Makes space made ∧
        ∀ k, i < k → k ≤ ops.length → Undisturbed ops name i k →
          ((new storage w).after ops k).pool.planners.get? name = some n ∧
          ((new storage w).after ops k).pool.storagePaths.get? name = r.storeTo ∧
          ∃ p bytes, ((new storage w).after ops k).workspace.planner? n = some p ∧
            p = (made.prepare name options space).explore bytes ∧
            (∀ key, p.params.get? key =
              ((options.get? key).filter (made.accepts key)).or (made.params.get? key)) ∧
            (family.Uniform → ∀ key, p.params.get? key =
              ((options.get? key).filter ((family.allocate space).accepts key)).or
                ((family.allocate space).params.get? key))) ∧
    (∀ i family space name config n, ops[i]? = some (.allocate family space name config) →
      Retention.enabled config = false →
      ((new storage w).after ops i).handsOut? (.allocate family space name config) = some n →
      (∀ j op n', j < i → ops[j]? = some op →
        ((new storage w).after ops j).handsOut? op = some n' → n ≠ n') ∧
      ((new storage w).after ops (i + 1)).pool = ((new storage w).after ops i).pool ∧
      ((new storage w).after ops (i + 1)).workspace.contents =
        ((new storage w).after ops i).workspace.contents ∧
      ((new storage w).after ops (i + 1)).workspace.calls =
        ((new storage w).after ops i).workspace.calls ++ [.allocate family.plannerType space]) ∧
    (∀ k name name' n, ((new storage w).after ops k).pool.planners.get? name = some n →
      ((new storage w).after ops k).pool.planners.get? name' = some n → name = name') ∧
    (∀ k name path, ((new storage w).after ops k).pool.storagePaths.get? name = some path →
      ∃ n, ((new storage w).after ops k).pool.planners.get? name = some n) := by
  have hs := Sound.new storage w
  refine ⟨?again, ?first, ?single, ?distinct, ?registered⟩
  case again =>
    intro i j name n n' hij hi ⟨family, space, config, hop, henabled, hout⟩ hu
    have hj : j < ops.length := (List.getElem?_eq_some_iff.mp hop).1
    obtain ⟨hn, -⟩ := keeps_after hi.kept j hij (by omega) hu
    obtain ⟨rfl, hstep⟩ := step_of_kept hn henabled hout
    exact ⟨rfl, by rw [after_succ _ hop, hstep]⟩
  case first =>
    intro i family space name config n hop henabled hout hfirst
    have hi : i < ops.length := (List.getElem?_eq_some_iff.mp hop).1
    have hnone : ((new storage w).after ops i).pool.planners.get? name = none := by
      refine Option.eq_none_iff_forall_ne_some.mpr fun m hm => ?_
      obtain ⟨j, hj, hkeeps, hu⟩ := exists_keepsAt (fun _ => rfl) ops i (by omega) hm
      exact hfirst j m hj hkeeps hu
    obtain ⟨hn, r, options, made, hx, hmade, hkept, hpath, hplanner, hlen⟩ :=
      step_of_first (hs.after ops i) hnone henabled hout
    rw [← after_succ _ hop] at hkept hpath hplanner hlen
    refine ⟨hn, hlen, r, options, made, hx, hmade, fun k hik hk hu => ?_⟩
    obtain ⟨hkept', hpath'⟩ := keeps_after hkept k hik hk hu
    obtain ⟨bytes, hb⟩ := explored_after hplanner k hik hk
    have hparams : ∀ key, ((made.prepare name options space).explore bytes).params.get? key =
        ((options.get? key).filter (made.accepts key)).or (made.params.get? key) := by
      intro key
      rw [Planner.params_explore, Planner.params_prepare]
    refine ⟨hkept', hpath'.trans hpath, _, bytes, hb, rfl, hparams, fun hf key => ?_⟩
    rw [hparams, hmade.eq hf]
    rfl
  case single =>
    intro i family space name config n hop henabled hout
    have hi : i < ops.length := (List.getElem?_eq_some_iff.mp hop).1
    obtain ⟨hn, p, hstep⟩ := step_of_single henabled hout
    rw [← after_succ _ hop] at hstep
    refine ⟨fun j op n' hji hop' hout' => ?_, ?_⟩
    · have hlt := planner?_of_handsOut? hs hop' hout' hji (by omega)
      omega
    · rw [hstep]
      exact ⟨rfl, rfl, rfl⟩
  case distinct =>
    intro k name name' n hn hn'
    have hd : ((new storage w).after ops k).pool.Distinct ((new storage w).after ops k).workspace :=
      Distinct.run (Distinct.new storage w) _
    exact hd.injective name name' n hn hn'
  case registered =>
    intro k name path hp
    rcases hn : ((new storage w).after ops k).pool.planners.get? name with _ | n
    · rw [(hs.after ops k).kept name hn] at hp
      cases hp
    · exact ⟨n, rfl⟩

open Sample in
/-- A name is allocated twice, once with a place for the data and once for another space; then comes
a planner that is not kept, although a load is wanted, and the name is forgotten and allocated again. -/
def reusedRun : List Operation :=
  [.allocate roadmaps ⟨"JointModel", "arm"⟩ "arm" (keptAt "arm.graph"),
    .allocate roadmaps ⟨"PoseModel", "arm"⟩ "arm" kept,
    .allocate roadmaps ⟨"JointModel", "arm"⟩ "arm" (.ofList [(Retention.loadKey, "1")]),
    .invalidate "arm", .allocate roadmaps ⟨"PoseModel", "arm"⟩ "arm" kept]

open Sample in
theorem one_instance_per_name_reusedRun :
    (new .memory { contents := ∅ }).after reusedRun 2 =
      (new .memory { contents := ∅ }).after reusedRun 1 ∧
    ((new .memory { contents := ∅ }).after reusedRun 3).pool.storagePaths.get? "arm" =
      some ⟨"arm.graph"⟩ ∧
    ((new .memory { contents := ∅ }).after reusedRun 3).pool =
      ((new .memory { contents := ∅ }).after reusedRun 2).pool ∧
    ((new .memory { contents := ∅ }).after reusedRun 5).workspace.planners.length = 3 ∧
    ∃ n, ((new .memory { contents := ∅ }).after reusedRun 3).pool.planners.get? "arm" = some n := by
  obtain ⟨h₁, h₂, h₃, -, h₅⟩ := one_instance_per_name .memory { contents := ∅ } reusedRun
  have hundisturbed : ∀ {i k}, k ≤ 3 → Undisturbed reusedRun "arm" i k := by
    intro i k hk m _ hmk he
    have hm : m = 0 ∨ m = 1 ∨ m = 2 := by omega
    rcases hm with rfl | rfl | rfl <;> cases he
  refine ⟨?again, ?first, ?single, ?renewed, ?registered⟩
  case again =>
    exact (h₁ 0 1 "arm" 0 0 (by decide) ⟨_, _, _, rfl, by decide, rfl⟩
      ⟨_, _, _, rfl, by decide, rfl⟩ (hundisturbed (by decide))).2
  case first =>
    obtain ⟨-, -, r, options, made, hx, -, hkept⟩ :=
      h₂ 0 _ _ "arm" _ 0 rfl (by decide) rfl fun j _ hj => absurd hj (by omega)
    cases hx
    exact (hkept 3 (by decide) (by decide) (hundisturbed (by decide))).2.1
  case single => exact (h₃ 2 _ _ "arm" _ 1 rfl (by decide) rfl).2.1
  case renewed =>
    refine (h₂ 4 _ _ "arm" _ 2 rfl (by decide) rfl fun j n' hj hkeeps hu => ?_).2.1
    rcases Nat.lt_or_eq_of_le (Nat.le_of_lt_succ hj) with hlt | rfl
    · -- in front of the last allocation the name is forgotten
      exact hu 3 hlt (by decide) rfl
    · obtain ⟨_, _, _, hop, -⟩ := hkeeps
      cases hop
  case registered => exact h₅ 3 "arm" ⟨"arm.graph"⟩ rfl

end Session

end PlannerPool

end MotionContexts
