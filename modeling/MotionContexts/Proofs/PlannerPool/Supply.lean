/-
# What an allocation comes to, whatever the numbers are

An allocation reads little: the options, the storage and its contents, and whether a planner is kept
under the ONE name.  From these alone follows what it comes to (`supply`): the planner that is kept,
or a new one with the calls that make it, and with what is kept of it.  The rest is book-keeping: a
new planner gets the next number, its calls go to the end of the record.

Main statements:
* `allocate_eq_supply`, an allocation is its supply, entered in the books;
* `supply_congr`, what an allocation comes to depends on nothing else.
-/
import MotionContexts.Proofs.PlannerPool.Allocation

namespace MotionContexts

universe u

variable {σ : Type u}

/-- What an allocation comes to. -/
inductive Supply where
  /-- The planner that is kept. -/
  | kept (n : Nat)
  /-- A new planner and the calls that make it.  It may be kept, and then there may be a place for
  its data. -/
  | made (p : Planner) (calls : List Call) (keep : Option (Option Path))

namespace Supply

/-! ## 1. The books -/

/-- The new planner, if there is one. -/
def planners : Supply → List Planner
  | kept _ => []
  | made p _ _ => [p]

/-- The calls that it takes. -/
def calls : Supply → List Call
  | kept _ => []
  | made _ calls _ => calls

/-- Whether the planner is kept from now on. -/
def keeps : Supply → Bool
  | made _ _ (some _) => true
  | _ => false

/-- Where its data is to be stored. -/
def storeTo : Supply → Option Path
  | made _ _ (some storeTo) => storeTo
  | _ => none

/-- The number of the planner that is handed out. -/
def number (x : Supply) (w : Workspace σ) : Nat :=
  match x with
  | kept n => n
  | made _ _ _ => w.planners.length

/-- A new planner and its calls, entered in the workspace. -/
def enroll (x : Supply) (w : Workspace σ) : Workspace σ :=
  { w with planners := w.planners ++ x.planners, calls := w.calls ++ x.calls }

/-- A planner that is to be kept, entered in the pool. -/
def keepIn (x : Supply) (name : String) (n : Nat) (pool : PlannerPool σ) : PlannerPool σ :=
  match x with
  | made _ _ (some storeTo) => pool.keep name n storeTo
  | _ => pool

variable (x : Supply) (name : String) (n : Nat) (pool : PlannerPool σ)

@[simp] theorem storage_keepIn : (x.keepIn name n pool).storage = pool.storage := by
  unfold keepIn
  split
  · exact PlannerPool.storage_keep ..
  · rfl

theorem planners_keepIn (k : String) :
    (x.keepIn name n pool).planners.get? k =
      if k = name ∧ x.keeps = true then some n else pool.planners.get? k := by
  unfold keepIn
  split
  · rw [PlannerPool.planners_keep, Table.get?_insert]
    simp [keeps]
  · rename_i hno
    have hkeeps : ¬ (k = name ∧ x.keeps = true) := by
      rintro ⟨-, h⟩
      unfold keeps at h
      split at h
      · exact hno _ _ _ rfl
      · cases h
    rw [if_neg hkeeps]

theorem storagePaths_keepIn (k : String) :
    (x.keepIn name n pool).storagePaths.get? k =
      if k = name then x.storeTo.or (pool.storagePaths.get? k) else pool.storagePaths.get? k := by
  unfold keepIn storeTo
  split
  · exact PlannerPool.storagePaths_keep ..
  · rw [Option.none_or, ite_self]

theorem flushed_keepIn :
    (x.keepIn name n pool).flushed = (x.storeTo.isNone && pool.flushed) := by
  unfold keepIn storeTo
  split
  · exact PlannerPool.flushed_keep ..
  · rfl

end Supply

/-! ## 2. Supplies -/

namespace PlannerPool

/-- Of the workspace, making a planner reads nothing but the contents. -/
theorem construct_eq (s : Storage σ) (family : PlannerFamily) (space : Space)
    (loadFrom : Option Path) (w : Workspace σ) :
    construct s family space loadFrom w =
      let made := construct s family space loadFrom { contents := w.contents }
      (made.1, { w with calls := w.calls ++ made.2.calls }) := by
  cases loadFrom with
  | none => rfl
  | some path =>
    unfold construct seed? Workspace.load
    dsimp only
    cases s.load path w.contents with
    | error e => simp [fresh, Workspace.record]
    | ok data =>
      dsimp only
      cases data.ensureType family.plannerType with
      | error e => simp [fresh, Workspace.record]
      | ok _ =>
        dsimp only
        cases family.allocateWithData space data <;> simp [fresh, Workspace.record]

/-- A planner made over these contents and set up. -/
def make (s : Storage σ) (family : PlannerFamily) (space : Space) (name : String)
    (options : Table String) (loadFrom : Option Path) (keep : Option (Option Path)) (contents : σ) :
    Supply :=
  let (p, w) := construct s family space loadFrom { contents := contents }
  .made (p.prepare name options space) w.calls keep

theorem build_eq_make (s : Storage σ) (family : PlannerFamily) (space : Space) (name : String)
    (options : Table String) (loadFrom : Option Path) (keep : Option (Option Path))
    (w : Workspace σ) :
    build s family space name options loadFrom w =
      let x := make s family space name options loadFrom keep w.contents
      (x.number w, x.enroll w) := by
  unfold build
  rw [construct_eq]
  rfl

/-- What an allocation comes to, over these contents. -/
def supply (pool : PlannerPool σ) (family : PlannerFamily) (space : Space) (name : String)
    (config : Table String) (contents : σ) : Except ResolutionError Supply :=
  match Retention.extract config with
  | (.error e, _) => .error e
  | (.ok r, options) =>
    if r.multiQuery then
      match pool.planners.get? name with
      | some n => .ok (.kept n)
      | none =>
        .ok (make pool.storage family space name options r.loadFrom (some r.storeTo) contents)
    else .ok (make pool.storage family space name options none none contents)

/-- **An allocation is its supply**, entered in the books. -/
theorem allocate_eq_supply (pool : PlannerPool σ) (family : PlannerFamily) (space : Space)
    (name : String) (config : Table String) (w : Workspace σ) :
    pool.allocate family space name config w =
      match pool.supply family space name config w.contents with
      | .error e => (.error e, pool, w)
      | .ok x => (.ok (x.number w), x.keepIn name (x.number w) pool, x.enroll w) := by
  unfold allocate supply
  rcases Retention.extract config with ⟨e | r, options⟩
  · rfl
  · dsimp only
    cases r.multiQuery with
    | false =>
      rw [build_eq_make pool.storage family space name options none none w]
      rfl
    | true =>
      cases pool.planners.get? name with
      | some n => simp [Supply.number, Supply.keepIn, Supply.enroll, Supply.planners, Supply.calls]
      | none =>
        rw [build_eq_make pool.storage family space name options r.loadFrom (some r.storeTo) w]
        rfl

/-- **What an allocation comes to depends on nothing else** than the storage and the planner that is
kept under the name. -/
theorem supply_congr {pool pool' : PlannerPool σ} {name : String}
    (hstorage : pool'.storage = pool.storage)
    (hkept : pool'.planners.get? name = pool.planners.get? name) (family : PlannerFamily)
    (space : Space) (config : Table String) (contents : σ) :
    pool'.supply family space name config contents =
      pool.supply family space name config contents := by
  unfold supply
  rw [hstorage, hkept]

/-- A kept planner is the one under the name. -/
theorem get?_of_supply {pool : PlannerPool σ} {family : PlannerFamily} {space : Space}
    {name : String} {config : Table String} {contents : σ} {n : Nat}
    (h : pool.supply family space name config contents = .ok (.kept n)) :
    pool.planners.get? name = some n := by
  unfold supply at h
  split at h
  · cases h
  · split at h
    · split at h
      · rename_i hn
        cases h
        exact hn
      · cases h
    · cases h

end PlannerPool

end MotionContexts
