/-
# When a new planner starts from stored data

A new planner is SEEDED if it starts from stored data.  Six things have to come together for that:
the options want the planner kept, they want it loaded, they give a path, something can be loaded
from the path, it is marked with the type of the planner family, and the family can start from it.
The first three are read off the options (`LoadsFrom`) and decide whether the storage is asked at
all.  The last three may fail one by one, and it is the same wherever they fail: the family makes a
fresh planner, as if nobody had wanted to load.

Whether the planner's data is to be stored is read off the options too (`StoresTo`), and the
seeding has no say in it.

Main statements:
* `exists_constructs`, the five ways to make a planner, each with its record;
* `seeded_exactly_if`, when a new planner is seeded, what is asked for on the way, and where its
  data is to be stored.
-/
import MotionContexts.Proofs.Options
import MotionContexts.Proofs.Planner
import MotionContexts.Proofs.PlannerPool.Session

namespace MotionContexts

universe u

variable {σ : Type u}

/-! ## 1. What the options want -/

namespace Retention

/-- The flag is among the options and reads as true. -/
def IsSet (options : Table String) (key : String) : Prop :=
  (options.get? key).bind flag? = some true

/-- The options give the path.  It is the value AS IT STANDS, and a blank value gives none. -/
def GivesPath (options : Table String) (path : Path) : Prop :=
  options.get? pathKey = some path.text ∧ Text.blank path.text.toList = false

instance (options : Table String) (key : String) : Decidable (IsSet options key) :=
  inferInstanceAs (Decidable (_ = _))

instance (options : Table String) (path : Path) : Decidable (GivesPath options path) :=
  inferInstanceAs (Decidable (_ ∧ _))

/-- The options want the planner kept, and started from the data at the path. -/
structure LoadsFrom (options : Table String) (path : Path) : Prop where
  multiQuery : IsSet options multiQueryKey
  load : IsSet options loadKey
  path : GivesPath options path

/-- The options want the planner kept, and its data stored at the path. -/
structure StoresTo (options : Table String) (path : Path) : Prop where
  multiQuery : IsSet options multiQueryKey
  store : IsSet options storeKey
  path : GivesPath options path

theorem isSet_of_readFlag {key : String} {options : Table String} {b : Bool}
    (h : readFlag key options = .ok b) : b = true ↔ IsSet options key := by
  rw [of_readFlag_ok h, beq_iff_eq]
  rfl

/-- **The four options that are read are the ones among the options**. -/
theorem fields_of_extract {options rest : Table String} {r : Retention}
    (h : extract options = (.ok r, rest)) :
    (r.multiQuery = true ↔ IsSet options multiQueryKey) ∧
    (r.load = true ↔ IsSet options loadKey) ∧
    (r.store = true ↔ IsSet options storeKey) ∧
    ∀ path, r.path = some path ↔ GivesPath options path := by
  cases extracts_of_eq h with
  | read hm hl hs =>
    exact ⟨isSet_of_readFlag hm, isSet_of_readFlag hl, isSet_of_readFlag hs,
      pathOf?_eq_some_iff (options.get? pathKey)⟩

theorem loadFrom_eq_some_iff {options rest : Table String} {r : Retention}
    (h : extract options = (.ok r, rest)) (hr : r.multiQuery = true) (path : Path) :
    r.loadFrom = some path ↔ LoadsFrom options path := by
  obtain ⟨hm, hl, -, hp⟩ := fields_of_extract h
  unfold loadFrom
  constructor
  · intro hload
    split at hload
    · rename_i hset
      exact ⟨hm.mp hr, hl.mp hset, (hp path).mp hload⟩
    · cases hload
  · intro hwants
    rw [if_pos (hl.mpr hwants.load)]
    exact (hp path).mpr hwants.path

theorem storeTo_eq_some_iff {options rest : Table String} {r : Retention}
    (h : extract options = (.ok r, rest)) (path : Path) :
    r.multiQuery = true ∧ r.storeTo = some path ↔ StoresTo options path := by
  obtain ⟨hm, -, hs, hp⟩ := fields_of_extract h
  unfold storeTo
  constructor
  · rintro ⟨hr, hstore⟩
    split at hstore
    · rename_i hset
      exact ⟨hm.mp hr, hs.mp hset, (hp path).mp hstore⟩
    · cases hstore
  · intro hwants
    rw [if_pos (hs.mpr hwants.store)]
    exact ⟨hm.mpr hwants.multiQuery, (hp path).mpr hwants.path⟩

end Retention

/-! ## 2. The five ways to make a planner -/

/-- Planners that start from data carry the mark, and fresh ones do not. -/
structure PlannerFamily.Marks (f : PlannerFamily) : Prop where
  fresh : ∀ space, (f.allocate space).seeded = false
  started : ∀ space data p, f.allocateWithData space data = .ok p → p.seeded = true

namespace Call

/-- Whether a family is asked for a fresh planner. -/
def isFresh : Call → Bool
  | .allocate _ _ => true
  | _ => false

/-- Whether a family is asked for a planner that starts from data. -/
def isSeeding : Call → Bool
  | .allocateWithData _ _ => true
  | _ => false

/-- The place that a storage is asked to load from, and what it answers. -/
def load? : Call → Option (Path × Except DataError PlannerData)
  | .load path outcome => some (path, outcome)
  | _ => none

end Call

namespace PlannerPool

/-- The ways to make a planner over some contents, each with the planner and the record. -/
inductive Constructs (s : Storage σ) (family : PlannerFamily) (space : Space) (c : σ) :
    Option Path → Planner → List Call → Prop
  /-- Nothing is to be loaded. -/
  | unasked : Constructs s family space c none (family.allocate space)
    [.allocate family.plannerType space]
  /-- Nothing can be loaded. -/
  | unloaded {path : Path} {e : DataError} (h : s.load path c = .error e) :
    Constructs s family space c (some path) (family.allocate space)
      [.load path (.error e), .allocate family.plannerType space]
  /-- The data is marked with another type. -/
  | foreign {path : Path} {data : PlannerData} (h : s.load path c = .ok data)
    (htype : data.plannerType ≠ family.plannerType) :
    Constructs s family space c (some path) (family.allocate space)
      [.load path (.ok data), .allocate family.plannerType space]
  /-- The family cannot start from the data. -/
  | unusable {path : Path} {data : PlannerData} {e : DataError} (h : s.load path c = .ok data)
    (htype : data.plannerType = family.plannerType)
    (hdata : family.allocateWithData space data = .error e) :
    Constructs s family space c (some path) (family.allocate space)
      [.load path (.ok data), .allocateWithData family.plannerType space,
        .allocate family.plannerType space]
  /-- The planner starts from the data. -/
  | seeded {path : Path} {data : PlannerData} {p : Planner} (h : s.load path c = .ok data)
    (htype : data.plannerType = family.plannerType)
    (hdata : family.allocateWithData space data = .ok p) :
    Constructs s family space c (some path) p
      [.load path (.ok data), .allocateWithData family.plannerType space]

/-- **Making a planner is one of the five.** -/
theorem exists_constructs (s : Storage σ) (family : PlannerFamily) (space : Space)
    (loadFrom : Option Path) (w : Workspace σ) :
    ∃ calls, Constructs s family space w.contents loadFrom
        (construct s family space loadFrom w).1 calls ∧
      (construct s family space loadFrom w).2 = { w with calls := w.calls ++ calls } := by
  cases loadFrom with
  | none => exact ⟨_, .unasked, rfl⟩
  | some path =>
    unfold construct seed? Workspace.load
    dsimp only
    cases h : s.load path w.contents with
    | error e => exact ⟨_, .unloaded h, by simp [fresh, Workspace.record]⟩
    | ok data =>
      dsimp only
      cases htype : data.ensureType family.plannerType with
      | error e =>
        have hne : data.plannerType ≠ family.plannerType := by
          intro he
          rw [(data.ensureType_eq_ok_iff _).mpr he] at htype
          cases htype
        exact ⟨_, .foreign h hne, by simp [fresh, Workspace.record]⟩
      | ok _ =>
        have heq := (data.ensureType_eq_ok_iff family.plannerType).mp htype
        dsimp only
        cases hdata : family.allocateWithData space data with
        | error e => exact ⟨_, .unusable h heq hdata, by simp [fresh, Workspace.record]⟩
        | ok p => exact ⟨_, .seeded h heq hdata, by simp [Workspace.record]⟩

/-- The options want a start from the path, the path holds data of the family's type, and this is
the planner that the family starts from it. -/
structure Seeds (s : Storage σ) (family : PlannerFamily) (space : Space) (options : Table String)
    (c : σ) (path : Path) (data : PlannerData) (p : Planner) : Prop where
  wanted : Retention.LoadsFrom options path
  loaded : s.load path c = .ok data
  fit : data.plannerType = family.plannerType
  started : family.allocateWithData space data = .ok p

section Constructs

variable {s : Storage σ} {family : PlannerFamily} {space : Space} {options : Table String} {c : σ}
  {loadFrom : Option Path} {made : Planner} {calls : List Call}

/-- The planner is made from exactly the data that is there, and no fresh one is asked for. -/
theorem Constructs.of_seeds (h : Constructs s family space c loadFrom made calls)
    (hload : ∀ path, loadFrom = some path ↔ Retention.LoadsFrom options path) {path : Path}
    {data : PlannerData} {p : Planner} (hs : Seeds s family space options c path data p) :
    made = p ∧ calls = [.load path (.ok data), .allocateWithData family.plannerType space] := by
  have hpath := (hload path).mpr hs.wanted
  cases h with
  | unasked => cases hpath
  | unloaded h =>
    cases hpath
    rw [hs.loaded] at h
    cases h
  | foreign h htype =>
    cases hpath
    rw [hs.loaded] at h
    cases h
    exact absurd hs.fit htype
  | unusable h htype hdata =>
    cases hpath
    rw [hs.loaded] at h
    cases h
    rw [hs.started] at hdata
    cases hdata
  | seeded h htype hdata =>
    cases hpath
    rw [hs.loaded] at h
    cases h
    rw [hs.started] at hdata
    cases hdata
    exact ⟨rfl, rfl⟩

/-- **Where the planner is not seeded**, whatever is missing, one fresh planner is asked for, at the
end. -/
theorem Constructs.of_not_seeds (h : Constructs s family space c loadFrom made calls)
    (hload : ∀ path, loadFrom = some path ↔ Retention.LoadsFrom options path)
    (hs : ¬ ∃ path data p, Seeds s family space options c path data p) :
    made = family.allocate space ∧ ∃ before, calls = before ++ [.allocate family.plannerType space] ∧
      before.countP Call.isFresh = 0 := by
  cases h with
  | unasked => exact ⟨rfl, [], rfl, rfl⟩
  | unloaded h => exact ⟨rfl, [_], rfl, rfl⟩
  | foreign h htype => exact ⟨rfl, [_], rfl, rfl⟩
  | unusable h htype hdata => exact ⟨rfl, [_, _], rfl, rfl⟩
  | seeded h htype hdata => exact absurd ⟨_, _, _, (hload _).mp rfl, h, htype, hdata⟩ hs

/-- What is loaded: the place that is given, once, or nothing. -/
theorem Constructs.loads (h : Constructs s family space c loadFrom made calls) :
    calls.filterMap Call.load? = loadFrom.toList.map fun path => (path, s.load path c) := by
  cases h with
  | unasked => rfl
  | unloaded h | foreign h htype | unusable h htype hdata | seeded h htype hdata =>
    simp [Call.load?, h]

/-- A start from data is asked for once at most, and only behind a load of data of the type. -/
theorem Constructs.of_seeding (h : Constructs s family space c loadFrom made calls) :
    calls.countP Call.isSeeding ≤ 1 ∧
      ∀ t sp, .allocateWithData t sp ∈ calls →
        t = family.plannerType ∧ sp = space ∧ ∃ path data, loadFrom = some path ∧
          s.load path c = .ok data ∧ data.plannerType = family.plannerType ∧
          calls.head? = some (.load path (.ok data)) := by
  cases h with
  | unasked | unloaded h | foreign h htype =>
    refine ⟨Nat.zero_le 1, fun t sp hmem => ?_⟩
    simp at hmem
  | unusable h htype hdata | seeded h htype hdata =>
    refine ⟨Nat.le_refl 1, fun t sp hmem => ?_⟩
    obtain ⟨rfl, rfl⟩ : t = family.plannerType ∧ sp = space := by simpa using hmem
    exact ⟨rfl, rfl, _, _, rfl, h, htype, rfl⟩

end Constructs

/-! ## 3. What an allocation constructs -/

section Allocates

variable {pool pool' : PlannerPool σ} {family : PlannerFamily} {space : Space} {name : String}
  {config : Table String} {w w' : Workspace σ} {n : Nat}

/-- **An allocation that makes a planner** makes it in one of the five ways, from the place that the
options want it loaded from; the planner is set up with the options that are left, and that is all
that the workspace sees. -/
theorem Allocates.constructs (h : Allocates pool family space name config w (.ok n) pool' w')
    (hnew : w'.planners ≠ w.planners) :
    ∃ loadFrom made calls, (∀ path, loadFrom = some path ↔ Retention.LoadsFrom config path) ∧
      Constructs pool.storage family space w.contents loadFrom made calls ∧
      n = w.planners.length ∧
      w' = { w with
        planners := w.planners ++ [made.prepare name (config.without Retention.keys) space]
        calls := w.calls ++ calls } := by
  cases h with
  | @single r options hx hr =>
    obtain ⟨calls, hmade, hcalls⟩ := exists_constructs pool.storage family space none w
    have hnowhere : ∀ path, ¬ Retention.LoadsFrom config path := by
      intro path hwants
      rw [(Retention.fields_of_extract hx).1.mpr hwants.multiQuery] at hr
      cases hr
    refine ⟨none, _, calls, fun path => ?_, hmade, ?_⟩
    · simp [hnowhere path]
    · unfold build
      rw [← Retention.of_extract_ok hx]
      dsimp only
      rw [hcalls]
      exact ⟨rfl, rfl⟩
  | kept hx hr hn => exact absurd rfl hnew
  | @first r options hx hr hn =>
    obtain ⟨calls, hmade, hcalls⟩ := exists_constructs pool.storage family space r.loadFrom w
    refine ⟨r.loadFrom, _, calls, Retention.loadFrom_eq_some_iff hx hr, hmade, ?_⟩
    unfold build
    rw [← Retention.of_extract_ok hx]
    dsimp only
    rw [hcalls]
    exact ⟨rfl, rfl⟩

/-- **The planner that it makes is registered** where the options want its data stored, and under no
other name. -/
theorem Allocates.registered_iff
    (h : pool.allocate family space name config w = (.ok n, pool', w'))
    (hs : (⟨pool, w⟩ : Session σ).Sound) (hnew : w'.planners ≠ w.planners) (other : String)
    (path : Path) :
    (⟨pool', w'⟩ : Session σ).Registered other path n ↔
      other = name ∧ Retention.StoresTo config path := by
  have hstep : (⟨pool, w⟩ : Session σ).step (.allocate family space name config) = ⟨pool', w'⟩ := by
    rw [Session.step, h]
  have ha := allocates_of_eq h
  obtain ⟨-, -, -, -, -, hn, -⟩ := ha.constructs hnew
  -- the number is new, so nothing was registered with it
  have hold : ¬ (⟨pool, w⟩ : Session σ).Registered other path n := by
    intro hr
    have hlt := hs.enrolled other n hr.1
    exact absurd hn (Nat.ne_of_lt hlt)
  rw [← hstep, Session.registered_step_iff hs]
  cases ha with
  | single hx hr =>
    rw [Session.place?_allocate_iff hx, ← Retention.storeTo_eq_some_iff hx]
    simp [hold, hr]
  | kept hx hr hnone => exact absurd rfl hnew
  | first hx hr hnone =>
    rw [Session.place?_allocate_iff hx, ← Retention.storeTo_eq_some_iff hx]
    constructor
    · rintro (⟨hr, -⟩ | ⟨⟨hm, rfl, hp⟩, -⟩)
      · exact absurd hr hold
      · exact ⟨rfl, hm, hp⟩
    · rintro ⟨rfl, hm, hp⟩
      exact .inr ⟨⟨hm, rfl, hp⟩, hnone, hn⟩

end Allocates

/-! ## 4. The theorem -/

namespace Session

/-- **When a new planner is seeded.**  Whenever a pool, behind any run and over whatever its storage
holds by then, hands out a planner that was not there before:

1. it was made just now, set up with what the four options leave, and nothing was stored;
2. if the options want it loaded from a path, data of the family's type is there, and the family can
   start from it, then it is the planner that starts from exactly this data, and no fresh one is
   asked for;
3. otherwise, whichever of these is missing, it is a fresh one, asked for once and at the end;
4. so a family that marks what it starts from data has marked it exactly in the first case;
5. the storage is asked once, for this path, if the options want it loaded, and not at all if they do
   not;
6. the family is asked for a start from data once at most, behind a load of data of its type;
7. the planner is registered exactly where the options want its data stored, under its name and no
   other; whether it is seeded makes no difference. -/
theorem seeded_exactly_if (storage : Storage σ) (w₀ : Workspace σ) (ops : List Operation)
    (contents : σ) {family : PlannerFamily} {space : Space} {name : String} {config : Table String}
    {n : Nat} {pool' : PlannerPool σ} {w' : Workspace σ} :
    let s := (new storage w₀).run ops
    let w : Workspace σ := { s.workspace with contents := contents }
    let seeds := Seeds storage family space config contents
    s.pool.allocate family space name config w = (.ok n, pool', w') → w'.planners ≠ w.planners →
    ∃ made calls, n = w.planners.length ∧
      w' = { w with
        planners := w.planners ++ [made.prepare name (config.without Retention.keys) space]
        calls := w.calls ++ calls } ∧
      (∀ path data p, seeds path data p → made = p ∧ calls.countP Call.isFresh = 0) ∧
      ((¬ ∃ path data p, seeds path data p) → made = family.allocate space ∧
        calls.countP Call.isFresh = 1 ∧
        calls.getLast? = some (.allocate family.plannerType space)) ∧
      (family.Marks → ∃ p, w'.planner? n = some p ∧
        (p.seeded = true ↔ ∃ path data p, seeds path data p)) ∧
      (∀ path, Retention.LoadsFrom config path →
        calls.filterMap Call.load? = [(path, storage.load path contents)]) ∧
      ((¬ ∃ path, Retention.LoadsFrom config path) → calls.filterMap Call.load? = []) ∧
      calls.countP Call.isSeeding ≤ 1 ∧
      (∀ t sp, .allocateWithData t sp ∈ calls → t = family.plannerType ∧ sp = space ∧
        ∃ path data, Retention.LoadsFrom config path ∧ storage.load path contents = .ok data ∧
          data.plannerType = family.plannerType ∧
          calls.head? = some (.load path (.ok data))) ∧
      ∀ other path, (⟨pool', w'⟩ : Session σ).Registered other path n ↔
        other = name ∧ Retention.StoresTo config path := by
  intro s w seeds h hnew
  have hstorage : s.pool.storage = storage := storage_run (new storage w₀) ops
  have hs : (⟨s.pool, w⟩ : Session σ).Sound := ((Sound.new storage w₀).run ops).over contents
  obtain ⟨loadFrom, made, calls, hload, hmade, hn, hw⟩ := (allocates_of_eq h).constructs hnew
  rw [hstorage] at hmade
  obtain ⟨hcount, hseeding⟩ := hmade.of_seeding
  refine ⟨made, calls, hn, hw, ?seeded, ?fresh, ?marked, ?loads, ?loadsNothing, hcount, ?seeding,
    Allocates.registered_iff h hs hnew⟩
  case seeded =>
    intro path data p hseeds
    obtain ⟨rfl, rfl⟩ := hmade.of_seeds hload hseeds
    exact ⟨rfl, rfl⟩
  case fresh =>
    intro hno
    obtain ⟨rfl, before, rfl, hbefore⟩ := hmade.of_not_seeds hload hno
    refine ⟨rfl, ?_, List.getLast?_concat⟩
    rw [List.countP_append, hbefore]
    rfl
  case marked =>
    intro hmarks
    refine ⟨made.prepare name (config.without Retention.keys) space, ?_, ?_⟩
    · rw [hw, hn]
      exact List.getElem?_concat_length
    · rw [Planner.prepare_eq]
      dsimp only
      constructor
      · intro hseeded
        refine Classical.byContradiction fun hno => ?_
        obtain ⟨rfl, -⟩ := hmade.of_not_seeds hload hno
        rw [hmarks.fresh] at hseeded
        cases hseeded
      · rintro ⟨path, data, p, hseeds⟩
        obtain ⟨rfl, -⟩ := hmade.of_seeds hload hseeds
        exact hmarks.started space data made hseeds.started
  case loads =>
    intro path hwants
    rw [hmade.loads, (hload path).mpr hwants]
    rfl
  case loadsNothing =>
    intro hno
    have hnone : loadFrom = none := by
      refine Option.eq_none_iff_forall_ne_some.mpr fun path hpath => ?_
      exact hno ⟨path, (hload path).mp hpath⟩
    rw [hmade.loads, hnone]
    rfl
  case seeding =>
    intro t sp hmem
    obtain ⟨ht, hsp, path, data, hpath, hloaded, htype, hhead⟩ := hseeding t sp hmem
    exact ⟨ht, hsp, path, data, (hload path).mp hpath, hloaded, htype, hhead⟩

open Sample in
/-- A pool that keeps a planner under another name. -/
def legRun : List Operation := [.allocate roadmaps ⟨"JointModel", "leg"⟩ "leg" kept]

open Sample in
/-- The options give a path with blanks around it, and that is where the data is looked for: it is
found there, and it is not found at the path without the blanks. -/
theorem seeded_exactly_if_blankEdges :
    let s := (new .memory { contents := ∅ }).run legRun
    let config := resumedAt " arm.graph "
    let found : Workspace Blobs :=
      { s.workspace with contents := Blobs.store ⟨"roadmap", [1, 2]⟩ ⟨" arm.graph "⟩ ∅ }
    let missed : Workspace Blobs :=
      { s.workspace with contents := Blobs.store ⟨"roadmap", [1, 2]⟩ ⟨"arm.graph"⟩ ∅ }
    (∃ pool' w', s.pool.allocate resuming ⟨"JointModel", "arm"⟩ "arm" config found =
        (.ok 1, pool', w') ∧ w'.planners ≠ found.planners ∧
      (∃ p, w'.planner? 1 = some p ∧ p.seeded = true ∧ p.graph = [1, 2]) ∧
      (⟨pool', w'⟩ : Session Blobs).Registered "arm" ⟨" arm.graph "⟩ 1) ∧
    ∃ pool' w', s.pool.allocate resuming ⟨"JointModel", "arm"⟩ "arm" config missed =
        (.ok 1, pool', w') ∧ w'.planners ≠ missed.planners ∧
      (∃ p, w'.planner? 1 = some p ∧ p.seeded = false ∧ p.graph = []) ∧
      (⟨pool', w'⟩ : Session Blobs).Registered "arm" ⟨" arm.graph "⟩ 1 := by
  intro s config found missed
  have hstores : Retention.StoresTo config ⟨" arm.graph "⟩ :=
    ⟨by decide, by decide, by decide⟩
  have hmarks : resuming.Marks := by
    refine ⟨fun _ => rfl, fun space data p h => ?_⟩
    cases h
    rfl
  have hgrown : ∀ (l : List Planner) (p : Planner), l ++ [p] ≠ l := by
    intro l p h
    simpa using congrArg List.length h
  have hfound : s.pool.allocate resuming ⟨"JointModel", "arm"⟩ "arm" config found =
    (.ok 1, _, _) := rfl
  have hmissed : s.pool.allocate resuming ⟨"JointModel", "arm"⟩ "arm" config missed =
    (.ok 1, _, _) := rfl
  refine ⟨⟨_, _, hfound, hgrown _ _, ?found⟩, _, _, hmissed, hgrown _ _, ?missed⟩
  case found =>
    obtain ⟨made, calls, -, -, -, -, hmark, -, -, -, -, hregistered⟩ :=
      seeded_exactly_if .memory { contents := ∅ } legRun found.contents hfound (hgrown _ _)
    obtain ⟨p, hp, hseeded⟩ := hmark hmarks
    have hseeds : Seeds .memory resuming ⟨"JointModel", "arm"⟩ config found.contents
        ⟨" arm.graph "⟩ ⟨"roadmap", [1, 2]⟩ _ :=
      ⟨⟨by decide, by decide, by decide⟩, rfl, rfl, rfl⟩
    refine ⟨⟨p, hp, hseeded.mpr ⟨_, _, _, hseeds⟩, ?_⟩, (hregistered _ _).mpr ⟨rfl, hstores⟩⟩
    cases hp
    rfl
  case missed =>
    obtain ⟨made, calls, -, hw, -, hfresh, -, -, -, -, -, hregistered⟩ :=
      seeded_exactly_if .memory { contents := ∅ } legRun missed.contents hmissed (hgrown _ _)
    have hno : ¬ ∃ path data p, Seeds .memory resuming ⟨"JointModel", "arm"⟩ config
        missed.contents path data p := by
      rintro ⟨⟨path⟩, data, p, hseeds⟩
      obtain rfl : " arm.graph " = path := Option.some.inj hseeds.wanted.path.1
      cases hseeds.loaded
    obtain ⟨rfl, -⟩ := hfresh hno
    rw [hw]
    exact ⟨⟨_, rfl, rfl, rfl⟩, (hregistered _ _).mpr ⟨rfl, hstores⟩⟩

end Session

end PlannerPool

end MotionContexts
