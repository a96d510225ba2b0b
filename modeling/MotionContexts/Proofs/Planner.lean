/-
# What setting a planner up decides

A planner that is set up gets its options one after the other, and each of them either is accepted
or is not.  Since no key is repeated among options, the parameters in force afterwards are the
options that were ACCEPTED, and beside them whatever the planner had before.  Exploring does not
touch any of this.

A family makes planners in two ways, fresh or from data.  Where nothing but the seeding and the
graph tells the two apart, the family is `Uniform`; then the parameters in force do not depend on
what was loaded.

Main statements:
* `prepare_eq`, all that a setup changes;
* `params_prepare`, the parameters in force behind a setup;
* `prepare_reseed`, a setup does not look at the seeding and the graph.
-/
import MotionContexts.Planner

namespace MotionContexts

/-! ## 1. Setting up -/

namespace Planner

theorem setParams_eq (p : Planner) (options : List (String × String)) :
    p.setParams options =
      { p with log := p.log ++ options.map fun e => .setParam e.1 e.2 (p.accepts e.1 e.2) } := by
  induction options generalizing p with
  | nil => simp [setParams]
  | cons e es ih =>
    refine (ih (p.setParam e.1 e.2)).trans ?_
    simp [setParam]

/-- Setting a planner up changes its name and its log. -/
theorem prepare_eq (p : Planner) (name : String) (options : Table String) (space : Space) :
    p.prepare name options space =
      { p with
        name := if name = "" then p.name else name
        log := p.log ++ ((if name = "" then [] else [.setName name]) ++
          options.entries.map (fun e => .setParam e.1 e.2 (p.accepts e.1 e.2)) ++
          [.problem space, .setup]) } := by
  unfold prepare
  by_cases h : name = "" <;> simp [h, setParams_eq, setName, setProblem, setup]

/-- A call as it changes the parameters in force. -/
def note (t : Table String) : PlannerCall → Table String
  | .setParam k v true => t.insert k v
  | _ => t

theorem params_eq_foldl (p : Planner) : p.params = p.log.foldl note ∅ := rfl

/-- Parameters set one after the other, of keys that are not repeated. -/
theorem get?_foldl_note (accepts : String → String → Bool) (key : String) :
    ∀ (options : List (String × String)) (t : Table String), (options.map (·.1)).Nodup →
      ((options.map fun e => .setParam e.1 e.2 (accepts e.1 e.2)).foldl note t).get? key =
        ((Entries.find key options).filter (accepts key)).or (t.get? key)
  | [], t, _ => rfl
  | (k, v) :: es, t, h => by
    obtain ⟨hk, hes⟩ := List.nodup_cons.mp h
    have ih := get?_foldl_note accepts key es (note t (.setParam k v (accepts k v))) hes
    rw [List.map_cons, List.foldl_cons, ih, Entries.find_cons]
    by_cases hkey : key = k
    · subst hkey
      -- the key stands nowhere behind its first place
      have hnone : Entries.find key es = none := by
        have hfind := Entries.find_isSome_iff key es
        simpa using mt hfind.mp hk
      rw [hnone, if_pos rfl]
      rw [Option.filter_some]
      cases accepts key v <;> simp [note]
    · rw [if_neg hkey]
      cases accepts k v
      · rfl
      · rw [note, Table.get?_insert, if_neg hkey]

/-- **The parameters in force behind a setup**: the options that were accepted, and beside them what
the planner had before. -/
theorem params_prepare (p : Planner) (name : String) (options : Table String) (space : Space)
    (key : String) :
    (p.prepare name options space).params.get? key =
      ((options.get? key).filter (p.accepts key)).or (p.params.get? key) := by
  have hname : ∀ t, (if name = "" then [] else [PlannerCall.setName name]).foldl note t = t := by
    intro t
    split <;> rfl
  rw [params_eq_foldl, log_prepare, List.foldl_append, List.foldl_append, List.foldl_append, hname,
    ← params_eq_foldl]
  exact get?_foldl_note p.accepts key options.entries p.params options.keys_nodup

/-- A setup leaves alone the data that is taken out of the planner. -/
theorem data_prepare (p : Planner) (name : String) (options : Table String) (space : Space) :
    (p.prepare name options space).data = p.data := by
  rw [prepare_eq]
  rfl

/-! ## 2. Exploring -/

theorem explore_nil (p : Planner) : p.explore [] = p := by simp [explore]

theorem explore_explore (p : Planner) (a b : List UInt8) :
    (p.explore a).explore b = p.explore (a ++ b) := by
  simp [explore]

theorem data_explore (p : Planner) (bytes : List UInt8) :
    (p.explore bytes).data = ⟨p.data.plannerType, p.data.graph ++ bytes⟩ := rfl

theorem params_explore (p : Planner) (bytes : List UInt8) : (p.explore bytes).params = p.params :=
  rfl

/-! ## 3. Seeding and graph -/

/-- The planner with another seeding and another graph. -/
def reseed (p : Planner) (seeded : Bool) (graph : List UInt8) : Planner :=
  { p with seeded := seeded, graph := graph }

/-- A setup does not look at the seeding and the graph. -/
theorem prepare_reseed (p : Planner) (b : Bool) (g : List UInt8) (name : String)
    (options : Table String) (space : Space) :
    (p.reseed b g).prepare name options space = (p.prepare name options space).reseed b g := by
  rw [prepare_eq, prepare_eq]
  rfl

end Planner

/-! ## 4. Making -/

namespace PlannerFamily

/-- The family makes the planner for the space, fresh or from some data. -/
def Makes (f : PlannerFamily) (space : Space) (p : Planner) : Prop :=
  p = f.allocate space ∨ ∃ data, f.allocateWithData space data = .ok p

/-- A planner made from data differs from a fresh one in its seeding and its graph ONLY. -/
def Uniform (f : PlannerFamily) : Prop :=
  ∀ space data p, f.allocateWithData space data = .ok p →
    p = (f.allocate space).reseed p.seeded p.graph

/-- Whatever a uniform family makes for a space, but for the seeding and the graph it is one and the
same planner. -/
theorem Makes.eq {f : PlannerFamily} {space : Space} {p : Planner} (h : f.Makes space p)
    (hf : f.Uniform) : p = (f.allocate space).reseed p.seeded p.graph := by
  rcases h with rfl | ⟨data, h⟩
  · rfl
  · exact hf space data p h

end PlannerFamily

/-! ## 5. The catalog -/

/-- A family that an identifier stands for is a registered one. -/
theorem PlannerCatalog.get?_of_resolve {c : PlannerCatalog} {id : Option String}
    {plannerId : String} {f : PlannerFamily} (h : c.resolve id = .ok (plannerId, f)) :
    c.families.get? plannerId = some f := by
  unfold resolve at h
  split at h
  · rename_i id hid
    split at h
    · rename_i g hg
      cases h
      unfold find at hg
      split at hg
      · rename_i g' hg'
        cases hg
        exact hg'
      · cases hg
    · cases h
  · cases h

end MotionContexts
