/-
# The built-in representations

Joint space represents everything and can be built for every group.  Pose space is preferred, and
it takes two things that stand in different places: a request for pose targets and an IK solver for
the group, where only the second one decides whether the space can be BUILT.  What is selected asks
for both, so it never fails to build, however often either representation was replaced.

Main statements:
* `build_of_canRepresent`, what can represent a request can be built;
* `entries_registered`, the representations that a manager holds;
* `selects_what_builds`, which one is selected, and that it builds.
-/
import Mathlib.Data.List.Basic
import Mathlib.Data.List.Induction
import MotionContexts.Manager

namespace MotionContexts

universe u

/-! ## 1. What a built-in representation can do -/

/-- A request for pose targets: it has a goal, and each of its goals constrains something, and
nothing but positions and orientations. -/
def Request.ForPoses (request : Request) : Prop :=
  request.goals ≠ [] ∧ ∀ goal ∈ request.goals, goal.constraints ≠ [] ∧
    ∀ k ∈ goal.constraints, (∃ link, k = .position link) ∨ ∃ link, k = .orientation link

theorem Constraint.isPose_iff (k : Constraint) :
    k.isPose = true ↔ (∃ link, k = .position link) ∨ ∃ link, k = .orientation link := by
  cases k <;> simp [isPose]

/-- A representation that comes with every manager, or may be registered with it. -/
inductive BuiltIn where
  | joint
  | pose (ikGroups : List String)

namespace BuiltIn

def representation : BuiltIn → Representation
  | .joint => .jointModel
  | .pose ikGroups => .poseModel ikGroups

/-- The groups with an IK solver, where it matters. -/
def ikGroups? : BuiltIn → Option (List String)
  | .joint => none
  | .pose ikGroups => some ikGroups

theorem poseModel_canRepresent_iff {ikGroups : List String} {group : String} {request : Request} :
    (Representation.poseModel ikGroups).canRepresent group request = true ↔
      group ∈ ikGroups ∧ request.ForPoses := by
  simp only [Representation.poseModel, Request.ForPoses, Bool.and_eq_true, Bool.not_eq_true',
    List.contains_iff_mem, List.isEmpty_eq_false_iff, List.all_eq_true, Constraints.isPoseOnly_iff,
    Constraint.isPose_iff, and_assoc]

/-- **What can represent a request can be built** for its group. -/
theorem build_of_canRepresent (b : BuiltIn) {group : String} {request : Request}
    (h : b.representation.canRepresent group request = true) :
    b.representation.build group = .ok ⟨b.representation.spaceType, group⟩ := by
  cases b with
  | joint => rfl
  | pose ikGroups =>
    have hgroup := (poseModel_canRepresent_iff.mp h).1
    exact if_pos (List.contains_iff_mem.mpr hgroup)

/-- Only the goals are inspected, and not in which order they stand. -/
theorem canRepresent_perm (b : BuiltIn) {request request' : Request}
    (hgoals : request'.goals.Perm request.goals) (group : String) :
    b.representation.canRepresent group request' =
      b.representation.canRepresent group request := by
  cases b with
  | joint => rfl
  | pose ikGroups =>
    simp only [representation, Representation.poseModel, hgoals.all_eq, hgoals.isEmpty_eq]

end BuiltIn

namespace RepresentationCatalog

variable {σ : Type u}

/-! ## 2. What a manager holds -/

/-- The catalog of a new manager with which built-in representations were registered. -/
def registered (storage : Storage σ) (history : List BuiltIn) : RepresentationCatalog :=
  (history.foldl (fun m b => m.registerRepresentation b.representation)
    (Manager.new storage)).representations

/-- The groups with an IK solver of the pose representation that was registered last. -/
def lastPose? (history : List BuiltIn) : Option (List String) :=
  (history.filterMap BuiltIn.ikGroups?).getLast?

theorem lastPose?_concat_joint (history : List BuiltIn) :
    lastPose? (history ++ [.joint]) = lastPose? history := by
  rw [lastPose?, List.filterMap_append]
  exact congrArg List.getLast? (List.append_nil _)

theorem lastPose?_concat_pose (history : List BuiltIn) (ikGroups : List String) :
    lastPose? (history ++ [.pose ikGroups]) = some ikGroups := by
  rw [lastPose?, List.filterMap_append]
  exact List.getLast?_concat

theorem registered_concat (storage : Storage σ) (history : List BuiltIn) (b : BuiltIn) :
    registered storage (history ++ [b]) =
      (registered storage history).register b.representation := by
  rw [registered, List.foldl_append]
  rfl

/-- **What is held**: joint space, and behind it the pose representation that was registered last,
if there is one. -/
theorem entries_registered (storage : Storage σ) (history : List BuiltIn) :
    (registered storage history).entries =
      .jointModel :: (lastPose? history).toList.map .poseModel := by
  induction history using List.reverseRecOn with
  | nil => rfl
  | append_singleton history b ih =>
    rw [registered_concat, register, ih]
    cases b with
    | joint =>
      -- joint space takes its own place in front
      rw [lastPose?_concat_joint]
      rfl
    | pose ikGroups =>
      rw [lastPose?_concat_pose]
      cases lastPose? history with
      | none => rfl
      | some old => rfl

theorem defaultType_registered (storage : Storage σ) (history : List BuiltIn) :
    (registered storage history).defaultType = "JointModel" := by
  induction history using List.reverseRecOn with
  | nil => rfl
  | append_singleton history b ih =>
    rw [registered_concat]
    exact ih

theorem mem_registered {storage : Storage σ} {history : List BuiltIn} {f : Representation}
    (h : f ∈ (registered storage history).entries) : ∃ b : BuiltIn, f = b.representation := by
  rw [entries_registered] at h
  rcases List.mem_cons.mp h with rfl | h
  · exact ⟨.joint, rfl⟩
  · obtain ⟨ikGroups, -, rfl⟩ := List.mem_map.mp h
    exact ⟨.pose ikGroups, rfl⟩

/-! ## 3. What is selected -/

/-- The last pose representation is selected where it can represent the request, and joint space
where it cannot. -/
theorem select_cases (storage : Storage σ) (history : List BuiltIn) (group : String)
    (request : Request) :
    (∃ ikGroups, lastPose? history = some ikGroups ∧ group ∈ ikGroups ∧ request.ForPoses ∧
        (registered storage history).select group request = .ok (.poseModel ikGroups)) ∨
      ((∀ ikGroups, lastPose? history = some ikGroups → ¬ (group ∈ ikGroups ∧ request.ForPoses)) ∧
        (registered storage history).select group request = .ok .jointModel) := by
  have hentries := entries_registered storage history
  have hjoint : Representation.jointModel.canRepresent group request = true := rfl
  cases hlast : lastPose? history with
  | none =>
    rw [hlast] at hentries
    refine .inr ⟨?_, ?_⟩
    · rintro _ ⟨⟩
    · rw [select, hentries]
      rfl
  | some ikGroups =>
    by_cases hable : (Representation.poseModel ikGroups).canRepresent group request = true
    · obtain ⟨hgroup, hposes⟩ := BuiltIn.poseModel_canRepresent_iff.mp hable
      have hfilter : (registered storage history).entries.filter (·.canRepresent group request) =
          [.jointModel, .poseModel ikGroups] := by
        simp [hentries, hlast, hjoint, hable]
      refine .inl ⟨ikGroups, rfl, hgroup, hposes, ?_⟩
      rw [select, hfilter]
      rfl
    · have hfilter : (registered storage history).entries.filter (·.canRepresent group request) =
          [.jointModel] := by
        simp [hentries, hlast, hjoint, hable]
      refine .inr ⟨?_, ?_⟩
      · rintro _ ⟨⟩
        exact mt BuiltIn.poseModel_canRepresent_iff.mpr hable
      · rw [select, hfilter]
        rfl

/-- **What is selected builds.**  Whatever built-in representations were registered with a manager,
every request selects one, and its space can be built for the group.  It is the pose representation
that was registered last exactly if that has an IK solver for the group and the request is for
poses; otherwise it is joint space.  Of the request only the goals matter, in whatever order. -/
theorem selects_what_builds (storage : Storage σ) (history : List BuiltIn) :
    let c := registered storage history
    c.defaultType = "JointModel" ∧
      (∀ group request, ∃ f, c.select group request = .ok f ∧
        f.build group = .ok ⟨f.spaceType, group⟩ ∧
        (f = .jointModel ∨ ∃ ikGroups, lastPose? history = some ikGroups ∧
          f = .poseModel ikGroups) ∧
        (f.spaceType = "PoseModel" ↔ ∃ ikGroups, lastPose? history = some ikGroups ∧
          group ∈ ikGroups ∧ request.ForPoses)) ∧
      ∀ group (request request' : Request), request'.goals.Perm request.goals →
        c.select group request' = c.select group request := by
  intro c
  refine ⟨defaultType_registered storage history, ?choice, ?goals⟩
  case choice =>
    intro group request
    rcases select_cases storage history group request with
      ⟨ikGroups, hlast, hgroup, hposes, hselect⟩ | ⟨hunable, hselect⟩
    · have hbuild := BuiltIn.build_of_canRepresent (.pose ikGroups)
        (BuiltIn.poseModel_canRepresent_iff.mpr ⟨hgroup, hposes⟩)
      exact ⟨.poseModel ikGroups, hselect, hbuild, .inr ⟨ikGroups, hlast, rfl⟩,
        fun _ => ⟨ikGroups, hlast, hgroup, hposes⟩, fun _ => rfl⟩
    · refine ⟨.jointModel, hselect, rfl, .inl rfl, fun h => absurd h (by decide), ?_⟩
      rintro ⟨ikGroups, hlast, hable⟩
      exact absurd hable (hunable ikGroups hlast)
  case goals =>
    intro group request request' hgoals
    refine select_eq_of_canRepresent fun f hf => ?_
    obtain ⟨b, rfl⟩ := mem_registered hf
    exact b.canRepresent_perm hgoals group

/-- A pose representation that was replaced by one for another group: the pose of the arm is left
to joint space, the pose of the leg is not, whatever the path and in whatever order the goals. -/
theorem selects_what_builds_replacedPose :
    let c := registered .memory [.pose ["arm"], .joint, .pose ["leg"]]
    let tip : Constraints := ⟨[.position "tip"]⟩
    let toe : Constraints := ⟨[.orientation "toe", .position "toe"]⟩
    let request : Request := { group := "leg", goals := [tip, toe] }
    let request' : Request := { group := "leg", goals := [toe, tip], path := ⟨[.joint "knee"]⟩ }
    (∃ f, c.select "leg" request = .ok f ∧ f.spaceType = "PoseModel" ∧
        f.build "leg" = .ok ⟨"PoseModel", "leg"⟩) ∧
      (∃ f, c.select "arm" request = .ok f ∧ f.spaceType ≠ "PoseModel") ∧
      c.select "leg" request' = c.select "leg" request := by
  intro c tip toe request request'
  obtain ⟨-, hchoice, hgoals⟩ :=
    selects_what_builds .memory [.pose ["arm"], .joint, .pose ["leg"]]
  have hposes : request.ForPoses := by
    refine ⟨List.cons_ne_nil _ _, fun goal hgoal => ?_⟩
    rcases List.mem_pair.mp hgoal with rfl | rfl
    · exact ⟨List.cons_ne_nil _ _, by simp [tip]⟩
    · exact ⟨List.cons_ne_nil _ _, by simp [toe]⟩
  refine ⟨?leg, ?arm, hgoals "leg" request request' (.swap ..)⟩
  case leg =>
    obtain ⟨f, hselect, hbuild, -, hpose⟩ := hchoice "leg" request
    have htype := hpose.mpr ⟨["leg"], rfl, .head _, hposes⟩
    rw [htype] at hbuild
    exact ⟨f, hselect, htype, hbuild⟩
  case arm =>
    obtain ⟨f, hselect, -, -, hpose⟩ := hchoice "arm" request
    refine ⟨f, hselect, fun htype => ?_⟩
    obtain ⟨ikGroups, hlast, hgroup, -⟩ := hpose.mp htype
    obtain rfl : ["leg"] = ikGroups := Option.some.inj hlast
    exact absurd hgroup (by decide)

end RepresentationCatalog

end MotionContexts
