/-
# Representations

A representation turns a group into a space to search in.  Several may be able to represent one
request; then the one with the highest PRIORITY is taken, and of equal priorities the one whose type
was registered first.  Where none is able, the default type is taken if it is registered.

Main statements:
* `best?_eq_some_iff`: what "the first of the highest priority" means;
* `types_register`: registering keeps the place of a type, and a new type comes last.
-/
import MotionContexts.Error
import MotionContexts.Request

namespace MotionContexts

/-- A space to search in, built for one group. -/
structure Space where
  spaceType : String
  group : String
  deriving DecidableEq, Repr

/-- A way to build spaces. -/
structure Representation where
  spaceType : String
  priority : Int
  /-- Whether the request can be represented for the group. -/
  canRepresent : String → Request → Bool
  /-- The space for a group. -/
  build : String → Except ResolutionError Space

namespace Representation

/-! ## 1. The two built-in representations -/

/-- Joint space represents any request. -/
def jointModel : Representation where
  spaceType := "JointModel"
  priority := 100
  canRepresent _ _ := true
  build group := .ok ⟨"JointModel", group⟩

/-- Pose space needs an IK solver for the group, and goals that are all pose targets, at least one. -/
def poseModel (ikGroups : List String) : Representation where
  spaceType := "PoseModel"
  priority := 200
  canRepresent group request :=
    ikGroups.contains group && !request.goals.isEmpty && request.goals.all Constraints.isPoseOnly
  build group :=
    if ikGroups.contains group then .ok ⟨"PoseModel", group⟩
    else .error (.buildFailed "PoseModel" group "group has no IK solver")

/-! ## 2. The first of the highest priority -/

/-- The first of the highest priority. -/
def best? : List Representation → Option Representation
  | [] => none
  | f :: fs =>
    match best? fs with
    | none => some f
    | some g => if f.priority < g.priority then some g else some f

theorem best?_eq_none_iff {l : List Representation} : best? l = none ↔ l = [] := by
  cases l with
  | nil => simp [best?]
  | cons f fs =>
    simp only [best?, reduceCtorEq, iff_false]
    split
    · simp
    · split <;> simp

/-- The best one is in the list, everything before it is of lower priority, and nothing behind it
of a higher one. -/
theorem best?_eq_some_iff {l : List Representation} {b : Representation} :
    best? l = some b ↔
      ∃ before behind, l = before ++ b :: behind ∧
        (∀ f ∈ before, f.priority < b.priority) ∧ ∀ f ∈ behind, f.priority ≤ b.priority := by
  induction l generalizing b with
  | nil => simp [best?]
  | cons f fs ih =>
    constructor
    · intro h
      unfold best? at h
      split at h
      · rename_i hn
        cases h
        rw [best?_eq_none_iff] at hn
        exact ⟨[], [], by simp [hn], by simp, by simp⟩
      · rename_i g hg
        obtain ⟨before, behind, hl, hb, ha⟩ := ih.mp hg
        split at h
        · rename_i hlt
          cases h
          refine ⟨f :: before, behind, by simp [hl], ?_, ha⟩
          intro x hx
          rcases List.mem_cons.mp hx with rfl | hx
          · exact hlt
          · exact hb x hx
        · rename_i hlt
          cases h
          refine ⟨[], fs, rfl, by simp, ?_⟩
          intro x hx
          rw [hl] at hx
          rcases List.mem_append.mp hx with hx | hx
          · have := hb x hx
            omega
          · rcases List.mem_cons.mp hx with rfl | hx
            · omega
            · have := ha x hx
              omega
    · rintro ⟨before, behind, hl, hb, ha⟩
      cases before with
      | nil =>
        obtain ⟨rfl, rfl⟩ := List.cons.inj hl
        unfold best?
        split
        · rfl
        · rename_i g hg
          obtain ⟨before', behind', hl', _, _⟩ := ih.mp hg
          have := ha g (by simp [hl'])
          rw [if_neg (by omega)]
      | cons x before =>
        obtain ⟨rfl, rfl⟩ := List.cons.inj hl
        have hfs : best? (before ++ b :: behind) = some b :=
          ih.mpr ⟨before, behind, rfl, fun y hy => hb y (List.mem_cons_of_mem _ hy), ha⟩
        have hlt := hb f (List.mem_cons_self ..)
        have hs : best? (f :: (before ++ b :: behind)) = some b := by
          unfold best?
          rw [hfs]
          simp [hlt]
        exact hs

end Representation

/-! ## 3. The catalog -/

/-- The registered representations in order, NO two of one type, and the default type. -/
structure RepresentationCatalog where
  entries : List Representation := []
  defaultType : String := "JointModel"

namespace RepresentationCatalog

/-- Put a representation in the place of the one of its type, or at the end. -/
def place (f : Representation) : List Representation → List Representation
  | [] => [f]
  | g :: gs => if g.spaceType = f.spaceType then f :: gs else g :: place f gs

/-- Register a representation; one of the same type is replaced in its place. -/
def register (c : RepresentationCatalog) (f : Representation) : RepresentationCatalog :=
  { c with entries := place f c.entries }

/-- The registered types, in order. -/
def types (c : RepresentationCatalog) : List String := c.entries.map (·.spaceType)

/-- The representation of a type. -/
def byType (c : RepresentationCatalog) (spaceType : String) :
    Except ResolutionError Representation :=
  match c.entries.find? fun f => f.spaceType == spaceType with
  | some f => .ok f
  | none => .error (.unknownRepresentation spaceType)

/-- The representation to take for a request that names none. -/
def select (c : RepresentationCatalog) (group : String) (request : Request) :
    Except ResolutionError Representation :=
  match Representation.best? (c.entries.filter fun f => f.canRepresent group request) with
  | some f => .ok f
  | none =>
    match c.byType c.defaultType with
    | .ok f => .ok f
    | .error _ => .error (.noSuitableRepresentation group)

/-- The representation of the type that is named, if one is and it is not empty; else the one to
take for the request. -/
def resolve (c : RepresentationCatalog) (group : String) (spaceType : Option String)
    (request : Request) : Except ResolutionError Representation :=
  match spaceType with
  | none => c.select group request
  | some t => if t = "" then c.select group request else c.byType t

/-- Requests that no representation tells apart select the same. -/
theorem select_eq_of_canRepresent {c : RepresentationCatalog} {group : String} {r r' : Request}
    (h : ∀ f ∈ c.entries, f.canRepresent group r = f.canRepresent group r') :
    c.select group r = c.select group r' := by
  rw [select, select, List.filter_congr h]

theorem map_spaceType_place (f : Representation) :
    ∀ l : List Representation, (place f l).map (·.spaceType) =
      if f.spaceType ∈ l.map (·.spaceType) then l.map (·.spaceType)
      else l.map (·.spaceType) ++ [f.spaceType]
  | [] => by simp [place]
  | g :: gs => by
    have ih := map_spaceType_place f gs
    by_cases h : g.spaceType = f.spaceType
    · simp [place, h]
    · have h' : ¬ f.spaceType = g.spaceType := fun e => h e.symm
      by_cases hm : f.spaceType ∈ gs.map (·.spaceType)
      · simp_all [place]
      · simp_all [place]

/-- Registering keeps the place of a type; a new type comes last. -/
theorem types_register (c : RepresentationCatalog) (f : Representation) :
    (c.register f).types =
      if f.spaceType ∈ c.types then c.types else c.types ++ [f.spaceType] :=
  map_spaceType_place f c.entries

end RepresentationCatalog

end MotionContexts
