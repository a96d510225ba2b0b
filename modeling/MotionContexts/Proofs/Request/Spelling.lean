/-
# A request in every spelling

A request nests records three deep: the request itself, its conjunctions, their constraints.  Each
of them may be spelled in many ways (`Json.Spells`): `Constraint.Spelled`, `Constraints.Spelled` and
`Request.Spelled` say which values are spellings, each in terms of the one below.

A constraint takes care.  What its second field is called depends on its kind, and the kind may
stand behind it; so everything but the kind is held until the kind is known.

Main statements:
* `Constraint.ofJson?_spelled`, `Constraints.ofJson?_spelled`, `Request.ofJson?_spelled`, what a
  spelling is read as;
* `Request.spelled_toJson`, what is written is a spelling;
* `Request.recovered`, the text of every spelling is read as the request.
-/
import MotionContexts.Proofs.Json.Spelling
import MotionContexts.Request.Json

namespace MotionContexts

open Json (Spells OptionalField)

/-! ## 1. Constraints -/

namespace Constraint

/-- The fields of a constraint. -/
def fields (c : Constraint) : List (String × Json) :=
  [("kind", .ofString c.kind), (c.nameField, .ofString c.name)]

/-- The values that spell a constraint. -/
def Spelled (c : Constraint) (v : Json) : Prop := Spells ["kind", c.nameField] c.fields v

theorem nameField_ne (c : Constraint) : c.nameField ≠ "kind" := by
  cases c <;> simp [nameField]

/-- A field that stands among fields of other names is the only one of its name. -/
theorem only?_of_perm {name : String} {v : Json} {fs rest : List (String × Json)}
    (h : fs.Perm ((name, v) :: rest)) (hrest : ∀ f ∈ rest, f.1 ≠ name) :
    only? name fs = some v := by
  have hnone : ∀ f ∈ rest, ¬ (f.1 == name) = true := fun f hf he => hrest f hf (beq_iff_eq.mp he)
  have hperm : (fs.filter fun f => f.1 == name).Perm [(name, v)] := by
    refine (h.filter _).trans (.of_eq ?_)
    rw [List.filter_cons_of_pos (by simp), List.filter_eq_nil_iff.mpr hnone]
  rw [only?, List.perm_singleton.mp hperm]

/-- **What spells a constraint is read as it**, wherever it stands. -/
theorem ofJson?_spelled {c : Constraint} {v : Json} (h : c.Spelled v) (room : Nat) :
    ofJson? room v = some c := by
  obtain ⟨extra, fs, hextra, hperm, rfl⟩ := h
  have hkinds : ∀ f ∈ (c.nameField, Json.ofString c.name) :: extra, f.1 ≠ "kind" := by
    intro f hf
    rcases List.mem_cons.mp hf with rfl | hf
    · exact c.nameField_ne
    · exact fun he => (hextra f hf).1 (he ▸ List.mem_cons_self ..)
  have hnames : ∀ f ∈ extra, f.1 ≠ c.nameField := fun f hf he =>
    (hextra f hf).1 (he ▸ List.mem_cons_of_mem _ (List.mem_singleton_self _))
  -- everything but the kind is held
  let held := fs.filter fun f => f.1 != "kind"
  have hheld : held.Perm ((c.nameField, .ofString c.name) :: extra) := by
    refine (hperm.filter _).trans (.of_eq ?_)
    rw [fields, List.cons_append, List.filter_cons_of_neg (by simp)]
    exact List.filter_eq_self.mpr fun f hf => bne_iff_ne.mpr (hkinds f hf)
  have hholdable : (held.all fun f => f.2.holdable room) = true := by
    refine List.all_eq_true.mpr fun f hf => ?_
    rcases List.mem_cons.mp (hheld.mem_iff.mp hf) with rfl | hf
    · rfl
    · exact (hextra f hf).2.holdable room
  have hkind : only? "kind" fs = some (.ofString c.kind) := only?_of_perm hperm hkinds
  have hname : only? c.nameField held = some (.ofString c.name) := only?_of_perm hheld hnames
  show ((Json.ofFields fs).entries?.bind _) = some c
  rw [Json.entries?_ofFields, Option.bind_some, hkind]
  show (if held.all fun f => f.2.holdable room then (nameField? c.kind).bind _ else none) = some c
  rw [if_pos hholdable, nameField?_kind, Option.bind_some, hname]
  exact ofKind?_kind c

theorem lasting_spelled {c : Constraint} {v : Json} (h : c.Spelled v) : v.lasting = true := by
  refine h.lasting fun f hf => ?_
  rcases List.mem_pair.mp hf with rfl | rfl <;> rfl

theorem spelled_toJson (c : Constraint) : c.Spelled c.toJson := .ofFields _ _

end Constraint

/-! ## 2. Conjunctions -/

namespace Constraints

/-- The values that spell a conjunction; where nothing is constrained, there may be no list. -/
def Spelled (k : Constraints) (v : Json) : Prop :=
  ∃ list, OptionalField "constraints" (k.constraints = [])
      (fun u => ∃ vs, u = .array vs ∧ List.Forall₂ Constraint.Spelled k.constraints vs) list ∧
    Spells ["constraints"] list v

/-- **What spells a conjunction is read as it**, wherever it stands. -/
theorem ofJson?_spelled {k : Constraints} {v : Json} (h : k.Spelled v) (depth : Nat) :
    ofJson? depth v = some k := by
  obtain ⟨list, hlist, hv⟩ := h
  obtain ⟨known, hknown, hfind⟩ := hv.fields? (by decide) hlist.keys
  have hlistRead : Datum.Fields.withDefault known "constraints"
      (Datum.list? (Constraint.ofJson? (Json.maxDepth - depth - 3))) [] = some k.constraints := by
    rw [Datum.Fields.withDefault_congr (hfind "constraints")]
    refine hlist.withDefault Eq.symm ?_
    rintro u ⟨vs, rfl, hvs⟩
    exact Json.list?_of_forall₂ (hvs.imp fun c v hc => Constraint.ofJson?_spelled hc _)
  simp only [ofJson?, hknown, hlistRead, Option.bind_eq_bind, Option.bind_some, Option.pure_def]

theorem lasting_spelled {k : Constraints} {v : Json} (h : k.Spelled v) : v.lasting = true := by
  obtain ⟨list, hlist, hv⟩ := h
  refine hv.lasting (hlist.lasting ?_)
  rintro u ⟨vs, rfl, hvs⟩
  exact Json.lasting_array_of_forall₂ hvs fun c v hc => Constraint.lasting_spelled hc

theorem spelled_toJson (k : Constraints) : k.Spelled k.toJson := by
  refine ⟨_, .given ⟨_, rfl, ?_⟩, .ofFields _ _⟩
  exact List.forall₂_map_right_iff.mpr (List.forall₂_same.mpr fun c _ => c.spelled_toJson)

end Constraints

/-! ## 3. Requests -/

namespace Request

/-- The values that spell a request.  The group has to be there; every other field may be missing
where it has its default, and a representation that is not named may be written as `null`, too. -/
def Spelled (r : Request) (v : Json) : Prop :=
  ∃ planner representation goals path,
    OptionalField "planner_id" (r.plannerId = "") (· = .ofString r.plannerId) planner ∧
    OptionalField "representation_type" (r.representation = none)
      (· = (r.representation.elim .null .ofString)) representation ∧
    OptionalField "goal_constraints" (r.goals = [])
      (fun u => ∃ vs, u = .array vs ∧ List.Forall₂ Constraints.Spelled r.goals vs) goals ∧
    OptionalField "path_constraints" (r.path.constraints = []) r.path.Spelled path ∧
    Spells fieldNames
      (("group_name", .ofString r.group) :: (planner ++ (representation ++ (goals ++ path)))) v

/-- **What spells a request is read as it.** -/
theorem ofJson?_spelled {r : Request} {v : Json} (h : r.Spelled v) : ofJson? v = some r := by
  obtain ⟨planner, representation, goals, path, hplanner, hrepresentation, hgoals, hpath, hv⟩ := h
  have hkeys : ((("group_name", Json.ofString r.group) ::
      (planner ++ (representation ++ (goals ++ path)))).map (·.1)).Sublist fieldNames := by
    rw [List.map_cons, List.map_append, List.map_append, List.map_append]
    exact (hplanner.keys.append (hrepresentation.keys.append
      (hgoals.keys.append hpath.keys))).cons_cons _
  obtain ⟨known, hknown, hfind⟩ := hv.fields? (by decide) hkeys
  -- each name finds its own field only
  have hgroupRead : Datum.Fields.required known "group_name" Json.text? = some r.group := by
    rw [Datum.Fields.required, hfind, Entries.find_cons, if_pos rfl]
    rfl
  have hplannerRead :
      Datum.Fields.withDefault known "planner_id" Json.text? "" = some r.plannerId := by
    rw [Datum.Fields.withDefault_congr (g := planner)]
    · exact hplanner.withDefault Eq.symm (by rintro u rfl; rfl)
    · simp [hfind, Entries.find_cons, Entries.find_append, hrepresentation.find_other,
        hgoals.find_other, hpath.find_other]
  have hrepresentationRead : Datum.Fields.withDefault known "representation_type"
      Datum.optionalText? none = some r.representation := by
    rw [Datum.Fields.withDefault_congr (g := representation)]
    · refine hrepresentation.withDefault Eq.symm ?_
      rintro u rfl
      cases r.representation <;> rfl
    · simp [hfind, Entries.find_cons, Entries.find_append, hplanner.find_other,
        hgoals.find_other, hpath.find_other]
  have hgoalsRead : Datum.Fields.withDefault known "goal_constraints"
      (Datum.list? (Constraints.ofJson? 2)) [] = some r.goals := by
    rw [Datum.Fields.withDefault_congr (g := goals)]
    · refine hgoals.withDefault Eq.symm ?_
      rintro u ⟨vs, rfl, hvs⟩
      exact Json.list?_of_forall₂ (hvs.imp fun k v hk => Constraints.ofJson?_spelled hk _)
    · simp [hfind, Entries.find_cons, Entries.find_append, hplanner.find_other,
        hrepresentation.find_other, hpath.find_other]
  have hpathRead : Datum.Fields.withDefault known "path_constraints" (Constraints.ofJson? 1) {} =
      some r.path := by
    rw [Datum.Fields.withDefault_congr (g := path)]
    · refine hpath.withDefault (fun h => congrArg Constraints.mk h.symm) fun u hu => ?_
      exact Constraints.ofJson?_spelled hu _
    · simp [hfind, Entries.find_cons, Entries.find_append, hplanner.find_other,
        hrepresentation.find_other, hgoals.find_other]
  simp only [ofJson?, hknown, hgroupRead, hplannerRead, hrepresentationRead, hgoalsRead, hpathRead,
    Option.bind_eq_bind, Option.bind_some, Option.pure_def]

theorem lasting_spelled {r : Request} {v : Json} (h : r.Spelled v) : v.lasting = true := by
  obtain ⟨planner, representation, goals, path, hplanner, hrepresentation, hgoals, hpath, hv⟩ := h
  refine hv.lasting (List.forall_mem_cons.mpr ⟨rfl, ?_⟩)
  simp only [List.forall_mem_append]
  refine ⟨hplanner.lasting ?_, hrepresentation.lasting ?_, hgoals.lasting ?_, hpath.lasting ?_⟩
  · rintro u rfl
    rfl
  · rintro u rfl
    cases r.representation <;> rfl
  · rintro u ⟨vs, rfl, hvs⟩
    exact Json.lasting_array_of_forall₂ hvs fun k v hk => Constraints.lasting_spelled hk
  · exact fun u hu => Constraints.lasting_spelled hu

/-- What is written of a request is one of its spellings. -/
theorem spelled_toJson (r : Request) : r.Spelled r.toJson := by
  have hgoals : List.Forall₂ Constraints.Spelled r.goals (r.goals.map Constraints.toJson) :=
    List.forall₂_map_right_iff.mpr (List.forall₂_same.mpr fun k _ => k.spelled_toJson)
  have hfields : r.toJson = .ofFields [
      ("group_name", .ofString r.group),
      ("planner_id", .ofString r.plannerId),
      ("representation_type", r.representation.elim .null .ofString),
      ("goal_constraints", .array (r.goals.map Constraints.toJson)),
      ("path_constraints", r.path.toJson)] := by
    unfold toJson
    cases r.representation <;> rfl
  refine ⟨_, _, _, _, .given rfl, .given rfl, .given ⟨_, rfl, hgoals⟩,
    .given r.path.spelled_toJson, ?_⟩
  rw [hfields]
  exact .ofFields _ _

/-- **Every spelling of a request is read as the request.**  Its own compact text is one.  The
others order their fields differently on any level, leave out fields that have their default, and
have fields besides, of other names, with a text, a truth value or `null`. -/
theorem recovered (r : Request) :
    r.Spelled r.toJson ∧
    ∀ v, r.Spelled v → (Json.parse? v.compact).bind ofJson? = some r := by
  refine ⟨r.spelled_toJson, fun v hv => ?_⟩
  rw [Json.parse?, Json.ofSymbols?_compact (lasting_spelled hv), Option.bind_some]
  exact ofJson?_spelled hv

/-- Nothing is in its usual place: the group comes last, the kind of a constraint behind its name,
there is a goal without a list, and fields that nobody looks for stand on every level. -/
theorem recovered_shuffled :
    let r : Request := { group := "arm", goals := [⟨[.position "hand"]⟩, {}] }
    let hand : Json := .ofFields [("link_name", .ofString "hand"), ("weight", .ofString "high"),
      ("kind", .ofString "position")]
    let v : Json := .ofFields [("dry_run", .bool true),
      ("goal_constraints", .array [
        .ofFields [("note", .null), ("constraints", .array [hand])], .ofFields []]),
      ("group_name", .ofString "arm")]
    (Json.parse? v.compact).bind ofJson? = some r := by
  intro r hand v
  have hhand : (Constraint.position "hand").Spelled hand :=
    ⟨[("weight", .ofString "high")], _, by simp [Constraint.nameField, Json.Plain.text],
      List.perm_append_singleton _ [_, _], rfl⟩
  have hgoal : (⟨[.position "hand"]⟩ : Constraints).Spelled
      (.ofFields [("note", .null), ("constraints", .array [hand])]) :=
    ⟨_, .given ⟨_, rfl, .cons hhand .nil⟩,
      [("note", .null)], _, by simp [Json.Plain.null], List.Perm.swap .., rfl⟩
  have hempty : ({} : Constraints).Spelled (.ofFields []) := ⟨_, .omitted rfl, .ofFields _ _⟩
  have hv : r.Spelled v :=
    ⟨_, _, _, _, .omitted rfl, .omitted rfl,
      .given ⟨_, rfl, .cons hgoal (.cons hempty .nil)⟩, .omitted rfl,
      [("dry_run", .bool true)], _, by simp [fieldNames, Json.Plain.bool],
      (List.reverse_perm _).symm, rfl⟩
  exact (recovered r).2 v hv

end Request

end MotionContexts
