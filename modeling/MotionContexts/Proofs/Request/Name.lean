/-
# Which requests mean the same configuration

A planner identifier may be a bare suffix or the full name that the suffix is short for, and the
two are told apart by their text alone.  So the text may deceive: a group may contain brackets
itself, and what is meant as a suffix may have the form of a full name.

None of this makes the names of ONE group ambiguous.  A full name is taken as it stands, and
everything else is put between the brackets once; two identifiers come to the same name only if one
of them is the suffix that the other one spells out.

For two groups it takes more.  The group of a name is what stands in front of the FIRST opening
bracket, if the group has no such bracket itself.

Main statements:
* `isFullName_iff`, what is taken as it stands;
* `nameFor_eq_nameFor_iff`, which identifiers come to the same name;
* `takeWhile_nameFor`, how the group is read off a name;
* `names_unambiguous`, all of it for requests.
-/
import MotionContexts.Request

namespace MotionContexts.Request

/-! ## 1. Full names -/

/-- The full name of a suffix: the group, and the suffix between brackets. -/
def fullName (group suffix : String) : String := group ++ "[" ++ suffix ++ "]"

theorem toList_fullName (group suffix : String) :
    (fullName group suffix).toList = group.toList ++ '[' :: (suffix.toList ++ [']']) := by
  simp [fullName]

theorem fullName_ne_empty (group suffix : String) : fullName group suffix ≠ "" := by
  intro he
  have hlist := congrArg String.toList he
  rw [toList_fullName] at hlist
  simp at hlist

theorem fullName_ne_group (group suffix : String) : fullName group suffix ≠ group := by
  intro he
  have hlist := congrArg String.toList he
  rw [toList_fullName] at hlist
  simp at hlist

theorem fullName_injective {group a b : String} (h : fullName group a = fullName group b) :
    a = b := by
  have hlist := congrArg String.toList h
  rw [toList_fullName, toList_fullName] at hlist
  have htail := (List.cons.inj (List.append_cancel_left hlist)).2
  exact String.toList_inj.mp (List.append_cancel_right htail)

/-- **An identifier is a full name** of a group exactly if it is the full name of some suffix. -/
theorem isFullName_iff {group id : String} :
    isFullName group id = true ↔ ∃ suffix, id = fullName group suffix := by
  rw [isFullName, Bool.and_eq_true, List.isPrefixOf_iff_prefix, beq_iff_eq]
  constructor
  · rintro ⟨⟨rest, hrest⟩, hlast⟩
    rw [← hrest] at hlast
    -- the last character is none of those in front, the last of which is the OTHER bracket
    rcases List.eq_nil_or_concat rest with rfl | ⟨suffix, c, rfl⟩
    · rw [List.append_nil, List.getLast?_concat] at hlast
      exact absurd (Option.some.inj hlast) (by decide)
    · rw [List.concat_eq_append, ← List.append_assoc, List.getLast?_concat] at hlast
      obtain rfl := Option.some.inj hlast
      refine ⟨String.ofList suffix, String.toList_inj.mp ?_⟩
      rw [toList_fullName, ← hrest]
      simp
  · rintro ⟨suffix, rfl⟩
    rw [toList_fullName]
    refine ⟨⟨suffix.toList ++ [']'], by simp⟩, ?_⟩
    rw [← List.cons_append, ← List.append_assoc, List.getLast?_concat]

/-! ## 2. The name that an identifier comes to -/

theorem nameFor_empty (group : String) : nameFor group "" = group := rfl

/-- A full name is taken as it stands. -/
theorem nameFor_fullName (group suffix : String) :
    nameFor group (fullName group suffix) = fullName group suffix := by
  rw [nameFor, if_neg (fullName_ne_empty group suffix), if_pos (isFullName_iff.mpr ⟨suffix, rfl⟩)]

/-- Everything else is put between brackets. -/
theorem nameFor_of_bare {group id : String} (hid : id ≠ "")
    (hbare : ∀ suffix, id ≠ fullName group suffix) : nameFor group id = fullName group id := by
  have hnot : ¬ isFullName group id = true := fun h => by
    obtain ⟨suffix, he⟩ := isFullName_iff.mp h
    exact hbare suffix he
  rw [nameFor, if_neg hid, if_neg hnot]
  rfl

/-- The two ways to a name, for an identifier that is not empty. -/
theorem nameFor_cases (group : String) {id : String} (hid : id ≠ "") :
    (∃ suffix, id = fullName group suffix ∧ nameFor group id = fullName group suffix) ∨
    ((∀ suffix, id ≠ fullName group suffix) ∧ nameFor group id = fullName group id) := by
  by_cases hfull : ∃ suffix, id = fullName group suffix
  · obtain ⟨suffix, rfl⟩ := hfull
    exact .inl ⟨suffix, rfl, nameFor_fullName group suffix⟩
  · have hbare : ∀ suffix, id ≠ fullName group suffix := fun suffix he => hfull ⟨suffix, he⟩
    exact .inr ⟨hbare, nameFor_of_bare hid hbare⟩

/-- Every identifier that is not empty comes to a full name. -/
theorem exists_nameFor_eq (group : String) {id : String} (hid : id ≠ "") :
    ∃ suffix, nameFor group id = fullName group suffix := by
  rcases nameFor_cases group hid with ⟨suffix, -, h⟩ | ⟨-, h⟩
  · exact ⟨suffix, h⟩
  · exact ⟨id, h⟩

/-- The one identifier is the full name of the other one, which is a bare suffix. -/
def SpellsOut (group full suffix : String) : Prop :=
  full = fullName group suffix ∧ ∀ s, suffix ≠ fullName group s

/-- **Which identifiers come to the same name**: equal ones, and a bare suffix and what spells it
out. -/
theorem nameFor_eq_nameFor_iff {group p q : String} (hp : p ≠ "") (hq : q ≠ "") :
    nameFor group p = nameFor group q ↔ p = q ∨ SpellsOut group p q ∨ SpellsOut group q p := by
  constructor
  · intro h
    rcases nameFor_cases group hp with ⟨a, rfl, hpa⟩ | ⟨hpbare, hpa⟩ <;>
      rcases nameFor_cases group hq with ⟨b, rfl, hqb⟩ | ⟨hqbare, hqb⟩ <;>
      rw [hpa, hqb] at h
    · exact .inl h
    · exact .inr (.inl ⟨h, hqbare⟩)
    · exact .inr (.inr ⟨h.symm, hpbare⟩)
    · exact .inl (fullName_injective h)
  · rintro (rfl | ⟨rfl, hbare⟩ | ⟨rfl, hbare⟩)
    · rfl
    · rw [nameFor_fullName, nameFor_of_bare hq hbare]
    · rw [nameFor_fullName, nameFor_of_bare hp hbare]

/-! ## 3. The group of a name -/

/-- **A group without an opening bracket** is what stands in front of the first one in each of its
names. -/
theorem takeWhile_nameFor {group : String} (hgroup : '[' ∉ group.toList) (id : String) :
    (nameFor group id).toList.takeWhile (· != '[') = group.toList := by
  have hall : ∀ c ∈ group.toList, (c != '[') = true := fun c hc =>
    bne_iff_ne.mpr fun he => hgroup (he ▸ hc)
  by_cases hid : id = ""
  · rw [hid, nameFor_empty, ← List.append_nil group.toList, List.takeWhile_append_of_pos hall]
    rfl
  · obtain ⟨suffix, h⟩ := exists_nameFor_eq group hid
    rw [h, toList_fullName, List.takeWhile_append_of_pos hall, List.takeWhile_cons_of_neg (by simp),
      List.append_nil]

/-! ## 4. Names of requests -/

/-- **Names are unambiguous.**
* The name is the group itself exactly if there is no planner identifier.
* Any other identifier, whatever it contains, comes to the group with something in brackets, and
  the name that came out, given as the identifier, comes to itself.
* Two requests for one group, each with an identifier, mean the same configuration exactly if their
  identifiers are equal, or one of them spells out the other, which is a bare suffix.
* Everything that is the group with something in brackets is the name that some request means.
* If two groups have no opening bracket, no request for one means a name that a request for the
  other means. -/
theorem names_unambiguous :
    (∀ r : Request, r.configurationName = r.group ↔ r.plannerId = "") ∧
    (∀ r : Request, r.plannerId ≠ "" →
      (∃ suffix, r.configurationName = r.group ++ "[" ++ suffix ++ "]") ∧
      ∀ r' : Request, r'.group = r.group → r'.plannerId = r.configurationName →
        r'.configurationName = r.configurationName) ∧
    (∀ r r' : Request, r.group = r'.group → r.plannerId ≠ "" → r'.plannerId ≠ "" →
      (r.configurationName = r'.configurationName ↔
        r.plannerId = r'.plannerId ∨ SpellsOut r.group r.plannerId r'.plannerId ∨
          SpellsOut r.group r'.plannerId r.plannerId)) ∧
    (∀ group suffix, ∃ r : Request,
      r.group = group ∧ r.configurationName = group ++ "[" ++ suffix ++ "]") ∧
    ∀ r r' : Request, '[' ∉ r.group.toList → '[' ∉ r'.group.toList →
      r.configurationName = r'.configurationName → r.group = r'.group := by
  refine ⟨fun r => ?alone, fun r hid => ⟨?bracketed, fun r' hgroup hname => ?again⟩,
    fun r r' hgroup hid hid' => ?kernel, fun group suffix => ?onto, fun r r' hr hr' h => ?groups⟩
  case alone =>
    constructor
    · intro h
      refine Decidable.byContradiction fun hid => ?_
      obtain ⟨suffix, hname⟩ := exists_nameFor_eq r.group hid
      exact fullName_ne_group r.group suffix (hname.symm.trans h)
    · intro hid
      rw [configurationName, hid, nameFor_empty]
  case bracketed => exact exists_nameFor_eq r.group hid
  case again =>
    obtain ⟨suffix, h⟩ := exists_nameFor_eq r.group hid
    rw [configurationName, hgroup, hname, configurationName, h, nameFor_fullName]
  case kernel =>
    rw [configurationName, configurationName, ← hgroup]
    exact nameFor_eq_nameFor_iff hid hid'
  case onto =>
    exact ⟨{ group := group, plannerId := fullName group suffix }, rfl,
      nameFor_fullName group suffix⟩
  case groups =>
    have htaken := congrArg (fun s : String => s.toList.takeWhile (· != '[')) h
    dsimp only [configurationName] at htaken
    rw [takeWhile_nameFor hr, takeWhile_nameFor hr'] at htaken
    exact String.toList_inj.mp htaken

/-- A suffix and what spells it out mean one configuration; spelling out once more what is spelled
out already means another one, for its suffix is not bare.  And the groups `arm` and `arms` have no
name in common. -/
theorem names_unambiguous_nested :
    let bare : Request := { group := "arm", plannerId := "rrt]" }
    let full : Request := { group := "arm", plannerId := "arm[rrt]]" }
    let nested : Request := { group := "arm", plannerId := "arm[arm[rrt]]]" }
    let arms : Request := { group := "arms", plannerId := "rrt]" }
    bare.configurationName = full.configurationName ∧
      full.configurationName ≠ nested.configurationName ∧
      bare.configurationName ≠ arms.configurationName := by
  intro bare full nested arms
  obtain ⟨-, -, hkernel, -, hgroups⟩ := names_unambiguous
  refine ⟨?_, ?_, ?_⟩
  · have hbare : ∀ s, bare.plannerId ≠ fullName "arm" s := fun s hs =>
      absurd (isFullName_iff.mpr ⟨s, hs⟩) (by decide +kernel)
    exact (hkernel bare full rfl (by decide) (by decide)).mpr
      (.inr (.inr ⟨by decide +kernel, hbare⟩))
  · refine mt (hkernel full nested rfl (by decide) (by decide)).mp ?_
    rintro (h | ⟨h, -⟩ | ⟨-, hbare⟩)
    · exact absurd h (by decide)
    · exact absurd h (by decide +kernel)
    · exact hbare "rrt]" (by decide +kernel)
  · exact fun h => absurd (hgroups bare arms (by decide +kernel) (by decide +kernel) h) (by decide)

end MotionContexts.Request
