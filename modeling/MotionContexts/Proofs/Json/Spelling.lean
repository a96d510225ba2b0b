/-
# One record, many objects

The fields of a record may stand in any order, a field that has its default may be missing, and
there may be fields that nobody looks for.  `Json.Spells` says which objects have the given fields,
`Json.OptionalField` when a field may be missing.

A reader does not see the difference: it looks its fields up by name, and in every spelling a name
finds the same value.  What nobody looks for has to be a value that can be written and read all the
same; here it is a text, a truth value or `null` (`Json.Plain`).

Main statements:
* `Spells.fields?`, the fields that a reader finds;
* `Spells.lasting`, the text of a spelling can be read;
* `OptionalField.withDefault`, a missing field is read as its default.
-/
import Mathlib.Data.List.Forall2
import MotionContexts.Json.Record
import MotionContexts.Proofs.Json.RoundTrip

namespace MotionContexts

universe u v

/-! ## 1. Looking up -/

namespace Entries

variable {κ : Type u} {α : Type v} [DecidableEq κ]

/-- **The order does not matter** where no key is repeated. -/
theorem find_perm {l l' : List (κ × α)} (h : l.Perm l') (hl : (l.map (·.1)).Nodup) (k : κ) :
    find k l = find k l' := by
  have hl' : (l'.map (·.1)).Nodup := (h.map _).nodup_iff.mp hl
  refine Option.ext fun v => ?_
  rw [find_eq_some_iff hl, find_eq_some_iff hl', h.mem_iff]

theorem find_append (k : κ) (l l' : List (κ × α)) :
    find k (l ++ l') = (find k l).or (find k l') := by
  induction l with
  | nil => rfl
  | cons e l ih =>
    rw [List.cons_append, find_cons, find_cons, ih]
    split <;> rfl

end Entries

/-- A field is read as what its name finds. -/
theorem Datum.Fields.withDefault_congr {δ : Type u} [Datum δ] {α : Type} {f g : Datum.Fields δ}
    {name : String} (h : Entries.find name f = Entries.find name g) (read : δ → Option α) (a : α) :
    Datum.Fields.withDefault f name read a = Datum.Fields.withDefault g name read a := by
  rw [Datum.Fields.withDefault, Datum.Fields.withDefault, h]

namespace Json

/-! ## 2. Values that nobody looks at -/

/-- A text, a truth value or `null`. -/
inductive Plain : Json → Prop
  | null : Plain .null
  | bool (b : Bool) : Plain (.bool b)
  | text (s : String) : Plain (.ofString s)

theorem Plain.lasting {v : Json} (h : v.Plain) : v.lasting = true := by
  cases h <;> rfl

/-- A plain value can be held wherever it stands. -/
theorem Plain.holdable {v : Json} (h : v.Plain) (room : Nat) : v.holdable room = true := by
  cases h <;> rfl

/-! ## 3. Records -/

/-- `v` is an object with the given fields, in any order, and perhaps with other fields, whose names
are none of the record's. -/
def Spells (names : List String) (fields : List (String × Json)) (v : Json) : Prop :=
  ∃ extra fs : List (String × Json), (∀ f ∈ extra, f.1 ∉ names ∧ f.2.Plain) ∧
    fs.Perm (fields ++ extra) ∧ v = .ofFields fs

theorem entries?_ofFields (fs : List (String × Json)) : (ofFields fs).entries? = some fs := by
  show (fs.map fun f => (some f.1, f.2)).mapM (fun f : Option String × Json =>
    f.1.map fun k => (k, f.2)) = some fs
  rw [List.mapM_map]
  induction fs with
  | nil => rfl
  | cons f fs ih =>
    rw [List.mapM_cons, ih]
    rfl

theorem lastingFields_ofFields (fs : List (String × Json)) :
    (ofFields fs).lasting = true ↔ ∀ f ∈ fs, f.2.lasting = true := by
  show lastingFields (fs.map fun f => (some f.1, f.2)) = true ↔ _
  induction fs with
  | nil => simp [lastingFields]
  | cons f fs ih => simp [lastingFields, ih]

theorem lasting_array (vs : List Json) :
    (array vs).lasting = true ↔ ∀ v ∈ vs, v.lasting = true := by
  show lastingItems vs = true ↔ _
  induction vs with
  | nil => simp [lastingItems]
  | cons v vs ih => simp [lastingItems, ih]

namespace Spells

variable {names : List String} {fields : List (String × Json)} {v : Json}

/-- The fields themselves, in their order. -/
theorem ofFields (names : List String) (fields : List (String × Json)) :
    Spells names fields (.ofFields fields) :=
  ⟨[], fields, fun _ h => absurd h List.not_mem_nil, by rw [List.append_nil], rfl⟩

/-- **The text of a spelling can be read** if the fields of the record can. -/
theorem lasting (h : Spells names fields v) (hfields : ∀ f ∈ fields, f.2.lasting = true) :
    v.lasting = true := by
  obtain ⟨extra, fs, hextra, hperm, rfl⟩ := h
  refine (lastingFields_ofFields fs).mpr fun f hf => ?_
  rcases List.mem_append.mp (hperm.mem_iff.mp hf) with hf | hf
  · exact hfields f hf
  · exact (hextra f hf).2.lasting

/-- **A reader finds the fields of the record**, by name. -/
theorem fields? (h : Spells names fields v) (hnodup : names.Nodup)
    (hnames : (fields.map (·.1)).Sublist names) :
    ∃ known, v.fields? names = some known ∧
      ∀ name, Entries.find name known = Entries.find name fields := by
  obtain ⟨extra, fs, hextra, hperm, rfl⟩ := h
  -- of what is there the reader keeps the fields of the record
  have hin : ∀ f ∈ fields, names.contains f.1 = true := fun f hf =>
    List.contains_iff_mem.mpr (hnames.subset (List.mem_map.mpr ⟨f, hf, rfl⟩))
  have hout : ∀ f ∈ extra, ¬ names.contains f.1 = true := fun f hf =>
    fun hc => (hextra f hf).1 (List.contains_iff_mem.mp hc)
  have hknown : (fs.filter fun f => names.contains f.1).Perm fields := by
    refine (hperm.filter _).trans ?_
    rw [List.filter_append, List.filter_eq_self.mpr hin, List.filter_eq_nil_iff.mpr hout,
      List.append_nil]
  have hkeys : ((fs.filter fun f => names.contains f.1).map (·.1)).Nodup :=
    (hknown.map _).nodup_iff.mpr (hnodup.sublist hnames)
  refine ⟨_, ?_, Entries.find_perm hknown hkeys⟩
  show ((Json.ofFields fs).entries?).bind (known? names) = _
  rw [entries?_ofFields, Option.bind_some, known?, if_pos hkeys]

end Spells

/-! ## 4. Fields that may be missing -/

/-- A field that may be missing under a condition, and is as told where it is not. -/
inductive OptionalField (name : String) (absent : Prop) (present : Json → Prop) :
    List (String × Json) → Prop
  | omitted (h : absent) : OptionalField name absent present []
  | given {v : Json} (h : present v) : OptionalField name absent present [(name, v)]

namespace OptionalField

variable {name : String} {absent : Prop} {present : Json → Prop} {fs : List (String × Json)}

theorem keys (h : OptionalField name absent present fs) : (fs.map (·.1)).Sublist [name] := by
  cases h with
  | omitted => exact List.nil_sublist _
  | given => exact List.Sublist.refl _

theorem lasting (h : OptionalField name absent present fs)
    (hpresent : ∀ v, present v → v.lasting = true) : ∀ f ∈ fs, f.2.lasting = true := by
  cases h with
  | omitted => exact fun f hf => absurd hf List.not_mem_nil
  | given hv =>
    intro f hf
    rw [List.mem_singleton.mp hf]
    exact hpresent _ hv

/-- Under another name nothing is found. -/
theorem find_other (h : OptionalField name absent present fs) {other : String}
    (hne : other ≠ name) : Entries.find other fs = none := by
  cases h with
  | omitted => rfl
  | given => rw [Entries.find_cons, if_neg hne, Entries.find_nil]

/-- **A missing field is read as its default.** -/
theorem withDefault {α : Type} {read : Json → Option α} {a x : α}
    (h : OptionalField name absent present fs) (habsent : absent → a = x)
    (hpresent : ∀ v, present v → read v = some x) :
    Datum.Fields.withDefault fs name read a = some x := by
  unfold Datum.Fields.withDefault
  cases h with
  | omitted h => exact congrArg some (habsent h)
  | @given v h =>
    rw [Entries.find_cons, if_pos rfl]
    exact hpresent v h

end OptionalField

/-! ## 5. Lists -/

/-- A list is read if all its items are. -/
theorem list?_of_forall₂ {α : Type} {read : Json → Option α} {as : List α} {vs : List Json}
    (h : List.Forall₂ (fun a v => read v = some a) as vs) :
    Datum.list? read (.array vs) = some as := by
  show vs.mapM read = some as
  induction h with
  | nil => rfl
  | cons h _ ih =>
    rw [List.mapM_cons, h, ih]
    rfl

/-- A list can be read if all its items can. -/
theorem lasting_array_of_forall₂ {α : Type} {R : α → Json → Prop} {as : List α} {vs : List Json}
    (h : List.Forall₂ R as vs) (hR : ∀ a v, R a v → v.lasting = true) :
    (array vs).lasting = true := by
  rw [lasting_array]
  induction h with
  | nil => exact fun v hv => absurd hv List.not_mem_nil
  | cons h _ ih => exact List.forall_mem_cons.mpr ⟨hR _ _ h, ih⟩

end Json

end MotionContexts
