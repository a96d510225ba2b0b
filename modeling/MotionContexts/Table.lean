/-
# Tables: finite maps from text to values

Options of a configuration, configurations by name, planners by name: every map that an answer
lists is keyed by text and listed in the code-point order of its keys.  A `Table` keeps its
entries in that order, so the map and its listing are ONE value, and two tables that answer every
look-up alike are equal.

Main statements:
* `get?_insert`, `get?_erase`: an update is seen at its own key and nowhere else;
* `keys_pairwise`: the keys are listed in strictly ascending order, hence without repetition;
* `ext_get?`: a table is determined by its look-ups.
-/
import MotionContexts.Entries

namespace MotionContexts

universe u v

/-- A finite map from text, its entries in STRICTLY ascending code-point order of the keys. -/
@[ext] structure Table (α : Type u) where
  entries : List (String × α)
  sorted : entries.Pairwise fun a b => a.1 < b.1
  deriving DecidableEq

namespace Table

variable {α : Type u} {β : Type v}

/-! ## 1. Sorted entry lists -/

/-- Put a value under a key: in the key's place if it is taken, else where the order wants it. -/
def put (k : String) (v : α) : List (String × α) → List (String × α)
  | [] => [(k, v)]
  | (j, w) :: t =>
    if k < j then (k, v) :: (j, w) :: t
    else if k = j then (k, v) :: t
    else (j, w) :: put k v t

theorem mem_put {k : String} {v : α} {e : String × α} :
    ∀ {l : List (String × α)}, e ∈ put k v l → e = (k, v) ∨ e ∈ l
  | [], h => by simpa [put] using h
  | (j, w) :: t, h => by
    unfold put at h
    split at h
    · simpa using h
    · split at h
      · rcases List.mem_cons.mp h with h | h
        · exact .inl h
        · exact .inr (List.mem_cons_of_mem _ h)
      · rcases List.mem_cons.mp h with h | h
        · exact .inr (h ▸ List.mem_cons_self ..)
        · exact (mem_put h).imp_right (List.mem_cons_of_mem _)

theorem put_sorted (k : String) (v : α) :
    ∀ {l : List (String × α)}, l.Pairwise (fun a b => a.1 < b.1) →
      (put k v l).Pairwise fun a b => a.1 < b.1
  | [], _ => List.pairwise_singleton ..
  | (j, w) :: t, h => by
    obtain ⟨hj, ht⟩ := List.pairwise_cons.mp h
    unfold put
    split
    · rename_i hk
      refine List.pairwise_cons.mpr ⟨?_, h⟩
      intro e he
      rcases List.mem_cons.mp he with rfl | he
      · exact hk
      · exact String.lt_trans hk (hj e he)
    · split
      · rename_i hk
        exact List.pairwise_cons.mpr ⟨fun e he => hk ▸ hj e he, ht⟩
      · rename_i hlt hne
        refine List.pairwise_cons.mpr ⟨?_, put_sorted k v ht⟩
        intro e he
        rcases mem_put he with rfl | he
        · rcases Std.lt_trichotomy k j with h1 | h1 | h1
          · exact absurd h1 hlt
          · exact absurd h1 hne
          · exact h1
        · exact hj e he

theorem find_put (k j : String) (v : α) :
    ∀ l : List (String × α), Entries.find j (put k v l) = if j = k then some v else Entries.find j l
  | [] => rfl
  | (i, w) :: t => by
    unfold put
    split
    · rfl
    · split
      · rename_i hk
        subst hk
        simp only [Entries.find_cons]
        split <;> rfl
      · rename_i hne
        rw [Entries.find_cons, Entries.find_cons, find_put k j v t]
        by_cases h : j = k
        · simp [h, hne]
        · simp [h]

theorem find_eq_none_of_lt {k : String} {l : List (String × α)} (h : ∀ e ∈ l, k < e.1) :
    Entries.find k l = none := by
  have hk : ¬ k ∈ l.map (·.1) := fun hm => by
    obtain ⟨e, he, hke⟩ := List.mem_map.mp hm
    exact String.lt_irrefl k (hke ▸ h e he)
  exact Option.isNone_iff_eq_none.mp (by
    simpa using mt (Entries.find_isSome_iff k l).mp hk)

/-- Sorted entry lists that answer every look-up alike are equal. -/
theorem eq_of_find_eq :
    ∀ {l m : List (String × α)}, l.Pairwise (fun a b => a.1 < b.1) →
      m.Pairwise (fun a b => a.1 < b.1) → (∀ k, Entries.find k l = Entries.find k m) → l = m
  | [], [], _, _, _ => rfl
  | [], (j, w) :: t, _, _, h => by simpa [Entries.find_cons] using h j
  | (j, w) :: t, [], _, _, h => by simpa [Entries.find_cons] using h j
  | (i, x) :: s, (j, w) :: t, hs, ht, h => by
    obtain ⟨hi, hs'⟩ := List.pairwise_cons.mp hs
    obtain ⟨hj, ht'⟩ := List.pairwise_cons.mp ht
    have hij : i = j := by
      rcases Std.lt_trichotomy i j with hlt | he | hlt
      · have hn : Entries.find i ((j, w) :: t) = none := by
          refine find_eq_none_of_lt fun e he => ?_
          rcases List.mem_cons.mp he with rfl | he
          · exact hlt
          · exact String.lt_trans hlt (hj e he)
        simpa [hn, Entries.find_cons] using h i
      · exact he
      · have hn : Entries.find j ((i, x) :: s) = none := by
          refine find_eq_none_of_lt fun e he => ?_
          rcases List.mem_cons.mp he with rfl | he
          · exact hlt
          · exact String.lt_trans hlt (hi e he)
        simpa [hn, Entries.find_cons] using h j
    subst hij
    have hxw : x = w := by simpa [Entries.find_cons] using h i
    subst hxw
    have hst : s = t := by
      refine eq_of_find_eq hs' ht' fun k => ?_
      by_cases hk : k = i
      · rw [hk, find_eq_none_of_lt hi, find_eq_none_of_lt hj]
      · simpa [Entries.find_cons, hk] using h k
    rw [hst]

/-! ## 2. Operations -/

/-- The table without entries. -/
def empty : Table α := ⟨[], .nil⟩

instance : EmptyCollection (Table α) := ⟨empty⟩
instance : Inhabited (Table α) := ⟨empty⟩

/-- The value under a key. -/
def get? (t : Table α) (k : String) : Option α := Entries.find k t.entries

/-- Whether a key has a value. -/
def contains (t : Table α) (k : String) : Bool := (t.get? k).isSome

/-- Give a key a value, in place of the one it may have. -/
def insert (t : Table α) (k : String) (v : α) : Table α := ⟨put k v t.entries, put_sorted k v t.sorted⟩

/-- Take a key out, with its value. -/
def erase (t : Table α) (k : String) : Table α :=
  ⟨t.entries.filter fun e => e.1 != k, t.sorted.filter _⟩

/-- The keys, in ascending order. -/
def keys (t : Table α) : List String := t.entries.map (·.1)

/-- The values, in the order of their keys. -/
def values (t : Table α) : List α := t.entries.map (·.2)

/-- How many entries there are. -/
def size (t : Table α) : Nat := t.entries.length

/-- Whether there is no entry. -/
def isEmpty (t : Table α) : Bool := t.entries.isEmpty

/-- The pairs put in one after the other: of two with one key, the LATER stays. -/
def ofList (l : List (String × α)) : Table α := l.foldl (fun t e => t.insert e.1 e.2) ∅

/-! ## 3. What the operations do to look-ups -/

@[simp] theorem get?_empty (k : String) : (∅ : Table α).get? k = none := rfl

theorem get?_insert (t : Table α) (k j : String) (v : α) :
    (t.insert k v).get? j = if j = k then some v else t.get? j := find_put k j v t.entries

@[simp] theorem get?_insert_self (t : Table α) (k : String) (v : α) :
    (t.insert k v).get? k = some v := by simp [get?_insert]

theorem get?_erase (t : Table α) (k j : String) :
    (t.erase k).get? j = if j = k then none else t.get? j := by
  refine (Entries.find_filter (· != k) j t.entries).trans ?_
  by_cases h : j = k <;> simp [h, get?]

@[simp] theorem get?_erase_self (t : Table α) (k : String) : (t.erase k).get? k = none := by
  simp [get?_erase]

theorem contains_iff_mem_keys (t : Table α) (k : String) : t.contains k = true ↔ k ∈ t.keys :=
  Entries.find_isSome_iff k t.entries

theorem contains_eq_false_iff (t : Table α) (k : String) :
    t.contains k = false ↔ t.get? k = none := by
  rw [contains, Option.isSome_eq_false_iff, Option.isNone_iff_eq_none]

/-- The entries of a table are what its look-ups answer. -/
theorem get?_eq_some_iff (t : Table α) {k : String} {v : α} : t.get? k = some v ↔ (k, v) ∈ t.entries :=
  Entries.find_eq_some_iff (List.pairwise_map.mpr (t.sorted.imp fun h => String.ne_of_lt h))

/-- The keys are listed in strictly ascending order. -/
theorem keys_pairwise (t : Table α) : t.keys.Pairwise (· < ·) :=
  List.pairwise_map.mpr t.sorted

theorem keys_nodup (t : Table α) : t.keys.Nodup :=
  t.keys_pairwise.imp fun h => String.ne_of_lt h

/-- Tables with values under the same keys list the same keys. -/
theorem keys_congr {s : Table α} {t : Table β} (h : ∀ k, (s.get? k).isSome = (t.get? k).isSome) :
    s.keys = t.keys := by
  have hmem : ∀ k, k ∈ s.keys ↔ k ∈ t.keys := fun k => by
    rw [← contains_iff_mem_keys, ← contains_iff_mem_keys, contains, contains, h]
  have hperm := (List.perm_ext_iff_of_nodup s.keys_nodup t.keys_nodup).mpr hmem
  refine hperm.eq_of_pairwise (fun a b _ _ hab hba => ?_) s.keys_pairwise t.keys_pairwise
  exact absurd (String.lt_trans hab hba) (String.lt_irrefl a)

/-- A table is determined by its look-ups. -/
theorem ext_get? {s t : Table α} (h : ∀ k, s.get? k = t.get? k) : s = t :=
  Table.ext (eq_of_find_eq s.sorted t.sorted h)

end Table

end MotionContexts
