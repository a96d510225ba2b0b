/-
# Keyed lists: finite maps without an order

Cached contexts, blobs by path, entries of a directory tree: maps that are looked up and counted,
but never listed by key.  A `KeyedList` holds each key once, in the order of first insertion.

Main statements:
* `get?_insert`, `get?_filterKeys`, `get?_erase`: what an update does to look-ups;
* `size_insert`: an insertion adds one entry exactly when the key is new;
* `ext_get?`: keyed lists with the same keys in the same order are determined by their look-ups.
-/
import MotionContexts.Entries

namespace MotionContexts

universe u v

/-- A finite map as a list of pairs, NO two with the same key. -/
structure KeyedList (κ : Type u) (α : Type v) where
  entries : List (κ × α)
  nodup : (entries.map (·.1)).Nodup
  deriving DecidableEq

namespace KeyedList

variable {κ : Type u} {α : Type v} [DecidableEq κ]

/-! ## 1. Entry lists -/

/-- Put a value under a key: in the key's place if it is taken, else at the end. -/
def put (k : κ) (v : α) : List (κ × α) → List (κ × α)
  | [] => [(k, v)]
  | (j, w) :: t => if k = j then (k, v) :: t else (j, w) :: put k v t

theorem map_fst_put (k : κ) (v : α) :
    ∀ l : List (κ × α),
      (put k v l).map (·.1) = if k ∈ l.map (·.1) then l.map (·.1) else l.map (·.1) ++ [k]
  | [] => by simp [put]
  | (j, w) :: t => by
    have ih := map_fst_put k v t
    by_cases h : k = j
    · simp [put, h]
    · by_cases hm : k ∈ t.map (·.1)
      · simp_all [put]
      · simp_all [put]

theorem nodup_put (k : κ) (v : α) {l : List (κ × α)} (h : (l.map (·.1)).Nodup) :
    ((put k v l).map (·.1)).Nodup := by
  rw [map_fst_put]
  split
  · exact h
  · rename_i hk
    refine List.nodup_append.mpr ⟨h, by simp, ?_⟩
    intro a ha b hb e
    rw [List.mem_singleton] at hb
    exact hk (hb ▸ e ▸ ha)

theorem find_put (k j : κ) (v : α) :
    ∀ l : List (κ × α), Entries.find j (put k v l) = if j = k then some v else Entries.find j l
  | [] => rfl
  | (i, w) :: t => by
    unfold put
    split
    · rename_i hk
      subst hk
      simp only [Entries.find_cons]
      split <;> rfl
    · rename_i hne
      rw [Entries.find_cons, Entries.find_cons, find_put k j v t]
      by_cases h : j = k
      · simp [h, hne]
      · simp [h]

/-- Entry lists with the same keys in the same order, none twice, are equal if they answer every
look-up alike. -/
theorem eq_of_find_eq :
    ∀ {l m : List (κ × α)}, l.map (·.1) = m.map (·.1) → (l.map (·.1)).Nodup →
      (∀ k, Entries.find k l = Entries.find k m) → l = m
  | [], [], _, _, _ => rfl
  | [], _ :: _, hkeys, _, _ => by cases hkeys
  | _ :: _, [], hkeys, _, _ => by cases hkeys
  | (j, x) :: l, (i, y) :: m, hkeys, hnodup, h => by
    obtain ⟨hji, htail⟩ : j = i ∧ l.map (·.1) = m.map (·.1) := List.cons.inj hkeys
    subst hji
    obtain ⟨hj, hnodup⟩ := List.nodup_cons.mp hnodup
    have hxy : x = y := by simpa [Entries.find_cons] using h j
    subst hxy
    have hlm : l = m := by
      refine eq_of_find_eq htail hnodup fun k => ?_
      by_cases hk : k = j
      · -- the key stands nowhere behind its first place
        subst hk
        have hl : Entries.find k l = none := by
          simpa using mt (Entries.find_isSome_iff k l).mp hj
        have hm : Entries.find k m = none := by
          simpa using mt (Entries.find_isSome_iff k m).mp (htail ▸ hj)
        rw [hl, hm]
      · simpa [Entries.find_cons, hk] using h k
    rw [hlm]

/-! ## 2. Operations -/

/-- The map without entries. -/
def empty : KeyedList κ α := ⟨[], .nil⟩

instance : EmptyCollection (KeyedList κ α) := ⟨empty⟩
instance : Inhabited (KeyedList κ α) := ⟨empty⟩

/-- The value under a key. -/
def get? (m : KeyedList κ α) (k : κ) : Option α := Entries.find k m.entries

/-- Whether a key has a value. -/
def contains (m : KeyedList κ α) (k : κ) : Bool := (m.get? k).isSome

/-- Give a key a value, in place of the one it may have. -/
def insert (m : KeyedList κ α) (k : κ) (v : α) : KeyedList κ α :=
  ⟨put k v m.entries, nodup_put k v m.nodup⟩

/-- Keep the entries whose key passes the test. -/
def filterKeys (m : KeyedList κ α) (p : κ → Bool) : KeyedList κ α :=
  ⟨m.entries.filter fun e => p e.1, m.nodup.sublist (List.filter_sublist.map _)⟩

/-- Take a key out, with its value. -/
def erase (m : KeyedList κ α) (k : κ) : KeyedList κ α := m.filterKeys (· != k)

/-- How many entries there are. -/
def size (m : KeyedList κ α) : Nat := m.entries.length

/-- Whether there is no entry. -/
def isEmpty (m : KeyedList κ α) : Bool := m.entries.isEmpty

/-! ## 3. What the operations do to look-ups and to the size -/

@[simp] theorem get?_empty (k : κ) : (∅ : KeyedList κ α).get? k = none := rfl

theorem get?_insert (m : KeyedList κ α) (k j : κ) (v : α) :
    (m.insert k v).get? j = if j = k then some v else m.get? j := find_put k j v m.entries

@[simp] theorem get?_insert_self (m : KeyedList κ α) (k : κ) (v : α) :
    (m.insert k v).get? k = some v := by simp [get?_insert]

theorem get?_filterKeys (m : KeyedList κ α) (p : κ → Bool) (j : κ) :
    (m.filterKeys p).get? j = if p j then m.get? j else none := Entries.find_filter p j m.entries

theorem get?_erase (m : KeyedList κ α) (k j : κ) :
    (m.erase k).get? j = if j = k then none else m.get? j := by
  rw [erase, get?_filterKeys]
  by_cases h : j = k <;> simp [h]

theorem contains_iff_mem_keys (m : KeyedList κ α) (k : κ) :
    m.contains k = true ↔ k ∈ m.entries.map (·.1) := Entries.find_isSome_iff k m.entries

/-- An insertion adds one entry exactly when the key is new. -/
theorem size_insert (m : KeyedList κ α) (k : κ) (v : α) :
    (m.insert k v).size = if m.contains k then m.size else m.size + 1 := by
  have h := congrArg List.length (map_fst_put k v m.entries)
  have hc := contains_iff_mem_keys m k
  rw [List.length_map] at h
  unfold size insert
  rw [h]
  by_cases hk : k ∈ m.entries.map (·.1)
  · rw [if_pos hk, if_pos (hc.mpr hk), List.length_map]
  · rw [if_neg hk, if_neg fun e => hk (hc.mp e), List.length_append, List.length_map]
    rfl

/-- The keys stay in their places; a new one comes last. -/
theorem keys_insert (m : KeyedList κ α) (k : κ) (v : α) :
    (m.insert k v).entries.map (·.1) =
      if k ∈ m.entries.map (·.1) then m.entries.map (·.1) else m.entries.map (·.1) ++ [k] :=
  map_fst_put k v m.entries

/-- A keyed list is determined by its keys, in order, and its look-ups. -/
theorem ext_get? {m n : KeyedList κ α} (hkeys : m.entries.map (·.1) = n.entries.map (·.1))
    (h : ∀ k, m.get? k = n.get? k) : m = n := by
  have hentries : m.entries = n.entries := eq_of_find_eq hkeys m.nodup h
  cases m
  cases n
  simpa using hentries

end KeyedList

end MotionContexts
