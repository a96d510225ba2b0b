/-
# Entry lists: looking a key up in a list of pairs

Both kinds of finite map of this library, `Table` and `KeyedList`, are lists of pairs with a
condition on the keys.  Here is what they share: the look-up, which answers the FIRST pair with
the key, and what a pair at the end and a filter on the keys do to it.
-/
namespace MotionContexts

universe u v

/-- The value of the first pair with the key. -/
def Entries.find {κ : Type u} {α : Type v} [DecidableEq κ] (k : κ) : List (κ × α) → Option α
  | [] => none
  | (j, w) :: t => if k = j then some w else Entries.find k t

namespace Entries

variable {κ : Type u} {α : Type v} [DecidableEq κ]

@[simp] theorem find_nil (k : κ) : find k ([] : List (κ × α)) = none := rfl

theorem find_cons (k j : κ) (w : α) (t : List (κ × α)) :
    find k ((j, w) :: t) = if k = j then some w else find k t := rfl

/-- A key answers exactly when some pair carries it. -/
theorem find_isSome_iff (k : κ) :
    ∀ l : List (κ × α), (find k l).isSome = true ↔ k ∈ l.map (·.1)
  | [] => by simp
  | (j, w) :: t => by
    have ih := find_isSome_iff k t
    by_cases h : k = j
    · simp [find_cons, h]
    · rw [find_cons, if_neg h, ih]
      simp [h]

/-- A pair at the end answers where no other one does. -/
theorem find_concat (k j : κ) (v : α) :
    ∀ l : List (κ × α), find k (l ++ [(j, v)]) = (find k l).or (if k = j then some v else none)
  | [] => rfl
  | (i, w) :: t => by
    rw [List.cons_append, find_cons, find_cons, find_concat k j v t]
    split <;> rfl

/-- A filter on the keys leaves the look-ups of the keys that pass and empties the others. -/
theorem find_filter (p : κ → Bool) (k : κ) :
    ∀ l : List (κ × α), find k (l.filter fun e => p e.1) = if p k then find k l else none
  | [] => by simp
  | (j, w) :: t => by
    have ih := find_filter p k t
    by_cases hj : p j = true
    · rw [List.filter_cons_of_pos (by simpa using hj), find_cons, find_cons, ih]
      by_cases h : k = j
      · simp [h, hj]
      · simp [h]
    · rw [List.filter_cons_of_neg (by simpa using hj), ih, find_cons]
      by_cases h : k = j
      · simp [h, hj]
      · simp [h]

/-- Where no key is repeated, a look-up finds exactly the pairs of the list. -/
theorem find_eq_some_iff {k : κ} {v : α} :
    ∀ {l : List (κ × α)}, (l.map (·.1)).Nodup → (find k l = some v ↔ (k, v) ∈ l)
  | [], _ => by simp
  | (j, w) :: t, h => by
    obtain ⟨hj, ht⟩ := List.nodup_cons.mp h
    rw [find_cons, List.mem_cons]
    by_cases hk : k = j
    · subst hk
      have hv : (k, v) ∉ t := fun hm => hj (List.mem_map.mpr ⟨_, hm, rfl⟩)
      simp [hv, eq_comm]
    · simp [hk, find_eq_some_iff ht]

end Entries

end MotionContexts
