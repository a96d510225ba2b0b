/-
# What leaves a trace in a workspace

A workspace only grows: calls are put at the end of the record, and a planner, once enrolled, keeps
its instance number.  This module says what the single operations add.

A call SAVES if it asks a storage to store planner data, whatever the outcome.  No operation but
`Workspace.store` makes such a call, so what was ever attempted to be saved can be read off the
record.

Main statements:
* `Quiet.saves` and `Saved.saves`, what is seen among the saves of calls that do not save and of
  calls that do;
* `Enrolls.planner?`, enrolling a planner is seen at its own number and nowhere else.
-/
import MotionContexts.Workspace

namespace MotionContexts

universe u

/-- The place and the data of a call that asks a storage to store something. -/
def Call.save? : Call → Option (Path × PlannerData)
  | .store path data _ => some (path, data)
  | _ => none

namespace Workspace

variable {σ : Type u}

/-! ## 1. The record -/

/-- `w'` is `w` with more calls on record, and NONE of them saves. -/
def Quiet (w w' : Workspace σ) : Prop :=
  ∃ made : List Call, (∀ c ∈ made, c.save? = none) ∧ w' = { w with calls := w.calls ++ made }

theorem Quiet.refl (w : Workspace σ) : w.Quiet w := ⟨[], by simp, by simp⟩

theorem Quiet.record {w w' : Workspace σ} {c : Call} (h : w.Quiet w') (hc : c.save? = none) :
    w.Quiet (w'.record c) := by
  obtain ⟨made, hm, rfl⟩ := h
  refine ⟨made ++ [c], ?_, by simp [Workspace.record]⟩
  intro d hd
  rcases List.mem_append.mp hd with hd | hd
  · exact hm d hd
  · rw [List.mem_singleton.mp hd]
    exact hc

theorem quiet_load (w : Workspace σ) (s : Storage σ) (p : Path) : w.Quiet (w.load s p).2 :=
  (Quiet.refl w).record rfl

/-- What was attempted to be saved on the way from one workspace to a later one, in order. -/
def saves (w w' : Workspace σ) : List (Path × PlannerData) :=
  (w'.calls.drop w.calls.length).filterMap Call.save?

theorem saves_of_calls {w w' : Workspace σ} {made : List Call} (h : w'.calls = w.calls ++ made) :
    w.saves w' = made.filterMap Call.save? := by
  rw [saves, h, List.drop_left]

theorem saves_of_calls_eq {w w' : Workspace σ} (h : w'.calls = w.calls) : w.saves w' = [] := by
  simp [saves, h]

theorem Quiet.saves {w w' : Workspace σ} (h : w.Quiet w') : w.saves w' = [] := by
  obtain ⟨made, hm, rfl⟩ := h
  rw [saves_of_calls rfl]
  exact List.filterMap_eq_nil_iff.mpr hm

/-- `w'` is a later `w` after saving `l`, in this order.  Storages may have other contents, but the
planners and the number of contexts are the same. -/
structure Saved (w w' : Workspace σ) (l : List (Path × PlannerData)) : Prop where
  planners : w'.planners = w.planners
  contexts : w'.contexts = w.contexts
  calls : ∃ made, w'.calls = w.calls ++ made ∧ made.filterMap Call.save? = l

theorem Saved.refl (w : Workspace σ) : w.Saved w [] := ⟨rfl, rfl, [], by simp, rfl⟩

theorem Saved.trans {w w₁ w₂ : Workspace σ} {l₁ l₂ : List (Path × PlannerData)} (h₁ : w.Saved w₁ l₁)
    (h₂ : w₁.Saved w₂ l₂) : w.Saved w₂ (l₁ ++ l₂) := by
  obtain ⟨made₁, hc₁, rfl⟩ := h₁.calls
  obtain ⟨made₂, hc₂, rfl⟩ := h₂.calls
  refine ⟨h₂.planners.trans h₁.planners, h₂.contexts.trans h₁.contexts, made₁ ++ made₂, ?_, ?_⟩
  · rw [hc₂, hc₁, List.append_assoc]
  · exact List.filterMap_append

theorem saved_store (w : Workspace σ) (s : Storage σ) (d : PlannerData) (p : Path) :
    w.Saved (w.store s d p).2 [(p, d)] := ⟨rfl, rfl, [_], rfl, rfl⟩

theorem Saved.saves {w w' : Workspace σ} {l : List (Path × PlannerData)} (h : w.Saved w' l) :
    w.saves w' = l := by
  obtain ⟨made, hc, rfl⟩ := h.calls
  exact saves_of_calls hc

theorem Saved.planner? {w w' : Workspace σ} {l : List (Path × PlannerData)} (h : w.Saved w' l)
    (n : Nat) :
    w'.planner? n = w.planner? n := by
  rw [Workspace.planner?, h.planners, Workspace.planner?]

/-! ## 2. Planners -/

/-- `w'` is `w` with the planner `p` enrolled under the number `n`.  There may be more calls on
record, but nothing was stored. -/
structure Enrolls (w w' : Workspace σ) (n : Nat) (p : Planner) : Prop where
  number : n = w.planners.length
  planners : w'.planners = w.planners ++ [p]
  quiet : w.Quiet { w' with planners := w.planners }

/-- A planner enrolled after quiet calls. -/
theorem Quiet.enroll {w w' : Workspace σ} (h : w.Quiet w') (p : Planner) :
    w.Enrolls (w'.enroll p).2 (w'.enroll p).1 p := by
  obtain ⟨made, hm, rfl⟩ := h
  exact ⟨rfl, rfl, made, hm, rfl⟩

/-- Enrolling a planner is seen at its own number and nowhere else. -/
theorem Enrolls.planner? {w w' : Workspace σ} {n : Nat} {p : Planner} (h : w.Enrolls w' n p)
    (k : Nat) :
    w'.planner? k = if k = n then some p else w.planner? k := by
  show w'.planners[k]? = _
  rw [h.planners, h.number]
  exact planner?_enroll w p k

theorem Enrolls.length {w w' : Workspace σ} {n : Nat} {p : Planner} (h : w.Enrolls w' n p) :
    w'.planners.length = w.planners.length + 1 := by
  rw [h.planners, List.length_append, List.length_singleton]

/-- Enrolling a planner builds no context. -/
theorem Enrolls.contexts {w w' : Workspace σ} {n : Nat} {p : Planner} (h : w.Enrolls w' n p) :
    w'.contexts = w.contexts := by
  obtain ⟨made, -, hmade⟩ := h.quiet
  have hc := congrArg Workspace.contexts hmade
  exact hc

/-- Enrolling a planner stores nothing. -/
theorem Enrolls.contents {w w' : Workspace σ} {n : Nat} {p : Planner} (h : w.Enrolls w' n p) :
    w'.contents = w.contents := by
  obtain ⟨made, -, hmade⟩ := h.quiet
  have hc := congrArg Workspace.contents hmade
  exact hc

theorem Enrolls.saves {w w' : Workspace σ} {n : Nat} {p : Planner} (h : w.Enrolls w' n p) :
    w.saves w' = [] := h.quiet.saves

theorem planner?_eq_some_of_lt {w : Workspace σ} {n : Nat} (h : n < w.planners.length) :
    ∃ p, w.planner? n = some p := ⟨_, List.getElem?_eq_getElem h⟩

theorem lt_of_planner?_eq_some {w : Workspace σ} {n : Nat} {p : Planner}
    (h : w.planner? n = some p) :
    n < w.planners.length := (List.getElem?_eq_some_iff.mp h).1

/-- Enrolling a planner leaves those alone that are there. -/
theorem Enrolls.planner?_of_some {w w' : Workspace σ} {n k : Nat} {p q : Planner}
    (h : w.Enrolls w' n p) (hq : w.planner? k = some q) : w'.planner? k = some q := by
  have hlt := lt_of_planner?_eq_some hq
  have hn := h.number
  rw [h.planner?, if_neg (by omega), hq]

/-- Exploring changes a graph and nothing else, so whatever is not read off graphs stays. -/
theorem map_planner?_explore {α : Type} (f : Planner → α)
    (hf : ∀ p bytes, f (p.explore bytes) = f p) (w : Workspace σ) (n k : Nat)
    (bytes : List UInt8) :
    ((w.explore n bytes).2.planner? k).map f = (w.planner? k).map f := by
  unfold explore
  split
  · rfl
  · rename_i p hp
    have hlt := lt_of_planner?_eq_some hp
    show ((w.planners.set n (p.explore bytes))[k]?).map f = (w.planners[k]?).map f
    by_cases hk : n = k
    · subst hk
      have hp' : w.planners[n]? = some p := hp
      rw [List.getElem?_set_self hlt, hp', Option.map_some, Option.map_some, hf]
    · rw [List.getElem?_set_ne hk]

/-- Exploring is seen at the planner's own number and nowhere else. -/
theorem planner?_explore (w : Workspace σ) (n k : Nat) (bytes : List UInt8) :
    (w.explore n bytes).2.planner? k =
      if k = n then (w.planner? k).map (·.explore bytes) else w.planner? k := by
  unfold explore
  split
  · rename_i hn
    by_cases hk : k = n
    · simp [hk, hn]
    · rw [if_neg hk]
  · rename_i p hp
    have hlt := lt_of_planner?_eq_some hp
    show (w.planners.set n (p.explore bytes))[k]? = _
    by_cases hk : k = n
    · rw [if_pos hk, hk, hp, List.getElem?_set_self hlt, Option.map_some]
    · rw [if_neg hk, List.getElem?_set_ne fun h => hk h.symm]
      rfl

@[simp] theorem length_planners_explore (w : Workspace σ) (n : Nat) (bytes : List UInt8) :
    (w.explore n bytes).2.planners.length = w.planners.length := by
  unfold explore
  split <;> simp

@[simp] theorem contexts_explore (w : Workspace σ) (n : Nat) (bytes : List UInt8) :
    (w.explore n bytes).2.contexts = w.contexts := by
  unfold explore
  split <;> rfl

@[simp] theorem contents_explore (w : Workspace σ) (n : Nat) (bytes : List UInt8) :
    (w.explore n bytes).2.contents = w.contents := by
  unfold explore
  split <;> rfl

@[simp] theorem calls_explore (w : Workspace σ) (n : Nat) (bytes : List UInt8) :
    (w.explore n bytes).2.calls = w.calls := by
  unfold explore
  split <;> rfl

end Workspace

end MotionContexts
