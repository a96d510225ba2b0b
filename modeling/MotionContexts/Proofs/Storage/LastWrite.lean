/-
# The last store wins

Contents go through many stores, and of what was stored at one place only the last is loaded.  Which
store is the last one has to be said with care where stores may fail: whether one of them does is
seen in the contents that the stores in front of it have left.  So a store is looked at together
with those in front of it (`LastOf`, `NoneOf`).

In memory no store fails, and paths are told apart by what `Path.same_iff_names` says and by nothing
else.  So every spelling of a path loads what was stored at any other.

Main statements:
* `Replaces.of_last` and `Replaces.of_none`, a value that some stores replace;
* `size_after_memory`, how many blobs there are;
* `last_write_wins`, all that can be asked of a memory.
-/
import Mathlib.Data.Finset.Card
import Mathlib.Data.List.Induction
import MotionContexts.Proofs.Path
import MotionContexts.Proofs.Storage

namespace MotionContexts

universe u v

/-! ## 1. The last one of its kind -/

section Last

variable {α : Type u} {P : List α → α → Prop}

/-- The last element of a list that meets a condition, in which those in front of it may have a
say. -/
def LastOf (P : List α → α → Prop) (l : List α) (x : α) : Prop :=
  ∃ before behind, l = before ++ x :: behind ∧ P before x ∧
    ∀ between y rest, behind = between ++ y :: rest → ¬ P (before ++ x :: between) y

/-- No element of a list meets the condition. -/
def NoneOf (P : List α → α → Prop) (l : List α) : Prop :=
  ∀ before x behind, l = before ++ x :: behind → ¬ P before x

theorem noneOf_concat_iff {l : List α} {x : α} : NoneOf P (l ++ [x]) ↔ NoneOf P l ∧ ¬ P l x := by
  constructor
  · intro h
    refine ⟨fun before y behind hl => ?_, h l x [] rfl⟩
    refine h before y (behind ++ [x]) ?_
    rw [hl, List.append_assoc, List.cons_append]
  · rintro ⟨h, hx⟩ before y behind hl
    rcases List.eq_nil_or_concat behind with rfl | ⟨behind, z, rfl⟩
    · obtain ⟨rfl, hy⟩ := List.append_inj' hl rfl
      cases hy
      exact hx
    · rw [List.concat_eq_append, ← List.cons_append, ← List.append_assoc] at hl
      exact h before y behind (List.append_inj' hl rfl).1

theorem lastOf_concat_iff {l : List α} {x y : α} :
    LastOf P (l ++ [x]) y ↔ (P l x ∧ y = x) ∨ (¬ P l x ∧ LastOf P l y) := by
  constructor
  · rintro ⟨before, behind, hl, hy, hlast⟩
    rcases List.eq_nil_or_concat behind with rfl | ⟨behind, z, rfl⟩
    · obtain ⟨rfl, hx⟩ := List.append_inj' hl rfl
      cases hx
      exact .inl ⟨hy, rfl⟩
    · rw [List.concat_eq_append, ← List.cons_append, ← List.append_assoc] at hl
      obtain ⟨rfl, hx⟩ := List.append_inj' hl rfl
      cases hx
      refine .inr ⟨hlast behind x [] (List.concat_eq_append ..), before, behind, rfl, hy, ?_⟩
      rintro between z rest rfl
      exact hlast between z (rest ++ [x]) (by simp)
  · rintro (⟨hx, rfl⟩ | ⟨hx, before, behind, rfl, hy, hlast⟩)
    · refine ⟨l, [], rfl, hx, fun between z rest hnil => ?_⟩
      simp at hnil
    · refine ⟨before, behind ++ [x], by simp, hy, fun between z rest hsplit => ?_⟩
      rcases List.eq_nil_or_concat rest with rfl | ⟨rest, w, rfl⟩
      · obtain ⟨rfl, hz⟩ := List.append_inj' hsplit rfl
        cases hz
        exact hx
      · rw [List.concat_eq_append, ← List.cons_append, ← List.append_assoc] at hsplit
        exact hlast between z rest (List.append_inj' hsplit rfl).1

/-- Either some element is the last one that meets the condition, or none meets it. -/
theorem exists_lastOf_or_noneOf (P : List α → α → Prop) (l : List α) :
    (∃ x, LastOf P l x) ∨ NoneOf P l := by
  induction l using List.reverseRecOn with
  | nil =>
    refine .inr fun before x behind hnil => ?_
    simp at hnil
  | append_singleton l x ih =>
    by_cases hx : P l x
    · exact .inl ⟨x, lastOf_concat_iff.mpr (.inl ⟨hx, rfl⟩)⟩
    · rcases ih with ⟨y, hy⟩ | hnone
      · exact .inl ⟨y, lastOf_concat_iff.mpr (.inr ⟨hx, hy⟩)⟩
      · exact .inr (noneOf_concat_iff.mpr ⟨hnone, hx⟩)

/-- Where those in front have no say, the last one is followed by none that meets the condition. -/
theorem lastOf_iff {C : α → Prop} {l : List α} {x : α} :
    LastOf (fun _ => C) l x ↔
      ∃ before behind, l = before ++ x :: behind ∧ C x ∧ ∀ y ∈ behind, ¬ C y := by
  refine exists_congr fun before => exists_congr fun behind => and_congr_right fun _ =>
    and_congr_right fun _ => ⟨fun h y hy => ?_, ?_⟩
  · obtain ⟨between, rest, hsplit⟩ := List.append_of_mem hy
    exact h between y rest hsplit
  · rintro h between y rest rfl
    exact h y (List.mem_append_right _ (List.mem_cons_self ..))

theorem noneOf_iff {C : α → Prop} {l : List α} : NoneOf (fun _ => C) l ↔ ∀ y ∈ l, ¬ C y := by
  constructor
  · intro h y hy
    obtain ⟨before, behind, hsplit⟩ := List.append_of_mem hy
    exact h before y behind hsplit
  · rintro h before y behind rfl
    exact h y (List.mem_append_right _ (List.mem_cons_self ..))

end Last

namespace Storage

/-! ## 2. Behind many stores -/

variable {σ : Type u} {β : Type v}

/-- The contents behind stores that were made one after the other. -/
def after (s : Storage σ) (c : σ) (stores : List (PlannerData × Path)) : σ :=
  stores.foldl (fun c e => (s.store e.1 e.2 c).2) c

theorem after_append (s : Storage σ) (c : σ) (stores stores' : List (PlannerData × Path)) :
    s.after c (stores ++ stores') = s.after (s.after c stores) stores' :=
  List.foldl_append

theorem after_concat (s : Storage σ) (c : σ) (stores : List (PlannerData × Path))
    (e : PlannerData × Path) :
    s.after c (stores ++ [e]) = (s.store e.1 e.2 (s.after c stores)).2 :=
  s.after_append c stores [e]

/-- Something of the contents is replaced by those stores that meet a condition, and is not touched
by the others. -/
structure Replaces (s : Storage σ) (c : σ) (view : σ → Option β) (value : PlannerData → β)
    (P : List (PlannerData × Path) → PlannerData × Path → Prop) : Prop where
  new : ∀ stores e, P stores e → view (s.after c (stores ++ [e])) = some (value e.1)
  old : ∀ stores e, ¬ P stores e → view (s.after c (stores ++ [e])) = view (s.after c stores)

section Replaces

variable {s : Storage σ} {c : σ} {view : σ → Option β} {value : PlannerData → β}
  {P : List (PlannerData × Path) → PlannerData × Path → Prop}

/-- **The last store that replaces it** leaves its own data. -/
theorem Replaces.of_last (h : s.Replaces c view value P) {stores : List (PlannerData × Path)}
    {e : PlannerData × Path} (hlast : LastOf P stores e) :
    view (s.after c stores) = some (value e.1) := by
  induction stores using List.reverseRecOn with
  | nil =>
    obtain ⟨before, behind, hnil, -⟩ := hlast
    simp at hnil
  | append_singleton stores x ih =>
    rcases lastOf_concat_iff.mp hlast with ⟨hx, rfl⟩ | ⟨hx, hlast⟩
    · exact h.new stores e hx
    · rw [h.old stores x hx]
      exact ih hlast

/-- Where no store replaces it, it is what it was. -/
theorem Replaces.of_none (h : s.Replaces c view value P) {stores : List (PlannerData × Path)}
    (hnone : NoneOf P stores) : view (s.after c stores) = view c := by
  induction stores using List.reverseRecOn with
  | nil => rfl
  | append_singleton stores x ih =>
    obtain ⟨hnone, hx⟩ := noneOf_concat_iff.mp hnone
    rw [h.old stores x hx]
    exact ih hnone

end Replaces

/-! ## 3. In memory -/

/-- A blob is replaced by the stores at equal paths. -/
theorem replaces_memory (m : Blobs) (p : Path) :
    memory.Replaces m (fun m => m.get? p.components) id fun _ e => p.same e.2 = true where
  new stores e he := by rw [after_concat, get?_store_memory, if_pos he, id]
  old stores e he := by rw [after_concat, get?_store_memory, if_neg he]

/-- The places where something is stored. -/
theorem mem_keys_after_memory (stores : List (PlannerData × Path)) (k : List Path.Component) :
    k ∈ (memory.after ∅ stores).entries.map (·.1) ↔ ∃ e ∈ stores, e.2.components = k := by
  induction stores using List.reverseRecOn with
  | nil => simp [after, EmptyCollection.emptyCollection, KeyedList.empty]
  | append_singleton stores e ih =>
    have hget : (memory.after ∅ (stores ++ [e])).get? k =
        if k = e.2.components then some e.1 else (memory.after ∅ stores).get? k := by
      rw [after_concat]
      exact KeyedList.get?_insert ..
    rw [← KeyedList.contains_iff_mem_keys] at ih ⊢
    rw [KeyedList.contains, hget]
    by_cases hk : k = e.2.components
    · simp [hk]
    · rw [if_neg hk, ← KeyedList.contains, ih]
      simp [or_and_right, exists_or, eq_comm, hk]

/-- **There are as many blobs** as there are paths that were stored at and do not equal each
other. -/
theorem size_after_memory (stores : List (PlannerData × Path)) :
    (memory.after ∅ stores).size = (stores.map fun e => e.2.components).toFinset.card := by
  have hkeys : ((memory.after ∅ stores).entries.map (·.1)).toFinset =
      (stores.map fun e => e.2.components).toFinset := by
    ext k
    rw [List.mem_toFinset, List.mem_toFinset, mem_keys_after_memory, List.mem_map]
  rw [← hkeys, List.toFinset_card_of_nodup (memory.after ∅ stores).nodup, List.length_map]
  rfl

theorem load_memory_eq_error_iff {p : Path} {m : Blobs} {e : DataError} :
    memory.load p m = .error e ↔ e = .notFound p ∧ m.get? p.components = none := by
  show Blobs.load p m = .error e ↔ _
  unfold Blobs.load
  split <;> rename_i h <;> simp [h, eq_comm]

theorem holds_iff {p : Path} {m : Blobs} : m.holds p = true ↔ ∃ d, memory.load p m = .ok d := by
  simp only [load_memory_eq_ok_iff]
  exact Option.isSome_iff_exists

/-- Equal paths are one place of a memory. -/
theorem memory_congr {p q : Path} (h : p.same q = true) (m : Blobs) :
    (∀ d, memory.store d p m = memory.store d q m) ∧ m.holds p = m.holds q ∧
      ∀ d, memory.load p m = .ok d ↔ memory.load q m = .ok d := by
  have hcomponents : p.components = q.components := of_decide_eq_true h
  refine ⟨fun d => ?_, ?_, fun d => ?_⟩
  · simp only [memory, Blobs.store, hcomponents]
  · rw [Blobs.holds, Blobs.holds, hcomponents]
  · rw [load_memory_eq_ok_iff, load_memory_eq_ok_iff, hcomponents]

/-- **The last store wins**, whatever the spelling.  Behind any stores in an empty memory:
* what is loaded from a path is the data of the last store at an equal one, and if there is none,
  nothing is found at the path as it was given;
* the memory holds something at a path exactly if it can be loaded;
* it holds as many blobs as there are different components among the paths, so it is empty exactly
  if nothing was stored.

Being equal is an equivalence.  Two paths are equal exactly if both begin with a slash or neither
does, both begin with a dot or neither does, and their names are the same; so it does not matter if
a slash is repeated, if one stands at the end, or if there is a dot behind one.  Of two equal paths
either may be stored at and loaded from for the other, in every memory. -/
theorem last_write_wins (stores : List (PlannerData × Path)) (p : Path) :
    (∀ d, memory.load p (memory.after ∅ stores) = .ok d ↔
      ∃ before q behind, stores = before ++ (d, q) :: behind ∧ p.same q = true ∧
        ∀ e ∈ behind, ¬ p.same e.2 = true) ∧
    (∀ e, memory.load p (memory.after ∅ stores) = .error e ↔
      e = .notFound p ∧ ∀ s ∈ stores, ¬ p.same s.2 = true) ∧
    ((memory.after ∅ stores).holds p = true ↔
      ∃ d, memory.load p (memory.after ∅ stores) = .ok d) ∧
    (memory.after ∅ stores).size = (stores.map fun e => e.2.components).toFinset.card ∧
    ((memory.after ∅ stores).isEmpty = true ↔ stores = []) ∧
    (Equivalence fun p q : Path => p.same q = true) ∧
    (∀ q : Path, p.same q = true ↔
      (p.Rooted ↔ q.Rooted) ∧ (p.Dotted ↔ q.Dotted) ∧ p.names = q.names) ∧
    (∀ u v : String, Path.same ⟨u ++ "//" ++ v⟩ ⟨u ++ "/" ++ v⟩ = true ∧
      Path.same ⟨u ++ "/./" ++ v⟩ ⟨u ++ "/" ++ v⟩ = true ∧
      Path.same ⟨u ++ "/."⟩ ⟨u ++ "/"⟩ = true ∧
      (u ≠ "" → Path.same ⟨u ++ "/"⟩ ⟨u⟩ = true)) ∧
    ∀ (q : Path) (m : Blobs), p.same q = true →
      (∀ d, memory.store d p m = memory.store d q m) ∧ m.holds p = m.holds q ∧
      (∀ d, memory.load p m = .ok d ↔ memory.load q m = .ok d) ∧
      ∀ d, memory.load q (memory.store d p m).2 = .ok d := by
  have hreplaces := replaces_memory ∅ p
  refine ⟨fun d => ?ok, fun e => ?error, holds_iff, size_after_memory stores, ?empty,
    Path.same_equivalence, Path.same_iff_names p, fun u v => ?spelling, fun q m h => ?congr⟩
  case ok =>
    rw [load_memory_eq_ok_iff]
    constructor
    · intro hget
      rcases exists_lastOf_or_noneOf (fun _ e => p.same e.2 = true) stores with
        ⟨⟨d', q⟩, hlast⟩ | hnone
      · rw [hreplaces.of_last hlast] at hget
        obtain rfl : d' = d := Option.some.inj hget
        obtain ⟨before, behind, h⟩ := lastOf_iff.mp hlast
        exact ⟨before, q, behind, h⟩
      · rw [hreplaces.of_none hnone] at hget
        cases hget
    · rintro ⟨before, q, behind, h⟩
      exact hreplaces.of_last (lastOf_iff.mpr ⟨before, behind, h⟩)
  case error =>
    rw [load_memory_eq_error_iff]
    refine and_congr_right fun _ => ⟨fun hget => ?_, fun hnone => ?_⟩
    · rcases exists_lastOf_or_noneOf (fun _ e => p.same e.2 = true) stores with
        ⟨x, hlast⟩ | hnone
      · rw [hreplaces.of_last hlast] at hget
        cases hget
      · exact noneOf_iff.mp hnone
    · exact hreplaces.of_none (noneOf_iff.mpr hnone)
  case empty =>
    have hsize : (memory.after ∅ stores).isEmpty = true ↔ (memory.after ∅ stores).size = 0 :=
      List.isEmpty_iff.trans List.length_eq_zero_iff.symm
    rw [hsize, size_after_memory, Finset.card_eq_zero, List.toFinset_eq_empty_iff,
      List.map_eq_nil_iff]
  case spelling =>
    exact ⟨Path.same_of_repeated u v, Path.same_of_dot u v, Path.same_of_trailing_dot u,
      Path.same_of_trailing⟩
  case congr =>
    obtain ⟨hstore, hholds, hload⟩ := memory_congr h m
    refine ⟨hstore, hholds, hload, fun d => ?_⟩
    rw [hstore]
    exact (keeps_memory q).load_store rfl

/-- Three spellings of one path, one of them stored at again, beside a path that begins with a dot
and differs. -/
theorem last_write_wins_respelled :
    let stores : List (PlannerData × Path) := [(⟨"roadmap", [1]⟩, ⟨"maps//arm"⟩),
      (⟨"roadmap", [2]⟩, ⟨"./maps/arm"⟩), (⟨"roadmap", [3]⟩, ⟨"maps/./arm/"⟩)]
    memory.load ⟨"maps/arm/."⟩ (memory.after ∅ stores) = .ok ⟨"roadmap", [3]⟩ ∧
      memory.load ⟨"/maps/arm"⟩ (memory.after ∅ stores) = .error (.notFound ⟨"/maps/arm"⟩) ∧
      (memory.after ∅ stores).size = 2 ∧
      Path.same ⟨"maps/arm/."⟩ ⟨"maps//arm"⟩ = true ∧
      ∀ m d, memory.load ⟨"maps//arm"⟩ (memory.store d ⟨"maps/arm/."⟩ m).2 = .ok d := by
  intro stores
  have hsame : Path.same ⟨"maps/arm/."⟩ ⟨"maps//arm"⟩ = true := by decide +kernel
  obtain ⟨hok, -, -, hsize, -, -, -, -, hcongr⟩ := last_write_wins stores ⟨"maps/arm/."⟩
  obtain ⟨-, herror, -⟩ := last_write_wins stores ⟨"/maps/arm"⟩
  refine ⟨?_, ?_, ?_, hsame, fun m d => (hcongr _ m hsame).2.2.2 d⟩
  · refine (hok _).mpr ⟨stores.take 2, ⟨"maps/./arm/"⟩, [], rfl, by decide +kernel, ?_⟩
    simp
  · exact (herror _).mpr ⟨rfl, by decide +kernel⟩
  · rw [hsize]
    decide +kernel

end Storage

end MotionContexts
