/-
# Which representation is chosen

A catalog of representations is told two kinds of thing: that a representation is registered, and
which type is the default.  All that it knows is known from this HISTORY: the types, in the order in
which they came first, under each of them the representation that came LAST, and the default that
was set last (`Records`).

A request that names no type gets the representation of the highest priority among those that can
represent it.  Of equal priorities the one wins whose type came first, whenever the representation
itself came.  So the order of the registrations decides nothing where no type is registered twice
and no priority is shared.

Main statements:
* `Records.register`, what a registration does to what is known;
* `select_eq_ranked`, choosing is the same as sorting by priority and taking the first that can;
* `selects_first_of_highest`, the choice behind any history.
-/
import Mathlib.Data.List.Nodup
import MotionContexts.Representation

namespace MotionContexts

namespace Representation

/-! ## 1. Ranking -/

/-- Representations of higher priority in front, otherwise in the order that they have. -/
def ranked (l : List Representation) : List Representation :=
  l.mergeSort fun f g => g.priority ≤ f.priority

/-- **Sorting finds the best one**: the first that passes in the ranking is the best of all that
pass. -/
theorem find?_ranked (p : Representation → Bool) (l : List Representation) :
    (ranked l).find? p = best? (l.filter p) := by
  have htrans : ∀ a b c : Representation, decide (b.priority ≤ a.priority) = true →
      decide (c.priority ≤ b.priority) = true → decide (c.priority ≤ a.priority) = true := by
    intro a b c hab hbc
    simp only [decide_eq_true_eq] at *
    omega
  have htotal : ∀ a b : Representation,
      (decide (b.priority ≤ a.priority) || decide (a.priority ≤ b.priority)) = true := by
    intro a b
    simp only [Bool.or_eq_true, decide_eq_true_eq]
    omega
  induction l with
  | nil => simp [ranked, best?]
  | cons a l ih =>
    obtain ⟨front, back, hsort, hsort', hfront⟩ := List.mergeSort_cons htrans htotal a l
    have hpairwise := List.pairwise_mergeSort htrans htotal (a :: l)
    rw [hsort] at hpairwise
    unfold ranked at ih ⊢
    rw [hsort', List.find?_append] at ih
    rw [hsort, List.find?_append, List.find?_cons]
    cases ha : p a with
    | false =>
      rw [List.filter_cons_of_neg (by simp [ha]), ← ih]
    | true =>
      rw [List.filter_cons_of_pos ha, best?, ← ih]
      cases hf : front.find? p with
      | some g =>
        -- what stands in front of `a` is of higher priority
        have hlt : a.priority < g.priority := by
          have h := hfront g (List.mem_of_find?_eq_some hf)
          simp only [Bool.not_eq_true', decide_eq_false_iff_not] at h
          omega
        simp [hlt]
      | none =>
        cases hb : back.find? p with
        | none => rfl
        | some g =>
          -- and what stands behind it is not
          have hle : g.priority ≤ a.priority := by
            have h := (List.pairwise_cons.mp (List.pairwise_append.mp hpairwise).2.1).1 g
              (List.mem_of_find?_eq_some hb)
            simpa using h
          simp [Int.not_lt.mpr hle]

end Representation

namespace RepresentationCatalog

/-- Choosing is the same as ranking and taking the first that can represent the request. -/
theorem select_eq_ranked (c : RepresentationCatalog) (group : String) (request : Request) :
    c.select group request =
      match (Representation.ranked c.entries).find? fun f => f.canRepresent group request with
      | some f => .ok f
      | none =>
        match c.byType c.defaultType with
        | .ok f => .ok f
        | .error _ => .error (.noSuitableRepresentation group) := by
  rw [Representation.find?_ranked]
  rfl

/-! ## 2. Histories -/

/-- What a catalog may be told. -/
inductive Notice where
  | register (f : Representation)
  | setDefault (spaceType : String)

namespace Notice

def representation? : Notice → Option Representation
  | .register f => some f
  | .setDefault _ => none

def default? : Notice → Option String
  | .register _ => none
  | .setDefault t => some t

end Notice

/-- The catalog that was told one more thing. -/
def tell (c : RepresentationCatalog) : Notice → RepresentationCatalog
  | .register f => c.register f
  | .setDefault t => { c with defaultType := t }

/-- The catalog behind a history. -/
def behind (history : List Notice) : RepresentationCatalog := history.foldl tell {}

/-- The representations that were registered, in order and with repetitions. -/
def registrations (history : List Notice) : List Representation :=
  history.filterMap Notice.representation?

/-- The representation of a type that was registered last. -/
def latest? (l : List Representation) (spaceType : String) : Option Representation :=
  l.findRev? fun f => f.spaceType == spaceType

/-- The number of registrations in front of the first one of a type. -/
def debut (l : List Representation) (spaceType : String) : Nat :=
  (l.map (·.spaceType)).idxOf spaceType

theorem latest?_concat (l : List Representation) (f : Representation) (t : String) :
    latest? (l ++ [f]) t = if f.spaceType = t then some f else latest? l t := by
  rw [latest?, latest?, List.findRev?_eq_find?_reverse, List.findRev?_eq_find?_reverse,
    List.reverse_append, List.reverse_singleton, List.singleton_append, List.find?_cons]
  by_cases h : f.spaceType = t
  · simp [h]
  · rw [beq_eq_false_iff_ne.mpr h, if_neg h]

theorem latest?_eq_some {l : List Representation} {t : String} {f : Representation}
    (h : latest? l t = some f) : f ∈ l ∧ f.spaceType = t := by
  rw [latest?, List.findRev?_eq_find?_reverse] at h
  exact ⟨List.mem_reverse.mp (List.mem_of_find?_eq_some h), by simpa using List.find?_some h⟩

/-- Where no type is registered twice, every representation is the last of its type. -/
theorem latest?_of_nodup {l : List Representation} (hl : (l.map (·.spaceType)).Nodup)
    {t : String} {f : Representation} : latest? l t = some f ↔ f ∈ l ∧ f.spaceType = t := by
  constructor
  · exact latest?_eq_some
  · rintro ⟨hf, rfl⟩
    cases h : latest? l f.spaceType with
    | none =>
      rw [latest?, List.findRev?_eq_find?_reverse, List.find?_eq_none] at h
      have hno := h f (List.mem_reverse.mpr hf)
      simp at hno
    | some g =>
      obtain ⟨hg, htype⟩ := latest?_eq_some h
      rw [List.inj_on_of_nodup_map hl hg hf htype]

/-- One more registration leaves every debut where it was. -/
theorem debut_concat_of_mem {l : List Representation} {t : String} (f : Representation)
    (ht : t ∈ l.map (·.spaceType)) : debut (l ++ [f]) t = debut l t := by
  rw [debut, List.map_append, List.idxOf_append_of_mem ht]
  rfl

/-- A new type makes its debut behind all that are there. -/
theorem debut_lt_concat {l : List Representation} {t : String} {f : Representation}
    (ht : t ∈ l.map (·.spaceType)) (hf : f.spaceType ∉ l.map (·.spaceType)) :
    debut (l ++ [f]) t < debut (l ++ [f]) f.spaceType := by
  have hlt : debut l t < (l.map (·.spaceType)).length := List.idxOf_lt_length_of_mem ht
  rw [debut_concat_of_mem f ht]
  rw [debut, debut, List.map_append, List.idxOf_append_of_notMem hf]
  exact Nat.lt_add_right _ hlt

/-- The distinct values, after one more value. -/
theorem eraseDups_concat (ts : List String) (t : String) :
    (ts ++ [t]).eraseDups = if t ∈ ts then ts.eraseDups else ts.eraseDups ++ [t] := by
  rw [List.eraseDups_append]
  split
  · rename_i ht
    rw [List.removeAll, List.filter_cons_of_neg (by simp [ht])]
    exact List.append_nil _
  · rename_i ht
    rw [List.removeAll, List.filter_cons_of_pos (by simp [ht])]
    rfl

/-! ## 3. What a catalog knows -/

/-- The catalog holds what the registrations say. -/
structure Records (c : RepresentationCatalog) (l : List Representation) : Prop where
  /-- Each type once, the one that came first in front. -/
  types : c.types = (l.map (·.spaceType)).eraseDups
  /-- Types stand in the order of their first registrations. -/
  order : c.types.Pairwise fun t u => debut l t < debut l u
  /-- Under each type stands the representation that came last. -/
  held : ∀ f, f ∈ c.entries ↔ latest? l f.spaceType = some f

namespace Records

variable {c : RepresentationCatalog} {l : List Representation}

theorem mem_types (h : c.Records l) (t : String) : t ∈ c.types ↔ t ∈ l.map (·.spaceType) := by
  rw [h.types, List.mem_eraseDups]

theorem nodup (h : c.Records l) : c.types.Nodup := by
  refine h.order.imp fun hlt => ?_
  rintro rfl
  exact Nat.lt_irrefl _ hlt

/-- Representations of one type are one. -/
theorem eq_of_spaceType (h : c.Records l) {f g : Representation} (hf : f ∈ c.entries)
    (hg : g ∈ c.entries) (htype : f.spaceType = g.spaceType) : f = g := by
  have hfl := (h.held f).mp hf
  rw [htype, (h.held g).mp hg] at hfl
  exact (Option.some.inj hfl).symm

end Records

/-- A representation takes the place of the one of its type, and all others stay. -/
theorem mem_place_iff (f g : Representation) :
    ∀ {l : List Representation}, (l.map (·.spaceType)).Nodup →
      (g ∈ place f l ↔ g = f ∨ g ∈ l ∧ g.spaceType ≠ f.spaceType)
  | [], _ => by simp [place]
  | k :: ks, h => by
    obtain ⟨hk, hks⟩ := List.nodup_cons.mp h
    unfold place
    split
    · rename_i hkf
      -- nobody behind has this type, so all of them stay
      have hother : ∀ x ∈ ks, x.spaceType ≠ f.spaceType := by
        intro x hx he
        exact hk (List.mem_map.mpr ⟨x, hx, he.trans hkf.symm⟩)
      rw [List.mem_cons, List.mem_cons]
      constructor
      · rintro (rfl | hg)
        · exact .inl rfl
        · exact .inr ⟨.inr hg, hother g hg⟩
      · rintro (rfl | ⟨rfl | hg, hne⟩)
        · exact .inl rfl
        · exact absurd hkf hne
        · exact .inr hg
    · rename_i hkf
      rw [List.mem_cons, List.mem_cons, mem_place_iff f g hks]
      constructor
      · rintro (rfl | rfl | ⟨hg, hne⟩)
        · exact .inr ⟨.inl rfl, hkf⟩
        · exact .inl rfl
        · exact .inr ⟨.inr hg, hne⟩
      · rintro (rfl | ⟨rfl | hg, hne⟩)
        · exact .inr (.inl rfl)
        · exact .inl rfl
        · exact .inr (.inr ⟨hg, hne⟩)

namespace Records

variable {c : RepresentationCatalog} {l : List Representation}

/-- A catalog that was told nothing. -/
theorem new : ({} : RepresentationCatalog).Records [] where
  types := rfl
  order := .nil
  held := by
    intro f
    simp [latest?, List.findRev?]

/-- **What a registration does to what is known.** -/
theorem register (h : c.Records l) (f : Representation) : (c.register f).Records (l ++ [f]) := by
  have hmem := h.mem_types f.spaceType
  refine ⟨?types, ?order, fun g => ?held⟩
  case types =>
    rw [types_register, List.map_append, List.map_singleton, eraseDups_concat, ← h.types]
    by_cases ht : f.spaceType ∈ c.types
    · rw [if_pos ht, if_pos (hmem.mp ht)]
    · rw [if_neg ht, if_neg (mt hmem.mpr ht)]
  case order =>
    have hold : c.types.Pairwise fun t u => debut (l ++ [f]) t < debut (l ++ [f]) u := by
      refine h.order.imp_of_mem fun ht hu hlt => ?_
      rw [debut_concat_of_mem f ((h.mem_types _).mp ht),
        debut_concat_of_mem f ((h.mem_types _).mp hu)]
      exact hlt
    rw [types_register]
    split
    · exact hold
    · rename_i ht
      refine List.pairwise_append.mpr ⟨hold, List.pairwise_singleton .., fun t hmemt u hu => ?_⟩
      rw [List.mem_singleton.mp hu]
      exact debut_lt_concat ((h.mem_types t).mp hmemt) (mt hmem.mpr ht)
  case held =>
    show g ∈ place f c.entries ↔ _
    rw [mem_place_iff f g h.nodup, latest?_concat, h.held]
    by_cases hg : f.spaceType = g.spaceType
    · simp [hg, eq_comm]
    · have hg' : ¬ g.spaceType = f.spaceType := fun he => hg he.symm
      have hne : g ≠ f := fun he => hg (he ▸ rfl)
      simp [hg, hg', hne]

/-- Behind any history a catalog knows what the history says. -/
theorem foldl_tell {history : List Notice} :
    ∀ {c : RepresentationCatalog} {l : List Representation}, c.Records l →
      (history.foldl tell c).Records (l ++ registrations history) := by
  induction history with
  | nil =>
    intro c l h
    rw [show registrations [] = [] from rfl, List.append_nil]
    exact h
  | cons notice history ih =>
    intro c l h
    cases notice with
    | register f =>
      have hrest := ih (h.register f)
      rw [List.append_assoc] at hrest
      exact hrest
    | setDefault t => exact ih (c := { c with defaultType := t }) ⟨h.types, h.order, h.held⟩

theorem behind (history : List Notice) :
    (RepresentationCatalog.behind history).Records (registrations history) := foldl_tell new

end Records

/-! ## 4. The choice -/

/-- The first is taken before the second: its priority is higher, or it is the same and its type
came first. -/
def Precedes (l : List Representation) (f g : Representation) : Prop :=
  g.priority < f.priority ∨
    g.priority = f.priority ∧ debut l f.spaceType < debut l g.spaceType

theorem Precedes.asymm {l : List Representation} {f g : Representation} (h : Precedes l f g) :
    ¬ Precedes l g f := by
  unfold Precedes at *
  omega

theorem byType_eq_error_iff (c : RepresentationCatalog) (t : String) :
    c.byType t = .error (.unknownRepresentation t) ↔ t ∉ c.types := by
  unfold byType
  split
  · rename_i f hf
    have htype : f.spaceType = t := by simpa using List.find?_some hf
    simp only [reduceCtorEq, false_iff, not_not]
    exact List.mem_map.mpr ⟨f, List.mem_of_find?_eq_some hf, htype⟩
  · rename_i hnone
    simp only [true_iff]
    intro hmem
    obtain ⟨f, hf, htype⟩ := List.mem_map.mp hmem
    exact List.find?_eq_none.mp hnone f hf (by simp [htype])

namespace Records

variable {c : RepresentationCatalog} {l : List Representation}

theorem byType_eq_ok_iff (h : c.Records l) {t : String} {f : Representation} :
    c.byType t = .ok f ↔ f ∈ c.entries ∧ f.spaceType = t := by
  unfold byType
  split
  · rename_i g hg
    have hmem := List.mem_of_find?_eq_some hg
    have htype : g.spaceType = t := by simpa using List.find?_some hg
    constructor
    · intro hgf
      cases hgf
      exact ⟨hmem, htype⟩
    · rintro ⟨hf, hft⟩
      rw [h.eq_of_spaceType hmem hf (htype.trans hft.symm)]
  · rename_i hnone
    simp only [reduceCtorEq, false_iff]
    rintro ⟨hf, hft⟩
    exact List.find?_eq_none.mp hnone f hf (by simp [hft])

/-- A type is looked up in what was registered last. -/
theorem byType_eq (h : c.Records l) (t : String) :
    c.byType t = (latest? l t).elim (.error (.unknownRepresentation t)) .ok := by
  cases hl : latest? l t with
  | some f =>
    have htype := (latest?_eq_some hl).2
    exact h.byType_eq_ok_iff.mpr ⟨(h.held f).mpr (by rw [htype, hl]), htype⟩
  | none =>
    refine (byType_eq_error_iff c t).mpr fun hmem => ?_
    obtain ⟨f, hf, htype⟩ := List.mem_map.mp hmem
    rw [← htype, (h.held f).mp hf] at hl
    cases hl

/-- The best of those that pass precedes all others that pass. -/
theorem of_best?_filter (h : c.Records l) {p : Representation → Bool} {f : Representation}
    (hf : Representation.best? (c.entries.filter p) = some f) :
    f ∈ c.entries ∧ p f = true ∧ ∀ g ∈ c.entries, p g = true → g ≠ f → Precedes l f g := by
  obtain ⟨before, behind, hsplit, hbefore, hbehind⟩ := Representation.best?_eq_some_iff.mp hf
  have hmem : f ∈ c.entries.filter p := by simp [hsplit]
  obtain ⟨hheld, hpass⟩ := List.mem_filter.mp hmem
  refine ⟨hheld, hpass, fun g hg hpg hne => ?_⟩
  have hgmem : g ∈ before ++ f :: behind := hsplit ▸ List.mem_filter.mpr ⟨hg, hpg⟩
  rcases List.mem_append.mp hgmem with hg | hg
  · exact .inl (hbefore g hg)
  · -- behind the best one the priorities may be the same, and there the order decides
    have hg := (List.mem_cons.mp hg).resolve_left hne
    have horder := (List.pairwise_map.mp h.order).filter p
    rw [hsplit] at horder
    have hdebut := (List.pairwise_cons.mp (List.pairwise_append.mp horder).2.1).1 g hg
    have hle := hbehind g hg
    unfold Precedes
    omega

/-- And nothing else is the best of them, since no two precede each other. -/
theorem best?_filter_iff (h : c.Records l) (p : Representation → Bool) {f : Representation} :
    Representation.best? (c.entries.filter p) = some f ↔
      f ∈ c.entries ∧ p f = true ∧ ∀ g ∈ c.entries, p g = true → g ≠ f → Precedes l f g := by
  constructor
  · exact h.of_best?_filter
  · rintro ⟨hheld, hpass, hfirst⟩
    cases hb : Representation.best? (c.entries.filter p) with
    | none =>
      rw [Representation.best?_eq_none_iff, List.filter_eq_nil_iff] at hb
      exact absurd hpass (hb f hheld)
    | some b =>
      obtain ⟨hbheld, hbpass, hbfirst⟩ := h.of_best?_filter hb
      by_contra hne
      have hbf : b ≠ f := fun he => hne (he ▸ rfl)
      exact (hfirst b hbheld hbpass hbf).asymm (hbfirst f hheld hpass hbf.symm)

/-- Where some representation can represent the request, the one that precedes all others that can
is selected. -/
theorem select_of_able (h : c.Records l) {group : String} {request : Request}
    (hable : ∃ f ∈ c.entries, f.canRepresent group request = true) :
    ∃ f ∈ c.entries, c.select group request = .ok f ∧ f.canRepresent group request = true ∧
      ∀ g ∈ c.entries, g.canRepresent group request = true → g ≠ f → Precedes l f g := by
  cases hb : Representation.best? (c.entries.filter (·.canRepresent group request)) with
  | none =>
    obtain ⟨f, hf, hpass⟩ := hable
    rw [Representation.best?_eq_none_iff, List.filter_eq_nil_iff] at hb
    exact absurd hpass (hb f hf)
  | some f =>
    obtain ⟨hf, hpass, hfirst⟩ := h.of_best?_filter hb
    refine ⟨f, hf, ?_, hpass, hfirst⟩
    rw [select, hb]

/-- Where none can, the one of the default type is selected all the same, if there is one. -/
theorem select_of_unable (h : c.Records l) {group : String} {request : Request}
    (hunable : ∀ f ∈ c.entries, f.canRepresent group request = false) :
    (∀ f, c.select group request = .ok f ↔ f ∈ c.entries ∧ f.spaceType = c.defaultType) ∧
      (c.select group request = .error (.noSuitableRepresentation group) ↔
        c.defaultType ∉ c.types) := by
  have hnone : Representation.best? (c.entries.filter (·.canRepresent group request)) = none := by
    rw [Representation.best?_eq_none_iff, List.filter_eq_nil_iff]
    intro f hf
    rw [hunable f hf]
    exact Bool.false_ne_true
  have hselect : c.select group request =
      (latest? l c.defaultType).elim (.error (.noSuitableRepresentation group)) .ok := by
    rw [select, hnone, h.byType_eq]
    cases latest? l c.defaultType <;> rfl
  rw [hselect]
  refine ⟨fun f => ?_, ?_⟩
  · rw [← h.byType_eq_ok_iff, h.byType_eq]
    cases latest? l c.defaultType <;> simp
  · rw [← byType_eq_error_iff, h.byType_eq]
    cases latest? l c.defaultType <;> simp

end Records

/-! ## 5. The order of the registrations -/

/-- Where no type is registered twice, the order does not decide which one of a type is the last. -/
theorem latest?_perm {l l' : List Representation} (hperm : l'.Perm l)
    (hl : (l.map (·.spaceType)).Nodup) (t : String) : latest? l' t = latest? l t := by
  have hl' : (l'.map (·.spaceType)).Nodup := (hperm.map _).nodup_iff.mpr hl
  refine Option.ext fun f => ?_
  rw [latest?_of_nodup hl', latest?_of_nodup hl, hperm.mem_iff]

/-- Where no priority is shared, the order does not decide which one precedes. -/
theorem precedes_of_nodup {l : List Representation} (hl : (l.map (·.priority)).Nodup)
    (l' : List Representation) {f g : Representation} (hf : f ∈ l) (hg : g ∈ l) (hne : g ≠ f) :
    Precedes l' f g ↔ g.priority < f.priority := by
  have hpriority : g.priority ≠ f.priority := fun he =>
    hne (List.inj_on_of_nodup_map hl hg hf he)
  unfold Precedes
  omega

namespace Records

variable {c c' : RepresentationCatalog} {l l' : List Representation}

/-- **The order does not decide**: two catalogs that were told the same, in whatever order, resolve
every request alike, where no type is registered twice and no priority is shared. -/
theorem resolve_perm (h : c.Records l) (h' : c'.Records l') (hperm : l'.Perm l)
    (htypes : (l.map (·.spaceType)).Nodup) (hpriorities : (l.map (·.priority)).Nodup)
    (hdefault : c'.defaultType = c.defaultType) (group : String) (spaceType : Option String)
    (request : Request) :
    c'.resolve group spaceType request = c.resolve group spaceType request := by
  have hheld' : ∀ f, f ∈ c'.entries ↔ f ∈ c.entries := by
    intro f
    rw [h'.held, h.held, latest?_perm hperm htypes]
  have hregistered : ∀ f ∈ c.entries, f ∈ l := fun f hf => (latest?_eq_some ((h.held f).mp hf)).1
  have hbyType : c'.byType = c.byType := by
    funext t
    rw [h'.byType_eq, h.byType_eq, latest?_perm hperm htypes]
  have hbest : ∀ p : Representation → Bool, Representation.best? (c'.entries.filter p) =
      Representation.best? (c.entries.filter p) := by
    intro p
    refine Option.ext fun f => ?_
    rw [h'.best?_filter_iff, h.best?_filter_iff, hheld']
    refine and_congr_right fun hf => and_congr_right fun _ => forall_congr' fun g => ?_
    rw [hheld']
    refine forall_congr' fun hg => forall_congr' fun _ => forall_congr' fun hne => ?_
    rw [precedes_of_nodup hpriorities l' (hregistered f hf) (hregistered g hg) hne,
      precedes_of_nodup hpriorities l (hregistered f hf) (hregistered g hg) hne]
  have hselect : c'.select group request = c.select group request := by
    rw [select, select, hbest, hbyType, hdefault]
  cases spaceType with
  | none => exact hselect
  | some t => rw [resolve, resolve, hselect, hbyType]

end Records

/-! ## 6. Behind any history -/

theorem foldl_tell_defaultType (history : List Notice) (c : RepresentationCatalog) :
    (history.foldl tell c).defaultType =
      ((history.filterMap Notice.default?).getLast?).getD c.defaultType := by
  induction history generalizing c with
  | nil => rfl
  | cons notice history ih =>
    rw [List.foldl_cons, ih]
    cases notice with
    | register f => rfl
    | setDefault t =>
      rw [List.filterMap_cons_some (show Notice.default? (.setDefault t) = some t from rfl),
        List.getLast?_cons]
      rfl

/-- **Selection is exact behind every history.**  The types are the distinct ones in the order of
their first registrations, each held by the representation that came last, and the default is the
one that was set last.  Of those that can represent a request the one is selected that precedes all
others; where none can, the one of the default type, and only where that is not registered nothing.
A type that is named is taken as it is.  And the order of the registrations decides nothing where no
type is registered twice and no priority is shared. -/
theorem selects_first_of_highest (history : List Notice) :
    let c := behind history
    let l := registrations history
    c.types = (l.map (·.spaceType)).eraseDups ∧
      (∀ f, f ∈ c.entries ↔ latest? l f.spaceType = some f) ∧
      c.defaultType = ((history.filterMap Notice.default?).getLast?).getD "JointModel" ∧
      (∀ group request,
        ((∃ f ∈ c.entries, f.canRepresent group request = true) →
          ∃ f ∈ c.entries, c.select group request = .ok f ∧
            f.canRepresent group request = true ∧
            ∀ g ∈ c.entries, g.canRepresent group request = true → g ≠ f →
              g.priority < f.priority ∨
                g.priority = f.priority ∧ debut l f.spaceType < debut l g.spaceType) ∧
        ((∀ f ∈ c.entries, f.canRepresent group request = false) →
          (∀ f, c.select group request = .ok f ↔ f ∈ c.entries ∧ f.spaceType = c.defaultType) ∧
          (c.select group request = .error (.noSuitableRepresentation group) ↔
            c.defaultType ∉ c.types))) ∧
      (∀ group request t, t ≠ "" →
        (∀ f, c.resolve group (some t) request = .ok f ↔ f ∈ c.entries ∧ f.spaceType = t) ∧
        (c.resolve group (some t) request = .error (.unknownRepresentation t) ↔ t ∉ c.types)) ∧
      (∀ group request, c.resolve group none request = c.select group request ∧
        c.resolve group (some "") request = c.select group request) ∧
      ∀ other : List Notice, (registrations other).Perm l →
        (l.map (·.spaceType)).Nodup → (l.map (·.priority)).Nodup →
        (behind other).defaultType = c.defaultType →
        ∀ group spaceType request,
          (behind other).resolve group spaceType request = c.resolve group spaceType request := by
  intro c l
  have h : c.Records l := Records.behind history
  refine ⟨h.types, h.held, foldl_tell_defaultType history {}, ?choice, ?named, ?unnamed, ?order⟩
  case choice =>
    intro group request
    exact ⟨h.select_of_able, h.select_of_unable⟩
  case named =>
    intro group request t ht
    rw [resolve, if_neg ht]
    exact ⟨fun f => h.byType_eq_ok_iff, byType_eq_error_iff c t⟩
  case unnamed =>
    intro group request
    exact ⟨rfl, by rw [resolve, if_pos rfl]⟩
  case order =>
    intro other hperm htypes hpriorities hdefault
    exact h.resolve_perm (Records.behind other) hperm htypes hpriorities hdefault

/-- Two orders of the built-in representations resolve alike.  Of two representations of equal
priority the one is taken whose type came first, even if it came itself last.  A pose that no group
has a solver for is taken all the same where it is the default. -/
theorem selects_first_of_highest_builtIn :
    let joint := Representation.jointModel
    let twin := { joint with spaceType := "TwinModel" }
    let pose := Representation.poseModel ["arm"]
    let request : Request := { group := "arm", goals := [⟨[.position "tip"]⟩] }
    (∀ group spaceType request,
      (behind [.register pose, .register joint]).resolve group spaceType request =
        (behind [.register joint, .register pose]).resolve group spaceType request) ∧
      (∃ f, (behind [.register twin, .register joint, .register twin]).select "arm" request =
        .ok f ∧ f.spaceType = "TwinModel") ∧
      (∃ f, (behind [.setDefault "PoseModel", .register (.poseModel [])]).select "arm" request =
        .ok f ∧ f.canRepresent "arm" request = false) ∧
      (behind [.register joint]).resolve "arm" (some "PoseModel") request =
        .error (.unknownRepresentation "PoseModel") := by
  intro joint twin pose request
  refine ⟨?order, ?tie, ?fallback, ?unknown⟩
  case order =>
    exact (selects_first_of_highest [.register joint, .register pose]).2.2.2.2.2.2
      [.register pose, .register joint] (.swap ..) (by decide) (by decide) rfl
  case tie =>
    obtain ⟨f, hf, hselect, -, hfirst⟩ := ((selects_first_of_highest
      [.register twin, .register joint, .register twin]).2.2.2.1 "arm" request).1
        ⟨twin, .head _, rfl⟩
    have hf : f ∈ [twin, joint] := hf
    rcases List.mem_pair.mp hf with rfl | rfl
    · exact ⟨_, hselect, rfl⟩
    · have hne : twin ≠ joint := fun he =>
        absurd (congrArg Representation.spaceType he) (by decide)
      rcases hfirst twin (.head _) rfl hne with hlt | ⟨-, hlt⟩
      · exact absurd hlt (by decide)
      · exact absurd hlt (by decide)
  case fallback =>
    have hunable : ∀ f ∈ (behind [.setDefault "PoseModel", .register (.poseModel [])]).entries,
        f.canRepresent "arm" request = false := by
      intro f hf
      rw [List.mem_singleton.mp hf]
      rfl
    have h := ((selects_first_of_highest
      [.setDefault "PoseModel", .register (.poseModel [])]).2.2.2.1 "arm" request).2 hunable
    exact ⟨.poseModel [], (h.1 _).mpr ⟨.head _, rfl⟩, rfl⟩
  case unknown =>
    exact ((selects_first_of_highest [.register joint]).2.2.2.2.1 "arm" request "PoseModel"
      (by decide)).2.mpr (by decide)

end RepresentationCatalog

end MotionContexts
