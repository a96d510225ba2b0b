/-
# What a store touches

A path leads to a PLACE, and a place has an entry or none.  Of a storage two things are said here:
a store touches no entry but the one at the place of its own path (`Storage.Confines`), and what was
stored at a path is what is loaded from an equal one, unless the load fails (`Storage.Recalls`).

Two paths are equal if their components are; they need not be spelled alike.  In memory components
ARE the place.  In files the place is where the path leads, and a path may be refused for the way it
is spelled, say for a slash at its end; but equal paths never lead to two places.  Nor do all others
lead to different ones: there is a way from `/` to every place, and one through the directory above.

Main statements:
* `placeOf_of_same`, `placeOf_of_absolute` and `placeOf_of_return`, paths that lead to one place;
* `confines_memory` and `recalls_memory`, `confines_files` and `recalls_files`;
* `Confines.refusing` and `Recalls.refusing` for a storage that refuses some paths.
-/
import MotionContexts.Proofs.Storage

namespace MotionContexts

universe u

/-! ## 1. Paths that lead to one place -/

namespace FileTree

variable {working : Place}

/-- A step that stays where it is may be left out at the end. -/
theorem follow_concat_here : ∀ (cs : List Path.Component) (p : Place),
    follow p (cs ++ [.here]) = follow p cs
  | [], _ => rfl
  | c :: cs, p => by
    rw [List.cons_append, follow, follow]
    cases stepFrom p c with
    | ok q => exact follow_concat_here cs q
    | error e => rfl

/-- And among the steps of pieces it may be left out everywhere. -/
theorem follow_steps : ∀ (ps : List (List Char)) (p : Place),
    follow p (ps.filterMap Path.step?) = follow p (ps.filterMap Path.ofPiece?)
  | [], _ => rfl
  | piece :: ps, p => by
    by_cases hdot : piece = ['.']
    · subst hdot
      exact follow_steps ps p
    · have hpiece : Path.ofPiece? piece = Path.step? piece := by rw [Path.ofPiece?, if_neg hdot]
      rw [List.filterMap_cons, List.filterMap_cons, hpiece]
      cases Path.step? piece with
      | none => exact follow_steps ps p
      | some c =>
        dsimp only
        rw [follow, follow]
        cases stepFrom p c with
        | ok q => exact follow_steps ps q
        | error e => rfl

/-- **Where a path leads is read off its components.** -/
theorem placeOf_eq_follow (working : Place) (p : Path) :
    placeOf working p = follow working p.components := by
  have hsteps : placeOf working p = follow working p.steps := by
    unfold placeOf
    split
    · exact follow_concat_here ..
    · rfl
  rw [hsteps, Path.steps, Path.components]
  generalize Path.pieces p.text.toList = ps
  unfold Path.ofPieces
  split
  · exact follow_steps _ []
  · split
    · rename_i hroot
      exact absurd rfl (hroot _ _)
    · exact follow_steps _ working
    · exact follow_steps _ working

/-- Equal paths lead to one place. -/
theorem placeOf_of_same {p q : Path} (h : p.same q = true) :
    placeOf working p = placeOf working q := by
  rw [placeOf_eq_follow, placeOf_eq_follow, of_decide_eq_true h]

/-- Names lead to the place that has them all. -/
theorem follow_names : ∀ {names : List String} (p : Place) (cs : List Path.Component),
    (∀ s ∈ names, allowed s = true) →
      follow p (names.map Path.Component.name ++ cs) = follow (p ++ names) cs
  | [], p, cs, _ => by rw [List.append_nil]; rfl
  | s :: names, p, cs, h => by
    have hstep : stepFrom p (.name s) = .ok (p ++ [s]) := if_pos (h s (List.mem_cons_self ..))
    rw [List.map_cons, List.cons_append, follow, hstep]
    dsimp only
    rw [follow_names (p ++ [s]) cs fun s hs => h s (List.mem_cons_of_mem _ hs), List.append_assoc]
    rfl

/-- **A path from `/`** by way of the working directory leads where the rest of it leads. -/
theorem placeOf_of_absolute {p q : Path} (h : ∀ s ∈ working, allowed s = true)
    (hp : p.components = .root :: working.map Path.Component.name ++ q.components) :
    placeOf working p = placeOf working q := by
  rw [placeOf_eq_follow, placeOf_eq_follow, hp]
  exact follow_names [] q.components h

/-- **A path that leaves the working directory and comes back** leads where the rest of it leads. -/
theorem placeOf_of_return {name : String} {p q : Path} (hname : working.getLast? = some name)
    (h : allowed name = true) (hp : p.components = .up :: .name name :: q.components) :
    placeOf working p = placeOf working q := by
  obtain ⟨parent, rfl⟩ := List.getLast?_eq_some_iff.mp hname
  have hup : stepFrom (parent ++ [name]) .up = .ok parent := by
    rw [stepFrom, List.dropLast_concat]
  have hnames : ∀ s ∈ [name], allowed s = true := by simpa using h
  rw [placeOf_eq_follow, placeOf_eq_follow, hp, follow, hup]
  exact follow_names parent q.components hnames

example : placeOf ["tmp", "work"] ⟨"../work/arm"⟩ = placeOf ["tmp", "work"] ⟨"arm"⟩ :=
  placeOf_of_return rfl (by decide) (by decide +kernel)

end FileTree

namespace Storage

/-! ## 2. The two laws -/

/-- A store touches no entry but the one at the place that its path leads to. -/
def Confines {σ : Type u} {π ε : Type} (s : Storage σ) (place : Path → Option π)
    (entry : π → σ → Option ε) : Prop :=
  ∀ d q c x, place q ≠ some x → entry x (s.store d q c).2 = entry x c

/-- What is loaded behind a store at an equal path is what was stored, unless one of them fails. -/
def Recalls {σ : Type u} (s : Storage σ) : Prop :=
  ∀ {p q c d d'}, p.same q = true → (s.store d q c).1 = .ok () →
    s.load p (s.store d q c).2 = .ok d' → d' = d

/-! ## 3. In memory -/

theorem confines_memory :
    memory.Confines (fun p => some p.components) (fun place m => m.get? place) := by
  intro d q m place hne
  have hne' : ¬ place = q.components := fun he => hne (congrArg some he.symm)
  show (m.insert q.components d).get? place = m.get? place
  rw [KeyedList.get?_insert, if_neg hne']

theorem recalls_memory : memory.Recalls := by
  intro p q m d d' hsame _ hload
  rw [load_memory_eq_ok_iff, get?_store_memory, if_pos hsame] at hload
  exact (Option.some.inj hload).symm

/-! ## 4. In files -/

section Files

variable {working : Place}

/-- The bytes of the file at a place. -/
def fileAt (place : Place) (t : FileTree working) : Option (List UInt8) :=
  match t.get? place with
  | some (.file bytes) => some bytes
  | _ => none

theorem fileAt_eq_some_iff {place : Place} {t : FileTree working} {bytes : List UInt8} :
    fileAt place t = some bytes ↔ t.get? place = some (.file bytes) := by
  unfold fileAt
  split <;> simp_all

theorem confines_files :
    files.Confines (fun p => (FileTree.placeOf working p).toOption)
      (fileAt : Place → FileTree working → Option (List UInt8)) := by
  intro d q t place hne
  obtain ⟨result, hs, -⟩ := stores_files d q t
  have hplace : FileTree.placeOf working q ≠ .ok place := fun he =>
    hne (congrArg Except.toOption he)
  refine Option.ext fun bytes => ?_
  rw [fileAt_eq_some_iff, fileAt_eq_some_iff]
  exact hs.file_iff hplace bytes

theorem recalls_files : (files : Storage (FileTree working)).Recalls := by
  intro p q t d d' hsame hok hload
  obtain ⟨result, hs, hresult⟩ := stores_files d q t
  obtain rfl := hresult hok
  obtain ⟨bytes, hopen, hbytes⟩ := load_files_eq_ok_iff.mp hload
  obtain ⟨place, hplace, hfile⟩ := FileTree.get?_of_open? hopen
  obtain ⟨place', hplace', hfile'⟩ := FileTree.get?_of_open? hs.open?
  -- both paths lead to the place of the file that was stored
  have hone : FileTree.placeOf working p = .ok place' :=
    (FileTree.placeOf_of_same hsame).trans (FileTree.placeOf_of_locate hplace')
  rw [FileTree.placeOf_of_locate hplace] at hone
  obtain rfl := Except.ok.inj hone
  obtain rfl := Entry.file.inj (Option.some.inj (hfile'.symm.trans hfile))
  rw [PlannerData.ofBytes?_toBytes] at hbytes
  exact (Option.some.inj hbytes).symm

end Files

/-! ## 5. Where some paths are refused -/

section Refusing

variable {σ : Type u} {s : Storage σ} (loads stores : List Path)

theorem Confines.refusing {π ε : Type} {place : Path → Option π} {entry : π → σ → Option ε}
    (h : s.Confines place entry) : (s.refusing loads stores).Confines place entry := by
  intro d q c x hne
  show entry x (if stores.any q.same then (.error refusal, c) else s.store d q c).2 = entry x c
  split
  · rfl
  · exact h d q c x hne

theorem Recalls.refusing (h : s.Recalls) : (s.refusing loads stores).Recalls := by
  intro p q c d d' hsame hok hload
  unfold Storage.refusing at hok hload
  dsimp only at hok hload
  split at hok
  · cases hok
  · rename_i hstore
    rw [if_neg hstore] at hload
    split at hload
    · cases hload
    · exact h hsame hok hload

end Refusing

end Storage

end MotionContexts
