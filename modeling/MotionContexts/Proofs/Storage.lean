/-
# What a storage keeps at a path

Data that was stored at a path is loaded from it, as long as nothing is stored at the same place
again.  `Storage.Keeps` says so of one path: what it is for the path to be vacant, which other paths
are apart from it, and that storing elsewhere disturbs neither a vacant path nor one with data.

Both kinds of storage are shown to keep.  In memory a place is a list of components, and it is
vacant where no blob is.  In files a place is where the path leads, and it is vacant where no FILE
is; there the data goes through its envelope, and a store may fail.

Main statements: `keeps_memory` and `keeps_files`.
-/
import MotionContexts.Proofs.FileTree
import MotionContexts.Proofs.PlannerData
import MotionContexts.Storage

namespace MotionContexts.Storage

universe u

/-- What is stored at the path is kept, whatever is stored at paths apart from it. -/
structure Keeps {σ : Type u} (s : Storage σ) (p : Path) (vacant : σ → Prop) (apart : Path → Prop) :
    Prop where
  /-- From a vacant path nothing is loaded. -/
  load_of_vacant : ∀ {c}, vacant c → ∃ e, s.load p c = .error e
  /-- A vacant path stays vacant. -/
  vacant_store : ∀ {c q} (d : PlannerData), apart q → vacant c → vacant (s.store d q c).2
  /-- Data that is there stays there. -/
  load_store_of_apart : ∀ {c q d} (new : PlannerData), apart q → s.load p c = .ok d →
    s.load p (s.store new q c).2 = .ok d
  /-- What was stored is loaded, to the byte. -/
  load_store : ∀ {c d}, (s.store d p c).1 = .ok () → s.load p (s.store d p c).2 = .ok d

/-! ## 1. In memory -/

theorem load_memory_eq_ok_iff {p : Path} {m : Blobs} {d : PlannerData} :
    memory.load p m = .ok d ↔ m.get? p.components = some d := by
  show Blobs.load p m = .ok d ↔ _
  unfold Blobs.load
  split <;> rename_i h <;> simp [h]

theorem get?_store_memory (d : PlannerData) (p q : Path) (m : Blobs) :
    (memory.store d q m).2.get? p.components =
      if p.same q then some d else m.get? p.components := by
  have hget := KeyedList.get?_insert m q.components p.components d
  simpa [Path.same, memory, Blobs.store] using hget

/-- **A memory keeps what is stored in it.** -/
theorem keeps_memory (p : Path) :
    memory.Keeps p (fun m => m.holds p = false) (fun q => p.same q = false) where
  load_of_vacant := by
    intro m hm
    have hnone : m.get? p.components = none := by
      simpa [Blobs.holds, KeyedList.contains] using hm
    refine ⟨.notFound p, ?_⟩
    show Blobs.load p m = _
    rw [Blobs.load, hnone]
  vacant_store := by
    intro m q d hq hm
    have hget := get?_store_memory d p q m
    rw [hq, if_neg Bool.false_ne_true] at hget
    rw [Blobs.holds, KeyedList.contains, hget]
    exact hm
  load_store_of_apart := by
    intro m q d new hq hd
    rw [load_memory_eq_ok_iff] at hd ⊢
    rw [get?_store_memory, hq, if_neg Bool.false_ne_true, hd]
  load_store := by
    intro m d _
    have hsame : p.same p = true := by simp [Path.same]
    rw [load_memory_eq_ok_iff, get?_store_memory, if_pos hsame]

/-! ## 2. In files -/

section Files

variable {working : Place}

/-- Data is loaded from files exactly where the path opens a file with an envelope of it. -/
theorem load_files_eq_ok_iff {p : Path} {t : FileTree working} {d : PlannerData} :
    files.load p t = .ok d ↔
      ∃ bytes, t.open? p = .ok (.file bytes) ∧ PlannerData.ofBytes? bytes = some d := by
  unfold files
  dsimp only
  split
  · rename_i h
    simp [h]
  · rename_i h
    simp [h]
  · rename_i h
    simp [h]
  · rename_i bytes h
    rw [h]
    cases hd : PlannerData.ofBytes? bytes <;> simp [hd]

/-- A store in files is a store of the envelope. -/
theorem stores_files (d : PlannerData) (p : Path) (t : FileTree working) :
    ∃ result, t.Stores p d.toBytes result (files.store d p t).2 ∧
      ((files.store d p t).1 = .ok () → result = .ok ()) := by
  rcases h : t.store p d.toBytes with ⟨result, t'⟩
  have hs := FileTree.stores_of_eq h
  refine ⟨result, ?_⟩
  unfold files
  dsimp only
  rw [h]
  cases result with
  | ok u => exact ⟨hs, fun _ => rfl⟩
  | error e => exact ⟨hs, fun he => by cases he⟩

/-- Data is still loaded as long as directories stay and the file of the path does. -/
theorem load_files_of_stay {t t' : FileTree working} (ht : t.DirectoriesStay t') {p : Path}
    {d : PlannerData}
    (hstays : ∀ place bytes, FileTree.placeOf working p = .ok place →
      t.get? place = some (.file bytes) → t'.get? place = some (.file bytes))
    (h : files.load p t = .ok d) : files.load p t' = .ok d := by
  obtain ⟨bytes, hopen, hbytes⟩ := load_files_eq_ok_iff.mp h
  obtain ⟨place, hplace, hfile⟩ := FileTree.get?_of_open? hopen
  have hplace' := FileTree.locate_mono ht hplace
  have hfile' := hstays place bytes (FileTree.placeOf_of_locate hplace) hfile
  exact load_files_eq_ok_iff.mpr ⟨bytes, FileTree.open?_of_get? hplace' hfile', hbytes⟩

/-- **Files keep what is stored in them.** -/
theorem keeps_files (working : Place) (p : Path) :
    files.Keeps p
      (fun t : FileTree working => ∀ place bytes, FileTree.placeOf working p = .ok place →
        t.get? place ≠ some (.file bytes))
      (fun q => ∀ place, FileTree.placeOf working p = .ok place →
        FileTree.placeOf working q ≠ .ok place) where
  load_of_vacant := by
    intro t ht
    rcases hload : files.load p t with e | d
    · exact ⟨e, rfl⟩
    · obtain ⟨bytes, hopen, -⟩ := load_files_eq_ok_iff.mp hload
      obtain ⟨place, hplace, hfile⟩ := FileTree.get?_of_open? hopen
      exact absurd hfile (ht place bytes (FileTree.placeOf_of_locate hplace))
  vacant_store := by
    intro t q d hq ht place bytes hplace hfile
    obtain ⟨result, hs, -⟩ := stores_files d q t
    exact ht place bytes hplace ((hs.file_iff (hq place hplace) bytes).mp hfile)
  load_store_of_apart := by
    intro t q d new hq hd
    obtain ⟨result, hs, -⟩ := stores_files new q t
    refine load_files_of_stay hs.directoriesStay (fun place bytes hplace hfile => ?_) hd
    exact (hs.file_iff (hq place hplace) bytes).mpr hfile
  load_store := by
    intro t d hok
    obtain ⟨result, hs, hresult⟩ := stores_files d p t
    obtain rfl := hresult hok
    exact load_files_eq_ok_iff.mpr ⟨d.toBytes, hs.open?, PlannerData.ofBytes?_toBytes d⟩

end Files

end MotionContexts.Storage
