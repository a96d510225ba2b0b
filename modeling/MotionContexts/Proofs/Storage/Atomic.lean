/-
# Storing in files is all or nothing

A store that succeeds leaves its own data at its path; one that fails leaves every file as it was,
the one at its own path too, and adds none.  It does not matter why it failed: because of what is in
the tree, or because the system let it down at any of its stages.  Both may leave directories that
were not there before.  They stand on the way of the path, at the end of some first part of its
components, and where they stand nothing was.  Nothing else is left, so no temporary file is.

From there many stores are the same argument as in memory: the file at a place is replaced by the
stores that lead there and succeed, and by no other.  What may differ is whether a path gets there.
A path that has been stored at always does, because directories stay.  Another one, equal or not,
may be refused still; but if it gets there it loads what was stored.

Main statements:
* `made_of_store`, where a store makes directories;
* `store_files_of_fault`, the stores that the system lets down;
* `replaces_files`, the file at a place behind many stores;
* `stores_atomically`, what one store leaves and what many leave.
-/
import MotionContexts.Proofs.Storage.Entries
import MotionContexts.Proofs.Storage.LastWrite

namespace MotionContexts

namespace FileTree

variable {working : Place}

/-! ## 1. Directories on the way -/

/-- The place is on the way of the path: some first part of its components leads there, but not all
of them. -/
def OnTheWay (working : Place) (p : Path) (place : Place) : Prop :=
  ∃ way, way <+: p.components ∧ way ≠ p.components ∧ follow working way = .ok place

/-- What is made on the way is at the end of a first part of the steps. -/
theorem made_of_makeWay :
    ∀ {cs : List Path.Component} {t t' : FileTree working} {p q : Place}
      {result : Except Trouble Place},
      t.makeWay p cs = (result, t') → t.get? q = none → t'.get? q = some .directory →
        ∃ way, way ≠ [] ∧ way <+: cs ∧ follow p way = .ok q
  | [], t, t', p, q, result, h, hnone, hdir => by
    cases h
    rw [hnone] at hdir
    cases hdir
  | c :: cs, t, t', p, q, result, h, hnone, hdir => by
    have unchanged : t ≠ t' := by
      rintro rfl
      rw [hnone] at hdir
      cases hdir
    unfold makeWay at h
    split at h
    · exact absurd (congrArg Prod.snd h) unchanged
    · rename_i r hr
      -- what is made behind the first step is made behind it and the steps that follow
      have further : ∀ {way}, way <+: cs → follow r way = .ok q →
          ∃ way, way ≠ [] ∧ way <+: c :: cs ∧ follow p way = .ok q := by
        intro way hway hq
        refine ⟨c :: way, List.cons_ne_nil _ _, List.cons_prefix_cons.mpr ⟨rfl, hway⟩, ?_⟩
        rw [follow, hr]
        exact hq
      split at h
      · obtain ⟨way, -, hway, hq⟩ := made_of_makeWay h hnone hdir
        exact further hway hq
      · exact absurd (congrArg Prod.snd h) unchanged
      · by_cases hqr : q = r
        · exact further List.nil_prefix (congrArg Except.ok hqr.symm)
        · have hgiven : isGiven working q = false := isGiven_eq_false (t := t) (by simp [hnone])
          have hnone' : (t.put r .directory).get? q = none := by
            rw [get?_put, hgiven, if_neg Bool.false_ne_true, if_neg hqr]
            exact hnone
          obtain ⟨way, -, hway, hq⟩ := made_of_makeWay h hnone' hdir
          exact further hway hq

/-- The directories that are made for a path are on its way. -/
theorem onTheWay_of_makeParents {t t' : FileTree working} {fault : Option Fault} {p : Path}
    {result : Except Trouble Place} {q : Place} (h : t.makeParents fault p = (result, t'))
    (hnone : t.get? q = none) (hdir : t'.get? q = some .directory) : OnTheWay working p q := by
  obtain ⟨steps, result', hsteps, hm⟩ := makeWay_of_makeParents h
  obtain ⟨way, hne, hway, hq⟩ := made_of_makeWay hm hnone hdir
  have hparents := hway.trans hsteps
  refine ⟨way, hparents.trans (List.dropLast_prefix _), fun he => ?_, hq⟩
  -- all the components are more than the last one leaves
  have hle := hparents.length_le
  have hpos := List.length_pos_of_ne_nil hne
  rw [List.length_dropLast, ← he] at hle
  omega

/-- **A store makes directories on the way of its path only.** -/
theorem made_of_store {t t' : FileTree working} {p : Path} {bytes : List UInt8}
    {result : Except Trouble Unit} {q : Place} (h : t.store p bytes = (result, t'))
    (hnone : t.get? q = none) (hdir : t'.get? q = some .directory) : OnTheWay working p q := by
  have hnone' : t.pastFault.get? q = none := by simpa using hnone
  cases reaches_of_eq h with
  | nowhere hu =>
    rw [hnone'] at hdir
    cases hdir
  | midway hm => exact onTheWay_of_makeParents hm hnone' hdir
  | directory hm hr =>
    refine onTheWay_of_makeParents hm hnone' ?_
    rcases replace_cases hr with ⟨e, -, hsame⟩ | ⟨-, place, -, -, hnew⟩
    · rw [← hsame]
      exact hdir
    · have hq : q ≠ place := by
        rintro rfl
        rw [hnew, if_pos rfl] at hdir
        cases hdir
      rw [hnew, if_neg hq] at hdir
      exact hdir

/-- Where nothing but directories was made. -/
theorem Stores.widens_of_error {t t' : FileTree working} {p : Path} {bytes : List UInt8}
    {e : Trouble} (h : t.Stores p bytes (.error e) t') : t.Widens t' := by
  cases h with
  | failed hw => exact hw

/-- Where a file was put, the rest has only directories more. -/
theorem Stores.widens_of_ok {t t' : FileTree working} {p : Path} {bytes : List UInt8}
    (h : t.Stores p bytes (.ok ()) t') :
    ∃ place, t'.locate p = .ok place ∧ t.get? place ≠ some .directory ∧
      t'.get? place = some (.file bytes) ∧ ∀ q, q ≠ place →
        t'.get? q = t.get? q ∨ t.get? q = none ∧ t'.get? q = some .directory := by
  cases h with
  | @stored t₁ _ place hw hp hfree hnew =>
    refine ⟨place, hp, fun hdir => hfree (hw.directoriesStay place hdir), ?_, fun q hq => ?_⟩
    · rw [hnew, if_pos rfl]
    · rw [hnew, if_neg hq]
      exact hw q

/-- The entry at a place is what it was, or is a directory now where nothing was on the way of the
path. -/
def SameOrMade (t t' : FileTree working) (p : Path) (place : Place) : Prop :=
  t'.get? place = t.get? place ∨
    t.get? place = none ∧ t'.get? place = some .directory ∧ OnTheWay working p place

/-- No file is put at such a place, none is changed and none is taken away. -/
theorem SameOrMade.file_iff {t t' : FileTree working} {p : Path} {place : Place}
    (h : t.SameOrMade t' p place) (bytes : List UInt8) :
    t'.get? place = some (.file bytes) ↔ t.get? place = some (.file bytes) := by
  rcases h with he | ⟨hnone, hdir, -⟩
  · rw [he]
  · simp [hnone, hdir]

end FileTree

namespace Storage

variable {working : Place}

/-! ## 2. One store -/

theorem store_files_eq (d : PlannerData) (p : Path) (t : FileTree working) :
    files.store d p t = ((t.store p d.toBytes).1.mapError ofTrouble, (t.store p d.toBytes).2) := by
  unfold files
  dsimp only
  split
  · rename_i h
    rw [h]
    rfl
  · rename_i h
    rw [h]
    rfl

/-- If a directory is all that a store can have made at a place, the place is on the way of the
path. -/
theorem sameOrMade_store_files {d : PlannerData} {p : Path} {t : FileTree working} {q : Place}
    (h : (files.store d p t).2.get? q = t.get? q ∨
      t.get? q = none ∧ (files.store d p t).2.get? q = some .directory) :
    t.SameOrMade (files.store d p t).2 p q := by
  refine h.imp_right fun ⟨hnone, hdir⟩ => ⟨hnone, hdir, ?_⟩
  rw [store_files_eq] at hdir
  exact FileTree.made_of_store rfl hnone hdir

/-- A store that fails has made directories at most. -/
theorem store_files_of_error {d : PlannerData} {p : Path} {t : FileTree working} {e : DataError}
    (h : (files.store d p t).1 = .error e) : t.Widens (files.store d p t).2 := by
  rcases hstore : t.store p d.toBytes with ⟨result, t'⟩
  rw [store_files_eq, hstore] at h ⊢
  cases result with
  | ok u => cases h
  | error trouble => exact (FileTree.stores_of_eq hstore).widens_of_error

/-- No file has been put or changed, so everything is loaded that was loaded before; and what is new
is a directory on the way of the path. -/
structure Untouched (t t' : FileTree working) (p : Path) : Prop where
  entry : ∀ q, t.SameOrMade t' p q
  file : ∀ q bytes, t'.get? q = some (.file bytes) ↔ t.get? q = some (.file bytes)
  load : ∀ q old, files.load q t = .ok old → files.load q t' = .ok old

/-- The entries say it all. -/
theorem untouched_of_sameOrMade {t t' : FileTree working} {p : Path}
    (h : ∀ q, t.SameOrMade t' p q) : Untouched t t' p where
  entry := h
  file q := (h q).file_iff
  load q old := by
    have hw : t.Widens t' := fun q => (h q).imp_right fun ⟨hnone, hdir, _⟩ => ⟨hnone, hdir⟩
    exact load_files_of_stay hw.directoriesStay fun place bytes _ => (hw.file place bytes).mpr

/-- A store that succeeds has put its file at the place of its path, and made directories at most
beside it. -/
theorem store_files_of_ok {d : PlannerData} {p : Path} {t : FileTree working}
    (h : (files.store d p t).1 = .ok ()) :
    ∃ place, (files.store d p t).2.locate p = .ok place ∧ t.get? place ≠ some .directory ∧
      (files.store d p t).2.get? place = some (.file d.toBytes) ∧ ∀ q, q ≠ place →
        (files.store d p t).2.get? q = t.get? q ∨
          t.get? q = none ∧ (files.store d p t).2.get? q = some .directory := by
  obtain ⟨result, hs, hresult⟩ := stores_files d p t
  obtain rfl := hresult h
  exact hs.widens_of_ok

/-! ## 3. Many stores -/

/-- The store succeeds behind those in front of it, and its path leads to the place. -/
def Replacing (t : FileTree working) (place : Place) (before : List (PlannerData × Path))
    (e : PlannerData × Path) : Prop :=
  (files.store e.1 e.2 (files.after t before)).1 = .ok () ∧ FileTree.placeOf working e.2 = .ok place

theorem directoriesStay_after (t : FileTree working) (stores : List (PlannerData × Path)) :
    t.DirectoriesStay (files.after t stores) := by
  induction stores using List.reverseRecOn with
  | nil => exact fun _ h => h
  | append_singleton stores e ih =>
    intro q hq
    obtain ⟨result, hs, -⟩ := stores_files e.1 e.2 (files.after t stores)
    rw [after_concat]
    exact hs.directoriesStay q (ih q hq)

theorem faults_after (t : FileTree working) (stores : List (PlannerData × Path)) :
    (files.after t stores).faults = t.faults.drop stores.length := by
  induction stores using List.reverseRecOn with
  | nil => rfl
  | append_singleton stores e ih =>
    rcases hstore : (files.after t stores).store e.2 e.1.toBytes with ⟨result, t'⟩
    rw [after_concat, store_files_eq, hstore, List.length_append, List.length_singleton,
      ← List.tail_drop, ← ih]
    exact FileTree.faults_store hstore

/-- A store is let down as it is meant to be, whatever was stored before. -/
theorem store_files_of_fault {t : FileTree working} {before : List (PlannerData × Path)}
    {fault : Fault} (h : t.faults[before.length]? = some (some fault)) (d : PlannerData) (p : Path) :
    ∃ e, (files.store d p (files.after t before)).1 = .error e := by
  have hfault : (files.after t before).fault? = some fault := by
    rw [FileTree.fault?, faults_after, List.head?_drop, h]
    rfl
  obtain ⟨trouble, htrouble⟩ := FileTree.store_of_fault hfault p d.toBytes
  exact ⟨ofTrouble trouble, by rw [store_files_eq, htrouble]; rfl⟩

/-- What is there behind a store that replaces the file at a place. -/
theorem Replacing.leaves {t : FileTree working} {place : Place} {before : List (PlannerData × Path)}
    {e : PlannerData × Path} (h : Replacing t place before e) :
    (files.after t (before ++ [e])).locate e.2 = .ok place ∧
      fileAt place (files.after t (before ++ [e])) = some e.1.toBytes := by
  obtain ⟨hok, hplace⟩ := h
  obtain ⟨place', hlocate, -, hfile, -⟩ := store_files_of_ok hok
  -- a path leads to one place, whatever the tree
  obtain rfl : place = place' :=
    Except.ok.inj (hplace.symm.trans (FileTree.placeOf_of_locate hlocate))
  rw [after_concat, fileAt_eq_some_iff]
  exact ⟨hlocate, hfile⟩

/-- **The file at a place** is replaced by the stores that lead there and succeed. -/
theorem replaces_files (t : FileTree working) (place : Place) :
    files.Replaces t (fileAt place) PlannerData.toBytes (Replacing t place) where
  new stores e he := he.leaves.2
  old stores e he := by
    have hfile : ∀ bytes,
        (files.store e.1 e.2 (files.after t stores)).2.get? place = some (.file bytes) ↔
          (files.after t stores).get? place = some (.file bytes) := by
      by_cases hplace : FileTree.placeOf working e.2 = .ok place
      · -- the store led here, so it failed
        rcases hresult : (files.store e.1 e.2 (files.after t stores)).1 with error | u
        · exact (store_files_of_error hresult).file place
        · exact absurd ⟨hresult, hplace⟩ he
      · obtain ⟨result, hs, -⟩ := stores_files e.1 e.2 (files.after t stores)
        exact hs.file_iff hplace
    rw [after_concat]
    refine Option.ext fun bytes => ?_
    rw [fileAt_eq_some_iff, fileAt_eq_some_iff]
    exact hfile bytes

/-- A path that a store succeeded at still leads to its place behind all that follow. -/
theorem locate_after {t : FileTree working} {place : Place}
    {before behind : List (PlannerData × Path)} {e : PlannerData × Path} (h : Replacing t place before e) :
    (files.after t (before ++ e :: behind)).locate e.2 = .ok place := by
  rw [List.append_cons, after_append]
  exact FileTree.locate_mono (directoriesStay_after _ behind) h.leaves.1

/-- A path that gets to a place loads what the bytes of the file there spell. -/
theorem load_files_of_fileAt {t : FileTree working} {q : Path} {place : Place} {d : PlannerData}
    (hplace : t.locate q = .ok place) (hfile : fileAt place t = some d.toBytes) :
    files.load q t = .ok d :=
  load_files_eq_ok_iff.mpr ⟨d.toBytes, FileTree.open?_of_get? hplace (fileAt_eq_some_iff.mp hfile),
    PlannerData.ofBytes?_toBytes d⟩

/-- **Stores are all or nothing**, in every tree, seen from every working directory, and at every
path.

A store that succeeds leaves its data at its path, and the file of the path is the only one that it
has put or changed.  A store that fails has put no file and changed none, so all that could be
loaded before is loaded still, from the path itself as from any other.  In either case an entry that
is new beside that file is a directory on the way of the path; so no temporary file remains.

Whichever stores of a sequence the system is to let down, and at whatever stages, those do fail.  Of
many stores, failing or not, the last one counts that led to a place and succeeded: every path
that gets to the place loads its data, and the paths of all stores that succeeded there do get to
it.  Where none succeeded the file is what it was. -/
theorem stores_atomically (working : Place) (t : FileTree working) :
    (∀ d p, (files.store d p t).1 = .ok () →
      files.load p (files.store d p t).2 = .ok d ∧
      ∃ place, FileTree.placeOf working p = .ok place ∧ t.get? place ≠ some .directory ∧
        (files.store d p t).2.get? place = some (.file d.toBytes) ∧
        (∀ q, q ≠ place → t.SameOrMade (files.store d p t).2 p q ∧
          ∀ bytes, (files.store d p t).2.get? q = some (.file bytes) ↔
            t.get? q = some (.file bytes)) ∧
        ∀ q old, FileTree.placeOf working q ≠ .ok place → files.load q t = .ok old →
          files.load q (files.store d p t).2 = .ok old) ∧
    (∀ d p e, (files.store d p t).1 = .error e → Untouched t (files.store d p t).2 p) ∧
    (∀ (before : List (PlannerData × Path)) d p fault,
      t.faults[before.length]? = some (some fault) →
      ∃ e, (files.store d p (files.after t before)).1 = .error e) ∧
    (∀ stores place,
      (∀ e, LastOf (Replacing t place) stores e →
        ∀ q, (files.after t stores).locate q = .ok place →
          files.load q (files.after t stores) = .ok e.1) ∧
      (∀ before e behind, stores = before ++ e :: behind → Replacing t place before e →
        (files.after t stores).locate e.2 = .ok place) ∧
      (NoneOf (Replacing t place) stores →
        fileAt place (files.after t stores) = fileAt place t)) := by
  refine ⟨fun d p hok => ?ok, fun d p e herror => ?error,
    fun before d p fault hfault => store_files_of_fault hfault d p, fun stores place => ?many⟩
  case ok =>
    obtain ⟨place, hplace, hfree, hfile, hother⟩ := store_files_of_ok hok
    have hp := FileTree.placeOf_of_locate hplace
    refine ⟨(keeps_files working p).load_store hok, place, hp, hfree, hfile, fun q hq => ?_,
      fun q old hq => ?_⟩
    · have hsame := sameOrMade_store_files (hother q hq)
      exact ⟨hsame, hsame.file_iff⟩
    · refine (keeps_files working q).load_store_of_apart d fun r hr hpr => hq ?_
      rw [hr, ← hpr, hp]
  case error =>
    exact untouched_of_sameOrMade fun q => sameOrMade_store_files (store_files_of_error herror q)
  case many =>
    have hreplaces := replaces_files t place
    refine ⟨fun e hlast q hq => load_files_of_fileAt hq (hreplaces.of_last hlast), ?_,
      hreplaces.of_none⟩
    rintro before e behind rfl he
    exact locate_after he

/-- Beside a blob another one is put under a new directory; a path that leads through the blob is
refused and leaves it, and so does a store of the blob's own path that is let down while it writes.
Of four stores at one place the second one counts, and is loaded by way of the directory above: the
slash of the third one asks for a directory, and the last one is let down when it moves its file. -/
theorem stores_atomically_beside_blob :
    let old : PlannerData := ⟨"roadmap", [1]⟩
    let new : PlannerData := ⟨"roadmap", [2]⟩
    let t : FileTree ["tmp", "work"] :=
      FileTree.empty.put ["tmp", "work", "arm"] (.file old.toBytes)
    let full : FileTree ["tmp", "work"] :=
      { t with faults := [some ⟨.writing 3, "no space left on device"⟩] }
    let stores : List (PlannerData × Path) :=
      [(old, ⟨"maps/arm"⟩), (new, ⟨"/tmp/work/maps/arm"⟩), (old, ⟨"maps/arm/"⟩),
        (old, ⟨"maps/arm"⟩)]
    let worn : FileTree ["tmp", "work"] :=
      { t with faults := [none, none, none, some ⟨.moving, "input/output error"⟩] }
    files.load ⟨"maps/arm"⟩ (files.store new ⟨"maps/arm"⟩ t).2 = .ok new ∧
      files.load ⟨"arm"⟩ (files.store new ⟨"maps/arm"⟩ t).2 = .ok old ∧
      files.load ⟨"arm"⟩ (files.store new ⟨"arm/arm"⟩ t).2 = .ok old ∧
      files.load ⟨"arm"⟩ (files.store new ⟨"arm"⟩ full).2 = .ok old ∧
      files.load ⟨"../work/maps/arm"⟩ (files.after worn stores) = .ok new := by
  intro old new t full stores worn
  obtain ⟨hok, herror, -, -⟩ := stores_atomically ["tmp", "work"] t
  have hold : t.get? ["tmp", "work", "arm"] = some (.file old.toBytes) := by
    rw [FileTree.get?_put]
    rfl
  have hlocate : t.locate ⟨"arm"⟩ = .ok ["tmp", "work", "arm"] := by decide +kernel
  have hload : files.load ⟨"arm"⟩ t = .ok old :=
    load_files_of_fileAt hlocate (fileAt_eq_some_iff.mpr hold)
  have hstored : (files.store new ⟨"maps/arm"⟩ t).1 = .ok () := by decide +kernel
  obtain ⟨hnew, place, hplace, -, -, -, hothers⟩ := hok new ⟨"maps/arm"⟩ hstored
  have helsewhere : FileTree.placeOf ["tmp", "work"] ⟨"arm"⟩ ≠ .ok place := by
    rw [← hplace]
    decide +kernel
  refine ⟨hnew, hothers ⟨"arm"⟩ old helsewhere hload, ?through, ?letDown, ?many⟩
  case through =>
    have hrefused : (files.store new ⟨"arm/arm"⟩ t).1 = .error (.io "not a directory") := by
      decide +kernel
    exact (herror _ _ _ hrefused).load ⟨"arm"⟩ old hload
  case letDown =>
    obtain ⟨-, herror, hletDown, -⟩ := stores_atomically ["tmp", "work"] full
    obtain ⟨e, he⟩ := hletDown [] new ⟨"arm"⟩ _ rfl
    have hlocate' : full.locate ⟨"arm"⟩ = .ok ["tmp", "work", "arm"] := by decide +kernel
    have hload' : files.load ⟨"arm"⟩ full = .ok old :=
      load_files_of_fileAt hlocate' (fileAt_eq_some_iff.mpr hold)
    exact (herror _ _ _ he).load ⟨"arm"⟩ old hload'
  case many =>
    obtain ⟨-, -, -, hmany⟩ := stores_atomically ["tmp", "work"] worn
    -- a path from the root names the file that the others name from the working directory
    have hsame : FileTree.placeOf ["tmp", "work"] ⟨"/tmp/work/maps/arm"⟩ =
        FileTree.placeOf ["tmp", "work"] ⟨"maps/arm"⟩ :=
      FileTree.placeOf_of_absolute (by decide) (by decide +kernel)
    have hplace : FileTree.placeOf ["tmp", "work"] ⟨"maps/arm"⟩ =
        .ok ["tmp", "work", "maps", "arm"] := by decide +kernel
    have hreplaces : Replacing worn ["tmp", "work", "maps", "arm"] (stores.take 1)
        (new, ⟨"/tmp/work/maps/arm"⟩) := ⟨by decide +kernel, hsame.trans hplace⟩
    have hthird : ¬ Replacing worn ["tmp", "work", "maps", "arm"] (stores.take 2)
        (old, ⟨"maps/arm/"⟩) := by
      rintro ⟨hdone, -⟩
      revert hdone
      decide +kernel
    have hfourth : ¬ Replacing worn ["tmp", "work", "maps", "arm"] (stores.take 3)
        (old, ⟨"maps/arm"⟩) := by
      rintro ⟨hdone, -⟩
      revert hdone
      decide +kernel
    have hlast : LastOf (Replacing worn ["tmp", "work", "maps", "arm"]) stores
        (new, ⟨"/tmp/work/maps/arm"⟩) := by
      have hstores : stores = stores.take 1 ++ [(new, ⟨"/tmp/work/maps/arm"⟩)] ++
          [(old, ⟨"maps/arm/"⟩)] ++ [(old, ⟨"maps/arm"⟩)] := rfl
      rw [hstores, lastOf_concat_iff, lastOf_concat_iff, lastOf_concat_iff]
      exact .inr ⟨hfourth, .inr ⟨hthird, .inl ⟨hreplaces, rfl⟩⟩⟩
    exact (hmany stores _).1 _ hlast ⟨"../work/maps/arm"⟩ (by decide +kernel)

end Storage

end MotionContexts
