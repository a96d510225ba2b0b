/-
# What storing in a file tree does

Without links a path leads to one place from the working directory, whatever the tree; the tree only
says whether one gets there.  So two paths name the same file in every tree or in none, and a walk
that once succeeded succeeds as long as the directories on the way are there.

Storing makes the directories that are missing, writes beside the target and moves.  The temporary
file has a name that no entry has, so it covers nothing and goes without a trace, at whatever stage
the store is let down.  What is left is said by `Stores`: on success the file of the path is new, on
failure no file is, and in either case nothing else has changed but that directories were made where
NOTHING was.

Main statements:
* `locate_mono`, a place that is reached stays within reach;
* `stores_of_eq`, what storing leaves;
* `store_of_fault` and `faults_store`, a store that is let down fails, and uses up that fault alone;
* `Stores.open?`, a file that was stored is opened with its bytes.
-/
import MotionContexts.FileTree

namespace MotionContexts

namespace FileTree

variable {working : Place}

/-! ## 1. Where a path leads -/

/-- The place at the end of the steps, whatever stands on the way. -/
def follow (p : Place) : List Path.Component → Except Trouble Place
  | [] => .ok p
  | c :: cs =>
    match stepFrom p c with
    | .ok q => follow q cs
    | .error e => .error e

/-- The place that a path names, seen from a working directory. -/
def placeOf (working : Place) (p : Path) : Except Trouble Place :=
  follow working (if p.endsInSlash then p.steps ++ [.here] else p.steps)

/-- A walk ends where the steps lead. -/
theorem follow_of_walk {t : FileTree working} :
    ∀ {cs : List Path.Component} {p q : Place}, t.walk p cs = .ok q → follow p cs = .ok q
  | [], p, q, h => h
  | c :: cs, p, q, h => by
    unfold walk at h
    split at h
    · split at h
      · rename_i hq
        rw [follow, hq]
        exact follow_of_walk h
      · cases h
    · cases h
    · cases h

theorem placeOf_of_locate {t : FileTree working} {p : Path} {place : Place}
    (h : t.locate p = .ok place) : placeOf working p = .ok place := by
  unfold locate at h
  split at h
  · cases h
  · exact follow_of_walk h

/-- Every directory of the one tree is a directory of the other. -/
def DirectoriesStay (t t' : FileTree working) : Prop :=
  ∀ p, t.get? p = some .directory → t'.get? p = some .directory

theorem walk_mono {t t' : FileTree working} (ht : t.DirectoriesStay t') :
    ∀ {cs : List Path.Component} {p q : Place}, t.walk p cs = .ok q → t'.walk p cs = .ok q
  | [], p, q, h => h
  | c :: cs, p, q, h => by
    unfold walk at h
    split at h
    · rename_i hp
      split at h
      · rename_i r hr
        rw [walk, ht p hp, hr]
        exact walk_mono ht h
      · cases h
    · cases h
    · cases h

/-- **A place that is reached stays within reach** as long as directories stay. -/
theorem locate_mono {t t' : FileTree working} (ht : t.DirectoriesStay t') {p : Path} {place : Place}
    (h : t.locate p = .ok place) : t'.locate p = .ok place := by
  unfold locate at h
  split at h
  · cases h
  · rename_i hu
    rw [locate, hu]
    exact walk_mono ht h

/-! ## 2. Making directories -/

/-- The other tree has more directories, where nothing was, and is the same everywhere else. -/
def Widens (t t' : FileTree working) : Prop :=
  ∀ p, t'.get? p = t.get? p ∨ t.get? p = none ∧ t'.get? p = some .directory

theorem Widens.refl (t : FileTree working) : t.Widens t := fun _ => .inl rfl

theorem Widens.trans {t₁ t₂ t₃ : FileTree working} (h : t₁.Widens t₂) (h' : t₂.Widens t₃) :
    t₁.Widens t₃ := by
  intro p
  rcases h p with he | ⟨hnone, hdir⟩
  · rw [← he]
    exact h' p
  · rcases h' p with he | ⟨hnone', -⟩
    · exact .inr ⟨hnone, he.trans hdir⟩
    · rw [hdir] at hnone'
      cases hnone'

theorem Widens.directoriesStay {t t' : FileTree working} (h : t.Widens t') :
    t.DirectoriesStay t' := by
  intro p hp
  rcases h p with he | ⟨hnone, -⟩
  · exact he.trans hp
  · rw [hp] at hnone
    cases hnone

theorem Widens.file {t t' : FileTree working} (h : t.Widens t') (p : Place) (bytes : List UInt8) :
    t'.get? p = some (.file bytes) ↔ t.get? p = some (.file bytes) := by
  rcases h p with he | ⟨hnone, hdir⟩
  · rw [he]
  · simp [hnone, hdir]

theorem widens_put {t : FileTree working} {p : Place} (hp : t.get? p = none) :
    t.Widens (t.put p .directory) := by
  intro q
  rw [get?_put]
  by_cases hq : isGiven working q = true
  · rw [if_pos hq, get?, if_pos hq]
    exact .inl rfl
  · rw [if_neg hq]
    by_cases hqp : q = p
    · subst hqp
      rw [if_pos rfl]
      exact .inr ⟨hp, rfl⟩
    · rw [if_neg hqp]
      exact .inl rfl

theorem widens_makeWay :
    ∀ {cs : List Path.Component} {t t' : FileTree working} {p : Place}
      {result : Except Trouble Place}, t.makeWay p cs = (result, t') → t.Widens t'
  | [], t, t', p, result, h => by
    cases h
    exact .refl t
  | c :: cs, t, t', p, result, h => by
    unfold makeWay at h
    split at h
    · cases h
      exact .refl t
    · split at h
      · exact widens_makeWay h
      · cases h
        exact .refl t
      · rename_i hnone
        exact (widens_put hnone).trans (widens_makeWay h)

/-- Let down or not, directories are made along some first part of the steps to the directory of the
path. -/
theorem makeWay_of_makeParents {t t' : FileTree working} {fault : Option Fault} {p : Path}
    {result : Except Trouble Place} (h : t.makeParents fault p = (result, t')) :
    ∃ steps result', steps <+: p.components.dropLast ∧
      t.makeWay working steps = (result', t') := by
  unfold makeParents at h
  split at h
  · rename_i made reason
    rcases hm : t.makeWay working (p.components.dropLast.take made) with ⟨result', t₁⟩
    rw [hm] at h
    refine ⟨_, result', List.take_prefix made p.components.dropLast, ?_⟩
    cases result' <;> cases h <;> exact hm
  · exact ⟨_, result, List.prefix_refl _, h⟩

theorem widens_makeParents {t t' : FileTree working} {fault : Option Fault} {p : Path}
    {result : Except Trouble Place} (h : t.makeParents fault p = (result, t')) : t.Widens t' := by
  obtain ⟨steps, result', -, hway⟩ := makeWay_of_makeParents h
  exact widens_makeWay hway

/-! ## 3. The temporary file -/

theorem length_le_foldl_max {s : String} :
    ∀ {names : List String} (n : Nat), (s ∈ names ∨ s.length ≤ n) →
      s.length ≤ names.foldl (fun n s => max n s.length) n
  | [], n, h => by simpa using h
  | a :: names, n, h => by
    refine length_le_foldl_max (max n a.length) ?_
    rcases h with h | h
    · rcases List.mem_cons.mp h with rfl | h
      · exact .inr (by omega)
      · exact .inl h
    · exact .inr (by omega)

/-- A temporary name is longer than every name on the way to the working directory or an entry. -/
theorem length_lt_temporaryName {t : FileTree working} {p : Path} {name : String}
    (h : name ∈ working ∨ ∃ place e, t.entries.get? place = some e ∧ name ∈ place) :
    name.length < (t.temporaryName p).length := by
  unfold temporaryName
  dsimp only
  generalize hnames : working ++ t.entries.entries.flatMap (·.1) ++ _ = names
  have hin : name ∈ names := by
    rw [← hnames]
    refine List.mem_append_left _ (List.mem_append.mpr (h.imp_right ?_))
    rintro ⟨place, e, he, hname⟩
    exact List.mem_flatMap.mpr ⟨_, (Entries.find_eq_some_iff t.entries.nodup).mp he, hname⟩
  have hle := length_le_foldl_max 0 (.inl hin)
  have htmp : ".tmp".length = 4 := rfl
  rw [String.length_append, htmp, String.length_ofList, List.length_replicate]
  omega

/-- **Nothing stands where a temporary file is put.** -/
theorem get?_temporary (t : FileTree working) (p : Path) (directory : Place) :
    t.get? (directory ++ [t.temporaryName p]) = none := by
  have hmem : t.temporaryName p ∈ directory ++ [t.temporaryName p] := by simp
  have hgiven : isGiven working (directory ++ [t.temporaryName p]) = false := by
    refine Bool.eq_false_iff.mpr fun hprefix => ?_
    have hname := (List.isPrefixOf_iff_prefix.mp hprefix).subset hmem
    exact Nat.lt_irrefl _ (length_lt_temporaryName (.inl hname))
  rw [get?, hgiven, if_neg Bool.false_ne_true]
  rcases he : t.entries.get? (directory ++ [t.temporaryName p]) with _ | e
  · rfl
  · exact absurd (length_lt_temporaryName (.inr ⟨_, e, he, hmem⟩)) (Nat.lt_irrefl _)

theorem get?_of_openTemporary {t : FileTree working} {fault : Option Fault} {directory : Place}
    {p : Path} {temporary : Place} (h : t.openTemporary fault directory p = .ok temporary) :
    t.get? temporary = none := by
  unfold openTemporary at h
  split at h
  · cases h
  · split at h
    · cases h
    · cases h
      exact t.get?_temporary p directory

/-- What could be written is all there. -/
theorem eq_of_writeOut {fault : Option Fault} {bytes content : List UInt8}
    (h : writeOut fault bytes = (.ok (), content)) : content = bytes := by
  unfold writeOut at h
  split at h <;> cases h
  rfl

/-- A temporary file that is taken away again leaves everything as it was. -/
theorem get?_remove_put {t : FileTree working} {p : Place} {e : Entry} (hp : t.get? p = none)
    (q : Place) : ((t.put p e).remove p).get? q = t.get? q := by
  rw [get?_remove, get?_put]
  by_cases hq : isGiven working q = true
  · rw [if_pos hq, get?, if_pos hq]
  · rw [if_neg hq, if_neg hq]
    by_cases hqp : q = p
    · rw [if_pos hqp, hqp, hp]
    · rw [if_neg hqp, if_neg hqp]

theorem isGiven_eq_false {t : FileTree working} {p : Place} (h : t.get? p ≠ some .directory) :
    isGiven working p = false :=
  Bool.eq_false_iff.mpr fun hp => h (by rw [get?, if_pos hp])

/-- A file that is put where no directory is leaves the directories that there are. -/
theorem get?_put_file {t : FileTree working} {p : Place} {bytes : List UInt8}
    (hp : t.get? p ≠ some .directory) (q : Place) :
    (t.put p (.file bytes)).get? q = if q = p then some (.file bytes) else t.get? q := by
  rw [get?_put]
  by_cases hq : isGiven working q = true
  · have hqp : q ≠ p := fun he => by
      rw [he, isGiven_eq_false hp] at hq
      cases hq
    rw [if_pos hq, if_neg hqp, get?, if_pos hq]
  · rw [if_neg hq]

theorem get?_put_file_eq_directory_iff {t : FileTree working} {p : Place} {bytes : List UInt8}
    (hp : t.get? p ≠ some .directory) (q : Place) :
    (t.put p (.file bytes)).get? q = some .directory ↔ t.get? q = some .directory := by
  rw [get?_put_file hp]
  by_cases hqp : q = p
  · rw [hqp, if_pos rfl]
    simp [hp]
  · rw [if_neg hqp]

/-! ## 4. Storing -/

/-- What storing a file at a path may answer, and the tree that it may leave. -/
inductive Stores (t : FileTree working) (p : Path) (bytes : List UInt8) :
    Except Trouble Unit → FileTree working → Prop
  /-- Directories may have been made. -/
  | failed {e : Trouble} {t' : FileTree working} (hw : t.Widens t') : Stores t p bytes (.error e) t'
  /-- The file of the path is new, and nothing else beside directories that were made. -/
  | stored {t₁ t' : FileTree working} {place : Place} (hw : t.Widens t₁)
    (hp : t'.locate p = .ok place) (hfree : t₁.get? place ≠ some .directory)
    (hnew : ∀ q, t'.get? q = if q = place then some (.file bytes) else t₁.get? q) :
    Stores t p bytes (.ok ()) t'

theorem locate_of_movable? {t : FileTree working} {fault : Option Fault} {p : Path} {place : Place}
    (h : t.movable? fault p = .ok place) :
    t.locate p = .ok place ∧ t.get? place ≠ some .directory := by
  unfold movable? at h
  split at h
  · cases h
  unfold fileable? at h
  split at h
  · cases h
  · rename_i q hq
    split at h
    · cases h
    · rename_i hdir
      cases h
      exact ⟨hq, hdir⟩

/-- Replacing puts the file of the path there, or leaves everything as it was, wherever it is let
down; the temporary file is gone in either case. -/
theorem replace_cases {t t' : FileTree working} {fault : Option Fault} {directory : Place} {p : Path}
    {bytes : List UInt8} {result : Except Trouble Unit}
    (h : t.replace fault directory p bytes = (result, t')) :
    (∃ e, result = .error e ∧ ∀ q, t'.get? q = t.get? q) ∨
    (result = .ok () ∧ ∃ place, t'.locate p = .ok place ∧ t.get? place ≠ some .directory ∧
      ∀ q, t'.get? q = if q = place then some (.file bytes) else t.get? q) := by
  unfold replace at h
  split at h
  · -- no temporary file was opened
    cases h
    exact .inl ⟨_, rfl, fun _ => rfl⟩
  rename_i temporary hopen
  have hnone := get?_of_openTemporary hopen
  split at h
  · -- it was opened, but not written in full
    cases h
    exact .inl ⟨_, rfl, get?_remove_put hnone⟩
  rename_i content hwrite
  obtain rfl := eq_of_writeOut hwrite
  have hback := get?_remove_put (e := .file content) hnone
  have hdirs : ∀ q, (t.put temporary (.file content)).get? q = some .directory ↔
      t.get? q = some .directory :=
    get?_put_file_eq_directory_iff (by simp [hnone])
  dsimp only at h
  split at h
  · -- it was written, but not moved
    cases h
    exact .inl ⟨_, rfl, hback⟩
  rename_i place hplace
  cases h
  -- the target was located beside the temporary file, and is no directory there
  obtain ⟨hlocate, hfree⟩ := locate_of_movable? hplace
  have hfree' : t.get? place ≠ some .directory := fun hdir => hfree ((hdirs place).mpr hdir)
  have hnew : ∀ q, (((t.put temporary (.file content)).remove temporary).put place
      (.file content)).get? q = if q = place then some (.file content) else t.get? q := by
    intro q
    rw [get?_put_file (by rwa [hback]), hback]
  refine .inr ⟨rfl, place, locate_mono (fun q hq => ?_) hlocate, hfree', hnew⟩
  have hqp : q ≠ place := fun he => hfree (he ▸ hq)
  rw [hnew, if_neg hqp]
  exact (hdirs q).mp hq

theorem stores_replace {t t₁ t' : FileTree working} {fault : Option Fault} {directory : Place}
    {p : Path} {bytes : List UInt8} {result : Except Trouble Unit} (hw : t.Widens t₁)
    (h : t₁.replace fault directory p bytes = (result, t')) : t.Stores p bytes result t' := by
  rcases replace_cases h with ⟨e, rfl, hsame⟩ | ⟨rfl, place, hplace, hfree, hnew⟩
  · exact .failed (hw.trans fun q => .inl (hsame q))
  · exact .stored hw hplace hfree hnew

theorem widens_pastFault (t : FileTree working) : t.Widens t.pastFault := by simp [Widens]

/-- How far a store gets. -/
inductive Reaches (t : FileTree working) (p : Path) (bytes : List UInt8) :
    Except Trouble Unit → FileTree working → Prop
  /-- The path is refused as it stands. -/
  | nowhere {e : Trouble} (h : usable p.directory = .error e) :
    Reaches t p bytes (.error e) t.pastFault
  | midway {e : Trouble} {t' : FileTree working}
    (h : t.pastFault.makeParents t.fault? p = (.error e, t')) : Reaches t p bytes (.error e) t'
  | directory {result : Except Trouble Unit} {directory : Place} {t₁ t' : FileTree working}
    (hm : t.pastFault.makeParents t.fault? p = (.ok directory, t₁))
    (h : t₁.replace t.fault? directory p bytes = (result, t')) : Reaches t p bytes result t'

theorem reaches_of_eq {t t' : FileTree working} {p : Path} {bytes : List UInt8}
    {result : Except Trouble Unit} (h : t.store p bytes = (result, t')) :
    t.Reaches p bytes result t' := by
  unfold store at h
  split at h
  · rename_i hu
    cases h
    exact .nowhere hu
  · split at h
    · rename_i hm
      cases h
      exact .midway hm
    · rename_i hm
      exact .directory hm h

/-- **What storing leaves.** -/
theorem stores_of_eq {t t' : FileTree working} {p : Path} {bytes : List UInt8}
    {result : Except Trouble Unit} (h : t.store p bytes = (result, t')) :
    t.Stores p bytes result t' := by
  cases reaches_of_eq h with
  | nowhere => exact .failed t.widens_pastFault
  | midway hm => exact .failed (t.widens_pastFault.trans (widens_makeParents hm))
  | directory hm h => exact stores_replace (t.widens_pastFault.trans (widens_makeParents hm)) h

/-! ## 5. Stores that are let down -/

/-- Behind the directories, replacing fails at every stage where it is let down. -/
theorem replace_of_fault (t : FileTree working) {fault : Fault} (directory : Place) (p : Path)
    (bytes : List UInt8) (hstage : ∀ made, fault.stage ≠ .way made) :
    ∃ e, (t.replace (some fault) directory p bytes).1 = .error e := by
  obtain ⟨stage, reason⟩ := fault
  unfold replace
  split
  · exact ⟨_, rfl⟩
  · rename_i temporary hopen
    cases stage with
    | way made => exact absurd rfl (hstage made)
    | opening =>
      unfold openTemporary at hopen
      split at hopen <;> cases hopen
    | writing n => exact ⟨_, rfl⟩
    | flushing n => exact ⟨_, rfl⟩
    | unwrapping n => exact ⟨_, rfl⟩
    | moving => exact ⟨_, rfl⟩

/-- A store that reaches the directory was not let down on the way to it. -/
theorem stage_ne_way {t t' : FileTree working} {fault : Fault} {p : Path} {directory : Place}
    (h : t.makeParents (some fault) p = (.ok directory, t')) (made : Nat) :
    fault.stage ≠ .way made := by
  obtain ⟨stage, reason⟩ := fault
  rintro rfl
  simp only [makeParents] at h
  split at h <;> cases h

/-- **A store that is let down fails**, at whatever stage. -/
theorem store_of_fault {t : FileTree working} {fault : Fault} (h : t.fault? = some fault) (p : Path)
    (bytes : List UInt8) : ∃ e, (t.store p bytes).1 = .error e := by
  rcases hs : t.store p bytes with ⟨result, t'⟩
  cases reaches_of_eq hs with
  | nowhere hu => exact ⟨_, rfl⟩
  | midway hm => exact ⟨_, rfl⟩
  | @directory _ directory t₁ _ hm hr =>
    rw [h] at hm hr
    have hfails := t₁.replace_of_fault directory p bytes (stage_ne_way hm)
    rwa [hr] at hfails

theorem faults_makeWay :
    ∀ {cs : List Path.Component} {t t' : FileTree working} {p : Place}
      {result : Except Trouble Place}, t.makeWay p cs = (result, t') → t'.faults = t.faults
  | [], t, t', p, result, h => by
    cases h
    rfl
  | c :: cs, t, t', p, result, h => by
    unfold makeWay at h
    split at h
    · cases h
      rfl
    · split at h
      · exact faults_makeWay h
      · cases h
        rfl
      · simpa using faults_makeWay h

theorem faults_makeParents {t t' : FileTree working} {fault : Option Fault} {p : Path}
    {result : Except Trouble Place} (h : t.makeParents fault p = (result, t')) :
    t'.faults = t.faults := by
  obtain ⟨steps, result', -, hway⟩ := makeWay_of_makeParents h
  exact faults_makeWay hway

theorem faults_replace {t t' : FileTree working} {fault : Option Fault} {directory : Place}
    {p : Path} {bytes : List UInt8} {result : Except Trouble Unit}
    (h : t.replace fault directory p bytes = (result, t')) : t'.faults = t.faults := by
  unfold replace at h
  split at h
  · cases h
    rfl
  · split at h
    · cases h
      simp
    · dsimp only at h
      split at h <;> cases h <;> simp

/-- **Each store uses up its own fault**, or the lack of one, and no other. -/
theorem faults_store {t t' : FileTree working} {p : Path} {bytes : List UInt8}
    {result : Except Trouble Unit} (h : t.store p bytes = (result, t')) :
    t'.faults = t.faults.tail := by
  cases reaches_of_eq h with
  | nowhere => rfl
  | midway hm => exact faults_makeParents hm
  | directory hm hr => exact (faults_replace hr).trans (faults_makeParents hm)

/-! ## 6. Files before and after -/

theorem get?_of_open? {t : FileTree working} {p : Path} {e : Entry} (h : t.open? p = .ok e) :
    ∃ place, t.locate p = .ok place ∧ t.get? place = some e := by
  unfold open? at h
  split at h
  · cases h
  · rename_i place hplace
    split at h
    · rename_i e' he
      cases h
      exact ⟨place, hplace, he⟩
    · cases h

theorem open?_of_get? {t : FileTree working} {p : Path} {place : Place} {e : Entry}
    (hplace : t.locate p = .ok place) (he : t.get? place = some e) : t.open? p = .ok e := by
  rw [open?, hplace]
  dsimp only
  rw [he]

/-- **A file that was stored is opened with its bytes.** -/
theorem Stores.open? {t t' : FileTree working} {p : Path} {bytes : List UInt8}
    (h : t.Stores p bytes (.ok ()) t') : t'.open? p = .ok (.file bytes) := by
  cases h with
  | stored hw hp hfree hnew => exact open?_of_get? hp (by rw [hnew, if_pos rfl])

/-- Storing leaves the files at other places alone, and puts none there. -/
theorem Stores.file_iff {t t' : FileTree working} {p : Path} {bytes : List UInt8}
    {result : Except Trouble Unit} (h : t.Stores p bytes result t') {q : Place}
    (hq : placeOf working p ≠ .ok q) (old : List UInt8) :
    t'.get? q = some (.file old) ↔ t.get? q = some (.file old) := by
  cases h with
  | failed hw => exact hw.file q old
  | @stored t₁ _ place hw hp hfree hnew =>
    have hne : q ≠ place := fun he => hq (he ▸ placeOf_of_locate hp)
    rw [hnew, if_neg hne]
    exact hw.file q old

/-- Storing leaves directories alone, wherever they are. -/
theorem Stores.directoriesStay {t t' : FileTree working} {p : Path} {bytes : List UInt8}
    {result : Except Trouble Unit} (h : t.Stores p bytes result t') : t.DirectoriesStay t' := by
  cases h with
  | failed hw => exact hw.directoriesStay
  | @stored t₁ _ place hw hp hfree hnew =>
    intro q hq
    have hq₁ := hw.directoriesStay q hq
    have hne : q ≠ place := fun he => hfree (he ▸ hq₁)
    rw [hnew, if_neg hne]
    exact hq₁

end FileTree

end MotionContexts
