/-
# Options about keeping the planner, and who else takes options out

Three flags and a path are taken out of the options in a fixed order, and a flag that cannot be read
ends this.  So there are two outcomes.  Either all four are out, and each was read AS THE GIVEN
OPTIONS HAVE IT; or the flags up to the first one that cannot be read are out, this one included,
and the later ones and the path are still there.

A flag may stand between blanks, in letters of either case.  A path is taken with its blanks, and
only one that has nothing else is none.

Two more readers take options out, the one that looks for the planner identifier and the one that
overrides limits.  No two of the three see the same key.  So each finds the same before and after
the others, and if all of them succeed it makes no difference WHICH COMES FIRST.

Main statements:
* `Retention.flag?_eq_some_iff_spells`, which texts are flags;
* `Limits.override_without` and `Retention.extract_without`, options that a reader does not see;
* `OptionReader.readAll_eq_ok_iff`, what readers find one after the other, in any order;
* `Retention.extracted_in_order`, what taking the four options out does.
-/
import Mathlib
import MotionContexts.Proofs.Options

namespace MotionContexts

/-! ## 1. Texts of flags -/

namespace Retention

/-- The words for a truth value. -/
def words : Bool → List (List Char)
  | true => [['t', 'r', 'u', 'e'], ['1']]
  | false => [['f', 'a', 'l', 's', 'e'], ['0']]

/-- The first text is the second one, but that it may have ASCII capitals for small letters. -/
def SameButCase (s w : List Char) : Prop := List.Forall₂ (fun c d => c = d ∨ c = d.toUpper) s w

/-- The text spells the truth value: between blanks stands a word for it, in letters of either
case. -/
def Spells (raw : List Char) (b : Bool) : Prop :=
  ∃ front word back w, raw = front ++ word ++ back ∧ (∀ c ∈ front, Text.isBlank c = true) ∧
    w ∈ words b ∧ SameButCase word w ∧ ∀ c ∈ back, Text.isBlank c = true

/-- A character in lower case is a given one that is no capital. -/
theorem toLower_eq_iff {c d : Char} (hd : ¬ d.isUpper) :
    c.toLower = d ↔ c = d ∨ c = d.toUpper := by
  have hlower : d.toLower = d := Char.toLower_eq_of_not_isUpper hd
  constructor
  · rintro rfl
    rw [Char.toUpper_toLower_eq_toUpper]
    by_cases hc : c.isUpper
    · exact .inr (Char.toUpper_eq_of_not_isLower (Char.not_isLower_of_isUpper hc)).symm
    · exact .inl (Char.toLower_eq_of_not_isUpper hc).symm
  · rintro (rfl | rfl)
    · exact hlower
    · rw [Char.toLower_toUpper_eq_toLower, hlower]

/-- A text in lower case is a given one without capitals. -/
theorem lower_eq_iff :
    ∀ {s w : List Char}, (∀ d ∈ w, ¬ d.isUpper) → (lower s = w ↔ SameButCase s w)
  | [], [], _ => by simp [lower, SameButCase]
  | [], _ :: _, _ => by simp [lower, SameButCase]
  | _ :: _, [], _ => by simp [lower, SameButCase]
  | c :: s, d :: w, h => by
    have ih : lower s = w ↔ SameButCase s w :=
      lower_eq_iff fun d hd => h d (List.mem_cons_of_mem _ hd)
    unfold SameButCase at ih ⊢
    rw [List.forall₂_cons, ← ih, ← toLower_eq_iff (h d (List.mem_cons_self ..)), lower,
      List.map_cons, List.cons.injEq]
    rfl

/-- The words have small letters and digits, none of them a blank in either case. -/
theorem of_mem_words {b : Bool} {w : List Char} (hw : w ∈ words b) :
    ∀ d ∈ w, ¬ d.isUpper ∧ Text.isBlank d = false ∧ Text.isBlank d.toUpper = false := by
  -- one letter of a word after the other, where `∀ d` would be decided over all characters
  have hletters : ∀ b, ∀ w ∈ words b, w.all (fun d =>
      !d.isUpper && (!Text.isBlank d && !Text.isBlank d.toUpper)) = true := by decide
  intro d hd
  simpa using List.all_eq_true.mp (hletters b w hw) d hd

theorem SameButCase.not_blank {s w : List Char} (h : SameButCase s w)
    (hw : ∀ d ∈ w, Text.isBlank d = false ∧ Text.isBlank d.toUpper = false) :
    ∀ c ∈ s, Text.isBlank c = false := by
  unfold SameButCase at h
  induction h with
  | nil =>
    intro c hc
    cases hc
  | @cons c d s w hcd hs ih =>
    intro x hx
    rcases List.mem_cons.mp hx with rfl | hx
    · obtain ⟨hsmall, hcapital⟩ := hw d (List.mem_cons_self ..)
      rcases hcd with rfl | rfl
      · exact hsmall
      · exact hcapital
    · exact ih (fun d hd => hw d (List.mem_cons_of_mem _ hd)) x hx

/-- **The texts of a flag** are those that spell a truth value. -/
theorem flag?_eq_some_iff_spells {raw : String} {b : Bool} :
    flag? raw = some b ↔ Spells raw.toList b := by
  have hwords : flag? raw = some b ↔ ∃ w ∈ words b, lower (Text.trim raw.toList) = w := by
    rw [flag?_eq_some_iff]
    cases b <;> simp [words]
  rw [hwords]
  constructor
  · rintro ⟨w, hw, hlower⟩
    obtain ⟨front, back, hraw, hfront, hback⟩ := Text.exists_padding raw.toList
    have hcase := (lower_eq_iff fun d hd => (of_mem_words hw d hd).1).mp hlower
    exact ⟨front, _, back, w, hraw, hfront, hw, hcase, hback⟩
  · rintro ⟨front, word, back, w, hraw, hfront, hw, hcase, hback⟩
    refine ⟨w, hw, (lower_eq_iff fun d hd => (of_mem_words hw d hd).1).mpr ?_⟩
    have hsolid := hcase.not_blank fun d hd => (of_mem_words hw d hd).2
    rw [hraw, Text.trim_padded hfront hsolid hback]
    exact hcase

end Retention

/-! ## 2. Options that a reader does not see -/

/-- **Overrides do not see options under other keys**: without them everything is the same, and they
are what is missing behind the overrides too. -/
theorem Limits.override_without {others : List String} :
    ∀ {ks : List LimitKey} (l : Limits) (options : Table String), (∀ k ∈ ks, k.name ∉ others) →
      override ks l (options.without others) =
        ((override ks l options).1, (override ks l options).2.1,
          (override ks l options).2.2.without others)
  | [], _, _, _ => rfl
  | k :: ks, l, options, h => by
    have hks : ∀ j ∈ ks, j.name ∉ others := fun j hj => h j (List.mem_cons_of_mem _ hj)
    have hget : (options.without others).get? k.name = options.get? k.name := by
      rw [Table.get?_without, if_neg (h k (List.mem_cons_self ..))]
    have herase : (options.without others).erase k.name =
        (options.erase k.name).without others := by
      rw [Table.erase_eq_without, Table.erase_eq_without, Table.without_comm]
    unfold override
    rw [hget, herase]
    cases options.get? k.name with
    | none => exact override_without l options hks
    | some raw =>
      dsimp only
      cases l.assign? k raw with
      | none => rfl
      | some l => exact override_without l (options.erase k.name) hks

namespace Retention

theorem takeFlag_without {key : String} {others : List String} (options : Table String)
    (h : key ∉ others) :
    takeFlag key (options.without others) =
      ((takeFlag key options).1, (takeFlag key options).2.without others) := by
  rw [takeFlag_eq, takeFlag_eq, readFlag_without options h, Table.without_comm]

/-- **Nor does the reader of the four options about keeping the planner** see them. -/
theorem extract_without {others : List String} (options : Table String)
    (h : ∀ key ∈ keys, key ∉ others) :
    extract (options.without others) =
      ((extract options).1, (extract options).2.without others) := by
  unfold extract
  rw [takeFlag_without options (h multiQueryKey (by decide))]
  rcases takeFlag multiQueryKey options with ⟨e | multiQuery, options⟩
  · rfl
  dsimp only
  rw [takeFlag_without options (h loadKey (by decide))]
  rcases takeFlag loadKey options with ⟨e | load, options⟩
  · rfl
  dsimp only
  rw [takeFlag_without options (h storeKey (by decide))]
  rcases takeFlag storeKey options with ⟨e | store, options⟩
  · rfl
  dsimp only
  rw [Table.get?_without, if_neg (h pathKey (by decide)), Table.erase_eq_without,
    Table.erase_eq_without, Table.without_comm]

end Retention

/-! ## 3. Readers one after the other -/

/-- Who takes options out before the planner gets what is left. -/
inductive OptionReader where
  /-- The planner identifier, which was looked up before, is taken out. -/
  | planner
  /-- Limits are overridden. -/
  | limits
  /-- The options about keeping the planner are read. -/
  | retention
  deriving DecidableEq, Repr

namespace OptionReader

/-- What was read so far, and the options that are left. -/
@[ext] structure Reading where
  limits : Limits
  retention : Retention := {}
  options : Table String

/-- The keys that a reader sees. -/
def keys : OptionReader → List String
  | .planner => [ContextSource.plannerOption]
  | .limits => LimitKey.all.map LimitKey.name
  | .retention => Retention.keys

/-- One reader. -/
def read (r : Reading) : OptionReader → Except ResolutionError Reading
  | .planner => .ok { r with options := r.options.erase ContextSource.plannerOption }
  | .limits =>
    match r.limits.applyOverrides r.options with
    | (.error e, _, _) => .error e
    | (.ok _, l, options) => .ok { r with limits := l, options }
  | .retention =>
    match Retention.extract r.options with
    | (.error e, _) => .error e
    | (.ok kept, options) => .ok { r with retention := kept, options }

/-- Readers one after the other, up to the first that fails. -/
def readAll : List OptionReader → Reading → Except ResolutionError Reading
  | [], r => .ok r
  | a :: readers, r =>
    match a.read r with
    | .error e => .error e
    | .ok r => readAll readers r

theorem disjoint_keys {a b : OptionReader} (h : a ≠ b) : ∀ key ∈ a.keys, key ∉ b.keys := by
  cases a <;> cases b <;> first | exact absurd rfl h | decide

/-- What is read in the end is what the reader finds in the beginning. -/
def Finds (start last : Reading) : OptionReader → Prop
  | .planner => True
  | .limits => ∃ left, start.limits.applyOverrides start.options = (.ok (), last.limits, left)
  | .retention => ∃ left, Retention.extract start.options = (.ok last.retention, left)

/-- What the reader would change is as it was. -/
def Keeps (start last : Reading) : OptionReader → Prop
  | .planner => True
  | .limits => last.limits = start.limits
  | .retention => last.retention = start.retention

theorem Keeps.symm {a : OptionReader} {start last : Reading} (h : a.Keeps start last) :
    a.Keeps last start := by
  cases a with
  | planner => exact trivial
  | limits => exact Eq.symm h
  | retention => exact Eq.symm h

theorem Keeps.trans {a : OptionReader} {start next last : Reading} (h : a.Keeps start next)
    (h' : a.Keeps next last) : a.Keeps start last := by
  cases a with
  | planner => exact trivial
  | limits => exact Eq.trans h' h
  | retention => exact Eq.trans h' h

/-- What a reader finds is there in the end if nobody else changes it. -/
theorem Finds.keep {a : OptionReader} {start next last : Reading} (h : a.Finds start next)
    (h' : a.Keeps next last) : a.Finds start last := by
  cases a with
  | planner => exact trivial
  | limits =>
    obtain ⟨left, h⟩ := h
    exact ⟨left, by rw [h, h']⟩
  | retention =>
    obtain ⟨left, h⟩ := h
    exact ⟨left, by rw [h, h']⟩

/-- **One reader that succeeds** has read what it finds and has changed nothing else, and its keys
are out of the options. -/
theorem of_read_ok {a : OptionReader} {start next : Reading} (h : a.read start = .ok next) :
    a.Finds start next ∧ (∀ b, b ≠ a → b.Keeps start next) ∧
      next.options = start.options.without a.keys := by
  cases a with
  | planner =>
    cases h
    refine ⟨trivial, fun b hb => ?_, Table.erase_eq_without ..⟩
    cases b with
    | planner => exact absurd rfl hb
    | limits => rfl
    | retention => rfl
  | limits =>
    simp only [read] at h
    split at h
    · cases h
    · rename_i hx
      cases h
      refine ⟨⟨_, hx⟩, fun b hb => ?_, (Limits.of_override_ok LimitKey.all_nodup hx).1⟩
      cases b with
      | planner => exact trivial
      | limits => exact absurd rfl hb
      | retention => rfl
  | retention =>
    simp only [read] at h
    split at h
    · cases h
    · rename_i hx
      cases h
      refine ⟨⟨_, hx⟩, fun b hb => ?_, Retention.of_extract_ok hx⟩
      cases b with
      | planner => exact trivial
      | limits => rfl
      | retention => exact absurd rfl hb

/-- A reader succeeds if there is something to find. -/
theorem exists_read {a : OptionReader} {start last : Reading} (h : a.Finds start last) :
    ∃ next, a.read start = .ok next ∧ a.Keeps next last := by
  cases a with
  | planner => exact ⟨_, rfl, trivial⟩
  | limits =>
    obtain ⟨left, h⟩ := h
    exact ⟨{ start with limits := last.limits, options := left }, by rw [read, h], rfl⟩
  | retention =>
    obtain ⟨left, h⟩ := h
    exact ⟨{ start with retention := last.retention, options := left }, by rw [read, h], rfl⟩

/-- **A reader finds the same** behind another one as in front of it. -/
theorem finds_congr {a b : OptionReader} {start next last : Reading} (hne : b ≠ a)
    (hkeeps : b.Keeps start next) (hoptions : next.options = start.options.without a.keys) :
    b.Finds next last ↔ b.Finds start last := by
  have hkeys := disjoint_keys hne
  cases b with
  | planner => exact Iff.rfl
  | limits =>
    have hapart : ∀ k ∈ LimitKey.all, k.name ∉ a.keys := fun k hk =>
      hkeys k.name (List.mem_map_of_mem hk)
    unfold Finds Limits.applyOverrides
    rw [hkeeps, hoptions, Limits.override_without _ _ hapart]
    rcases Limits.override LimitKey.all start.limits start.options with ⟨result, limits, left⟩
    simp
  | retention =>
    unfold Finds
    rw [hoptions, Retention.extract_without _ hkeys]
    rcases Retention.extract start.options with ⟨result, left⟩
    simp

/-- What readers in a row come to, without regard to their order. -/
structure AllRead (readers : List OptionReader) (start last : Reading) : Prop where
  found : ∀ a ∈ readers, a.Finds start last
  kept : ∀ a, a ∉ readers → a.Keeps start last
  options : last.options = start.options.without (readers.flatMap keys)

/-- **Readers one after the other**, none twice: each finds what it would find alone. -/
theorem readAll_eq_ok_iff :
    ∀ {readers : List OptionReader} {start last : Reading}, readers.Nodup →
      (readAll readers start = .ok last ↔ AllRead readers start last)
  | [], start, last, _ => by
    constructor
    · intro h
      cases h
      refine ⟨fun a ha => (by cases ha), fun a _ => ?_, (Table.without_nil _).symm⟩
      cases a <;> trivial
    · rintro ⟨-, hkept, hoptions⟩
      have hlast : last = start := Reading.ext (hkept .limits List.not_mem_nil)
        (hkept .retention List.not_mem_nil) (hoptions.trans (Table.without_nil _))
      rw [hlast, readAll]
  | a :: readers, start, last, h => by
    obtain ⟨ha, hreaders⟩ := List.nodup_cons.mp h
    constructor
    · intro hall
      unfold readAll at hall
      split at hall
      · cases hall
      · rename_i next hnext
        obtain ⟨hfound, hkeeps, hoptions⟩ := of_read_ok hnext
        have hrest := (readAll_eq_ok_iff hreaders).mp hall
        refine ⟨fun b hb => ?found, fun b hb => ?kept, ?options⟩
        case found =>
          by_cases hba : b = a
          · subst hba
            exact hfound.keep (hrest.kept b ha)
          · have hmem := (List.mem_cons.mp hb).resolve_left hba
            exact (finds_congr hba (hkeeps b hba) hoptions).mp (hrest.found b hmem)
        case kept =>
          obtain ⟨hba, hmem⟩ := not_or.mp (mt List.mem_cons.mpr hb)
          exact (hkeeps b hba).trans (hrest.kept b hmem)
        case options =>
          rw [hrest.options, hoptions, Table.without_without, List.flatMap_cons]
    · rintro ⟨hfound, hkept, hoptions⟩
      obtain ⟨next, hnext, hown⟩ := exists_read (hfound a (List.mem_cons_self ..))
      obtain ⟨-, hkeeps, hnextOptions⟩ := of_read_ok hnext
      unfold readAll
      rw [hnext]
      refine (readAll_eq_ok_iff hreaders).mpr ⟨fun b hb => ?found, fun b hb => ?kept, ?options⟩
      case found =>
        have hba : b ≠ a := fun he => ha (he ▸ hb)
        have hb' := hfound b (List.mem_cons_of_mem _ hb)
        exact (finds_congr hba (hkeeps b hba) hnextOptions).mpr hb'
      case kept =>
        by_cases hba : b = a
        · subst hba
          exact hown
        · have hmem : b ∉ a :: readers := by simp [hba, hb]
          exact (hkeeps b hba).symm.trans (hkept b hmem)
      case options =>
        rw [hoptions, hnextOptions, Table.without_without, List.flatMap_cons]

end OptionReader

/-! ## 4. Taking the four options out -/

namespace Retention

/-- What the options tell of a flag: without an option it is false. -/
def Tells (options : Table String) (key : String) (b : Bool) : Prop :=
  (options.get? key = none ∧ b = false) ∨
    ∃ raw, options.get? key = some raw ∧ Spells raw.toList b

/-- What was read is what the options tell.  A path is the text of its option, and a text with
nothing but blanks gives none. -/
structure ToldBy (r : Retention) (options : Table String) : Prop where
  multiQuery : Tells options multiQueryKey r.multiQuery
  load : Tells options loadKey r.load
  store : Tells options storeKey r.store
  path : ∀ p, r.path = some p ↔
    options.get? pathKey = some p.text ∧ ∃ c ∈ p.text.toList, Text.isBlank c = false

theorem blank_eq_false_iff {s : List Char} :
    Text.blank s = false ↔ ∃ c ∈ s, Text.isBlank c = false := by
  rw [Text.blank, List.isEmpty_eq_false_iff, ne_eq, Text.trim_eq_nil_iff]
  simp

theorem readFlag_eq_ok_iff_tells {key : String} {options : Table String} {b : Bool} :
    readFlag key options = .ok b ↔ Tells options key b := by
  simp only [readFlag_eq_ok_iff, flag?_eq_some_iff_spells, Tells]

/-- A flag can be read exactly if it is missing or spells something. -/
theorem exists_readFlag_iff {key : String} {options : Table String} :
    (∃ b, readFlag key options = .ok b) ↔
      ∀ raw, options.get? key = some raw → ∃ b, Spells raw.toList b := by
  simp only [readFlag_eq_ok_iff_tells, Tells]
  cases options.get? key <;> simp

theorem toldBy_of_extract {options rest : Table String} {r : Retention}
    (h : extract options = (.ok r, rest)) : r.ToldBy options := by
  cases extracts_of_eq h with
  | read hm hl hs =>
    refine ⟨readFlag_eq_ok_iff_tells.mp hm, readFlag_eq_ok_iff_tells.mp hl,
      readFlag_eq_ok_iff_tells.mp hs, fun p => ?_⟩
    rw [pathOf?_eq_some_iff, blank_eq_false_iff]

/-- **The four options are read** exactly if every flag among them spells something. -/
theorem exists_extract_iff (options : Table String) :
    (∃ r rest, extract options = (.ok r, rest)) ↔
      ∀ key ∈ flagKeys, ∀ raw, options.get? key = some raw → ∃ b, Spells raw.toList b := by
  simp only [exists_extract_ok_iff, exists_readFlag_iff]

/-- **Where they are not**, a first flag does not spell anything. -/
theorem of_extract_error {options rest : Table String} {e : ResolutionError}
    (h : extract options = (.error e, rest)) :
    ∃ earlier key later raw, flagKeys = earlier ++ key :: later ∧
      (∀ j ∈ earlier, ∀ raw, options.get? j = some raw → ∃ b, Spells raw.toList b) ∧
      options.get? key = some raw ∧ (¬ ∃ b, Spells raw.toList b) ∧
      e = .invalidOptionValue key raw ∧ rest = options.without (earlier ++ [key]) := by
  cases extracts_of_eq h with
  | @refused earlier later key e hkeys hearlier hbad =>
    obtain ⟨raw, hraw, hflag, rfl⟩ := readFlag_eq_error_iff.mp hbad
    refine ⟨earlier, key, later, raw, hkeys, fun j hj => ?_, hraw, ?_, rfl, rfl⟩
    · exact exists_readFlag_iff.mp (hearlier j hj)
    · rintro ⟨b, hb⟩
      rw [flag?_eq_some_iff_spells.mpr hb] at hflag
      cases hflag

/-- Behind a flag come others than it and the ones before it. -/
theorem not_mem_of_later {earlier later : List String} {key j : String}
    (hkeys : flagKeys = earlier ++ key :: later) (hj : j ∈ later ++ [pathKey]) :
    j ∉ earlier ++ [key] := by
  have hnodup : (earlier ++ [key] ++ (later ++ [pathKey])).Nodup := by
    have hall : earlier ++ [key] ++ (later ++ [pathKey]) = flagKeys ++ [pathKey] := by
      simp [hkeys]
    rw [hall]
    decide
  exact fun hj' => (List.nodup_append.mp hnodup).2.2 j hj' j hj rfl

/-- **Two readers in either order**: the options about keeping, and limits that are overridden. -/
theorem extract_override_comm {options rest left : Table String} {r : Retention} {l l' : Limits}
    (hx : extract options = (.ok r, rest)) (hl : l.applyOverrides options = (.ok (), l', left)) :
    ∃ both, extract left = (.ok r, both) ∧ l.applyOverrides rest = (.ok (), l', both) := by
  obtain rfl := of_extract_ok hx
  obtain ⟨rfl, -, -⟩ := Limits.of_override_ok LimitKey.all_nodup hl
  refine ⟨(options.without keys).without (LimitKey.all.map LimitKey.name), ?_, ?_⟩
  · rw [extract_without options (by decide), hx]
  · unfold Limits.applyOverrides at hl ⊢
    rw [Limits.override_without l options (by decide), hl, Table.without_comm]

/-- **The four options are taken out in order, up to the first flag that cannot be read.**
* Three flags come first, in a fixed order, and the path comes last.
* All four are read exactly if every flag that is there spells a truth value, between blanks and in
  letters of either case.
* Then each flag is what its option spells, or false without an option, the path is the text of its
  option unless this is missing or blank, and the options are those under other keys.
* Otherwise the error tells the first flag in the order that spells nothing, and its option as it
  was.  This option and those of the flags before it are gone; the later flags, the path and all
  other options are there.
* If they are read, they are read just the same where the planner option has been taken out before,
  or where limits have been overridden; and these are overridden just the same behind them.
* So in any order of the three: all succeed exactly if each does on the given options, and then they
  read what each reads there, and leave the options that are not reserved. -/
theorem extracted_in_order (options : Table String) :
    flagKeys = ["multi_query_planning_enabled", "load_planner_data", "store_planner_data"] ∧
    keys = flagKeys ++ ["planner_data_path"] ∧
    ((∃ r rest, extract options = (.ok r, rest)) ↔
      ∀ key ∈ flagKeys, ∀ raw, options.get? key = some raw → ∃ b, Spells raw.toList b) ∧
    (∀ r rest, extract options = (.ok r, rest) →
      r.ToldBy options ∧ ∀ key, rest.get? key = if key ∈ keys then none else options.get? key) ∧
    (∀ e rest, extract options = (.error e, rest) →
      ∃ earlier key later raw, flagKeys = earlier ++ key :: later ∧
        (∀ j ∈ earlier, ∀ raw, options.get? j = some raw → ∃ b, Spells raw.toList b) ∧
        options.get? key = some raw ∧ (¬ ∃ b, Spells raw.toList b) ∧
        e = .invalidOptionValue key raw ∧
        (∀ j, rest.get? j = if j ∈ earlier ++ [key] then none else options.get? j) ∧
        ∀ j ∈ later ++ ["planner_data_path"], rest.get? j = options.get? j) ∧
    (∀ r rest, extract options = (.ok r, rest) →
      extract (options.erase "type") = (.ok r, rest.erase "type") ∧
      ∀ (l l' : Limits) left, l.applyOverrides options = (.ok (), l', left) →
        ∃ both, extract left = (.ok r, both) ∧ l.applyOverrides rest = (.ok (), l', both)) ∧
    ∀ order : List OptionReader, order.Perm [.planner, .limits, .retention] →
      ∀ (l : Limits) (last : OptionReader.Reading),
        OptionReader.readAll order { limits := l, options := options } = .ok last ↔
          (∃ rest, extract options = (.ok last.retention, rest)) ∧
          (∃ left, l.applyOverrides options = (.ok (), last.limits, left)) ∧
          ∀ key, last.options.get? key =
            if key ∈ ContextSource.reservedKeys then none else options.get? key := by
  refine ⟨rfl, rfl, exists_extract_iff options, fun r rest h => ?done, fun e rest h => ?stopped,
    fun r rest h => ⟨?planner, fun l l' left => extract_override_comm h⟩,
    fun order horder l last => ?order⟩
  case done =>
    obtain rfl := of_extract_ok h
    exact ⟨toldBy_of_extract h, options.get?_without keys⟩
  case stopped =>
    obtain ⟨earlier, key, later, raw, hkeys, hearlier, hraw, hbad, rfl, rfl⟩ := of_extract_error h
    refine ⟨earlier, key, later, raw, hkeys, hearlier, hraw, hbad, rfl,
      options.get?_without _, fun j hj => ?_⟩
    rw [Table.get?_without, if_neg (not_mem_of_later hkeys hj)]
  case planner =>
    rw [Table.erase_eq_without, Table.erase_eq_without, extract_without options (by decide), h]
  case order =>
    have hmem : ∀ a, a ∈ order := fun a => horder.mem_iff.mpr (by cases a <;> decide)
    have hkeys : ∀ key, key ∈ order.flatMap OptionReader.keys ↔ key ∈ ContextSource.reservedKeys :=
      fun key => (horder.flatMap_right OptionReader.keys).mem_iff
    rw [OptionReader.readAll_eq_ok_iff (horder.nodup_iff.mpr (by decide))]
    constructor
    · rintro ⟨hfound, -, hoptions⟩
      refine ⟨hfound .retention (hmem _), hfound .limits (hmem _), fun key => ?_⟩
      simp only [hoptions, Table.get?_without, hkeys]
    · rintro ⟨hretention, hlimits, hoptions⟩
      refine ⟨fun a _ => ?_, fun a ha => absurd (hmem a) ha, Table.ext_get? fun key => ?_⟩
      · cases a with
        | planner => trivial
        | limits => exact hlimits
        | retention => exact hretention
      · simp only [hoptions, Table.get?_without, hkeys]

/-- A flag in capitals between blanks and a path with a blank in front are read, also where limits
are overridden before and the planner option goes last.  A flag that spells nothing ends this
between the others. -/
theorem extracted_in_order_shouted :
    let options : Table String := .ofList
      [("multi_query_planning_enabled", "\tTRUE "), ("store_planner_data", "0"),
        ("planner_data_path", " arm graph"), ("max_goal_samples", "7"), ("type", "tree"),
        ("range", "1")]
    let refused := options.insert "load_planner_data" "yes please"
    (∃ r rest, extract options = (.ok r, rest) ∧ Spells "\tTRUE ".toList true ∧
      r.path = some ⟨" arm graph"⟩ ∧ rest.get? "max_goal_samples" = some "7") ∧
    (∃ last, OptionReader.readAll [.limits, .retention, .planner]
        { limits := {}, options := options } = .ok last ∧
      last.limits.get .maxGoalSamples = .word 7 ∧ last.options.get? "range" = some "1") ∧
    ∃ rest, extract refused =
        (.error (.invalidOptionValue "load_planner_data" "yes please"), rest) ∧
      (¬ ∃ b, Spells "yes please".toList b) ∧ rest.get? "multi_query_planning_enabled" = none ∧
      rest.get? "store_planner_data" = some "0" := by
  intro options refused
  have hok : extract options = (.ok ⟨true, false, false, some ⟨" arm graph"⟩⟩, _) := rfl
  have herror : extract refused = (.error _, _) := rfl
  have hlimits : ({} : Limits).applyOverrides options = (.ok (), { maxGoalSamples := 7 }, _) := rfl
  obtain ⟨-, -, -, hdone, -, -, horders⟩ := extracted_in_order options
  obtain ⟨-, -, -, -, hstopped, -, -⟩ := extracted_in_order refused
  obtain ⟨htold, hrest⟩ := hdone _ _ hok
  refine ⟨⟨_, _, hok, ?spells, rfl, hrest "max_goal_samples"⟩, ?order, _, herror, ?refused, rfl,
    rfl⟩
  case spells =>
    rcases htold.multiQuery with ⟨hnone, -⟩ | ⟨raw, hraw, hspells⟩
    · cases hnone
    · obtain rfl : "\tTRUE " = raw := Option.some.inj hraw
      exact hspells
  case order =>
    refine ⟨⟨{ maxGoalSamples := 7 }, ⟨true, false, false, some ⟨" arm graph"⟩⟩,
      options.without ContextSource.reservedKeys⟩, ?_, rfl, rfl⟩
    exact (horders _ (by decide) {} _).mpr ⟨⟨_, hok⟩, ⟨_, hlimits⟩, options.get?_without _⟩
  case refused =>
    obtain ⟨-, key, -, raw, -, -, -, hbad, he, -, -⟩ := hstopped _ _ herror
    obtain ⟨-, rfl⟩ := ResolutionError.invalidOptionValue.inj he
    exact hbad

end Retention

end MotionContexts
