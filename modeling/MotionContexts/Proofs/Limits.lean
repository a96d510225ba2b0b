/-
# Limits that options override

Overrides are applied key by key, and what cannot be read ends them.  So there are two outcomes.
Either every option with the name of a limit could be read, or there is a FIRST one that could not:
the limits in front of it are overridden all the same, and its option is gone although no limit
was given its value.

What can be read is, but for one length, a whole number: blanks, perhaps a plus, digits, blanks.
How many digits there are does not matter, only what they write; and of what they write nothing is
lost, because a number that does not fit is not read at all.

Main statements:
* `Literal.word?_trim_eq_some_iff`, which texts are whole numbers;
* `Limits.overridden_in_order`, what overrides do, to the limits and to the options.
-/
import Mathlib.Data.List.Induction
import Mathlib.Data.Nat.Digits.Defs
import MotionContexts.Proofs.Json.RoundTrip
import MotionContexts.Proofs.Options

namespace MotionContexts

/-! ## 1. Whole numbers -/

namespace Digit

theorem ofChar?_eq_some_iff {c : Char} {d : Digit} : ofChar? c = some d ↔ c = d.toChar := by
  constructor
  · intro h
    unfold ofChar? at h
    split at h
    · rename_i hc
      obtain rfl := Option.some.inj h
      have hcode : 48 + (c.toNat - 48) = c.toNat := by omega
      rw [toChar, hcode, Char.ofNat_toNat]
    · cases h
  · rintro rfl
    exact ofChar?_toChar d

/-- A character is a digit exactly if it is the character of one. -/
theorem isDigit_iff {c : Char} : c.isDigit = true ↔ ∃ d : Digit, c = d.toChar := by
  constructor
  · intro h
    have hrange : 48 ≤ c.toNat ∧ c.toNat ≤ 57 := by
      simp only [Char.isDigit, Bool.and_eq_true, decide_eq_true_eq] at h
      exact ⟨h.1, h.2⟩
    refine ⟨⟨c.toNat - 48, by omega⟩, ofChar?_eq_some_iff.mp ?_⟩
    rw [ofChar?, dif_pos hrange]
  · rintro ⟨d, rfl⟩
    revert d
    decide

theorem exists_map_toChar : ∀ {s : List Char}, (∀ c ∈ s, c.isDigit = true) →
    ∃ ds : List Digit, s = ds.map toChar
  | [], _ => ⟨[], rfl⟩
  | c :: s, h => by
    obtain ⟨d, rfl⟩ := isDigit_iff.mp (h c (List.mem_cons_self ..))
    obtain ⟨ds, rfl⟩ := exists_map_toChar fun c hc => h c (List.mem_cons_of_mem _ hc)
    exact ⟨d :: ds, rfl⟩

/-- What is read as digits is their characters. -/
theorem eq_map_of_span : ∀ {s rest : List Char} {ds : List Digit},
    span s = (ds, rest) → s = ds.map toChar ++ rest
  | [], rest, ds, h => by
    cases h
    rfl
  | c :: s, rest, ds, h => by
    unfold span at h
    split at h
    · rename_i d hd
      cases h
      rw [List.map_cons, List.cons_append, ← eq_map_of_span (Prod.eta (span s)).symm,
        ofChar?_eq_some_iff.mp hd]
    · cases h
      rfl

/-- The number that digits write, as a sum of powers of ten. -/
theorem value_eq_ofDigits (ds : List Digit) :
    value ds = Nat.ofDigits 10 ((ds.map toChar).reverse.map fun c => c.toNat - '0'.toNat) := by
  have hval : ∀ d : Digit, d.toChar.toNat - '0'.toNat = d.val := by decide
  induction ds using List.reverseRecOn with
  | nil => rfl
  | append_singleton ds d ih =>
    rw [value_append, ih, List.map_append, List.reverse_append, List.map_append, List.map_singleton,
      List.reverse_singleton, List.map_singleton, List.singleton_append, Nat.ofDigits_cons, hval]
    omega

end Digit

namespace Literal

theorem digits?_eq_some_iff {s : List Char} {ds : List Digit} :
    digits? s = some ds ↔ ds ≠ [] ∧ s = ds.map Digit.toChar := by
  constructor
  · intro h
    unfold digits? at h
    split at h
    · rename_i d ds hspan
      cases h
      refine ⟨List.cons_ne_nil d ds, ?_⟩
      rw [← List.append_nil (List.map ..)]
      exact Digit.eq_map_of_span hspan
    · cases h
  · rintro ⟨hne, rfl⟩
    have hspan : Digit.span (ds.map Digit.toChar) = (ds, []) := by
      rw [← List.append_nil (List.map ..)]
      exact Digit.span_append ds fun c r h => by cases h
    obtain ⟨d, ds, rfl⟩ := List.exists_cons_of_ne_nil hne
    rw [digits?, hspan]

/-- The text writes the number: between blanks stand an optional plus and ASCII digits, at least
one, which write it. -/
def Writes (raw : List Char) (n : Nat) : Prop :=
  ∃ front plus digits back, raw = front ++ (plus ++ digits) ++ back ∧
    (∀ c ∈ front, Text.isBlank c = true) ∧ (plus = [] ∨ plus = ['+']) ∧ digits ≠ [] ∧
    (∀ c ∈ digits, c.isDigit = true) ∧ (∀ c ∈ back, Text.isBlank c = true) ∧
    Nat.ofDigits 10 (digits.reverse.map fun c => c.toNat - '0'.toNat) = n

/-- The text without its plus, and the plus. -/
theorem exists_plus (s : List Char) :
    ∃ plus, s = plus ++ dropPlus s ∧ (plus = [] ∨ plus = ['+']) := by
  unfold dropPlus
  split
  · exact ⟨['+'], rfl, .inr rfl⟩
  · exact ⟨[], rfl, .inl rfl⟩

theorem dropPlus_append {plus digits : List Char} (hplus : plus = [] ∨ plus = ['+'])
    (hdigits : ∀ c ∈ digits, c.isDigit = true) : dropPlus (plus ++ digits) = digits := by
  rcases hplus with rfl | rfl
  · rw [List.nil_append]
    unfold dropPlus
    split
    · -- a plus is no digit
      exact absurd (hdigits '+' (List.mem_cons_self ..)) (by decide)
    · rfl
  · rfl

theorem isBlank_of_isDigit {c : Char} (h : c.isDigit = true) : Text.isBlank c = false := by
  obtain ⟨d, rfl⟩ := Digit.isDigit_iff.mp h
  revert d
  decide

/-- **What is read as a whole number**, blanks around it aside, writes that number; and every text
that writes a number below `2 ^ 32` is read as it. -/
theorem word?_trim_eq_some_iff {raw : List Char} {w : UInt32} :
    word? (Text.trim raw) = some w ↔ Writes raw w.toNat := by
  constructor
  · intro h
    unfold word? at h
    split at h
    · rename_i ds hds
      split at h
      · rename_i hfits
        obtain rfl := Option.some.inj h
        obtain ⟨hne, hdigits⟩ := digits?_eq_some_iff.mp hds
        obtain ⟨front, back, hraw, hfront, hback⟩ := Text.exists_padding raw
        obtain ⟨plus, hplus, hsign⟩ := exists_plus (Text.trim raw)
        rw [hdigits] at hplus
        refine ⟨front, plus, ds.map Digit.toChar, back, ?_, hfront, hsign, ?_, fun c hc => ?_,
          hback, ?_⟩
        · rw [← hplus]
          exact hraw
        · exact mt List.map_eq_nil_iff.mp hne
        · obtain ⟨d, -, rfl⟩ := List.mem_map.mp hc
          exact Digit.isDigit_iff.mpr ⟨d, rfl⟩
        · rw [UInt32.toNat_ofNat_of_lt' hfits, Digit.value_eq_ofDigits]
      · cases h
    · cases h
  · rintro ⟨front, plus, digits, back, rfl, hfront, hsign, hne, hdigits, hback, hvalue⟩
    have hsolid : ∀ c ∈ plus ++ digits, Text.isBlank c = false := by
      intro c hc
      rcases List.mem_append.mp hc with hc | hc
      · rcases hsign with rfl | rfl
        · cases hc
        · rw [List.mem_singleton.mp hc]
          decide
      · exact isBlank_of_isDigit (hdigits c hc)
    obtain ⟨ds, rfl⟩ := Digit.exists_map_toChar hdigits
    have hds : digits? (ds.map Digit.toChar) = some ds :=
      digits?_eq_some_iff.mpr ⟨mt List.map_eq_nil_iff.mpr hne, rfl⟩
    have hval : Digit.value ds = w.toNat := (Digit.value_eq_ofDigits ds).trans hvalue
    rw [Text.trim_padded hfront hsolid hback, word?, dropPlus_append hsign hdigits, hds]
    dsimp only
    rw [hval, if_pos w.toNat_lt, UInt32.ofNat_toNat]

end Literal

/-! ## 2. Values of limits -/

namespace LimitKey

/-- **A limit that is no length** is a whole number. -/
theorem read?_eq_some_iff {k : LimitKey} (hk : k ≠ .maxSolutionSegmentLength) {raw : String}
    {v : LimitValue} :
    k.read? raw = some v ↔ ∃ w : UInt32, v = .word w ∧ Literal.Writes raw.toList w.toNat := by
  have hword : k.read? raw = (Literal.word? (Text.trim raw.toList)).map .word := by
    cases k <;> first | rfl | exact absurd rfl hk
  rw [hword, Option.map_eq_some_iff]
  refine exists_congr fun w => ?_
  rw [Literal.word?_trim_eq_some_iff, and_comm, eq_comm (a := v)]

/-- And it can be read exactly if the number fits. -/
theorem exists_read?_iff {k : LimitKey} (hk : k ≠ .maxSolutionSegmentLength) {raw : String} :
    (∃ v, k.read? raw = some v) ↔ ∃ n < 2 ^ 32, Literal.Writes raw.toList n := by
  constructor
  · rintro ⟨v, hv⟩
    obtain ⟨w, -, hw⟩ := (read?_eq_some_iff hk).mp hv
    exact ⟨w.toNat, w.toNat_lt, hw⟩
  · rintro ⟨n, hn, hw⟩
    refine ⟨.word (UInt32.ofNat n), (read?_eq_some_iff hk).mpr ⟨_, rfl, ?_⟩⟩
    rw [UInt32.toNat_ofNat_of_lt' hn]
    exact hw

end LimitKey

/-! ## 3. Overrides -/

namespace Limits

/-- The limits behind overrides of some keys: a limit among them is what the option with its name
is read as, and every other one, and every one without an option, is what it was. -/
structure Overridden (keys : List LimitKey) (l : Limits) (options : Table String) (l' : Limits) :
    Prop where
  read : ∀ k ∈ keys, ∀ raw, options.get? k.name = some raw → k.read? raw = some (l'.get k)
  kept : ∀ k, k ∉ keys ∨ options.get? k.name = none → l'.get k = l.get k

theorem overridden_of_ok {ks : List LimitKey} {l l' : Limits} {options rest : Table String}
    (hnodup : ks.Nodup) (h : override ks l options = (.ok (), l', rest)) :
    Overridden ks l options l' := by
  obtain ⟨-, hkept, hread⟩ := of_override_ok hnodup h
  exact ⟨hread, hkept⟩

/-- **Overrides are applied in order, up to the first one that cannot be read.**
* The six keys have a fixed order.
* All overrides are applied exactly if every option with the name of a limit can be read.
* Then each limit with an option has the value that its option is read as, every other limit is
  what it was, and the options are those with other names.
* Otherwise the error tells the first key in the order whose option cannot be read, and this option
  as it was.  The keys in front of it are overridden; its own limit and the later ones are what they
  were.  Its option and those of the keys in front of it are gone, and the others are there.
* The five limits that are no length are read from blanks, an optional plus, ASCII digits and
  blanks, exactly if the digits write a number below `2 ^ 32`; and then they are this number.
* The length is read by what reads real numbers, blanks around it aside. -/
theorem overridden_in_order (l : Limits) (options : Table String) :
    LimitKey.all.map LimitKey.name =
      ["max_goal_samples", "max_state_sampling_attempts", "max_goal_sampling_attempts",
        "max_planning_threads", "max_solution_segment_length", "minimum_waypoint_count"] ∧
    ((l.applyOverrides options).1 = .ok () ↔
      ∀ (k : LimitKey) (raw : String), options.get? k.name = some raw →
        ∃ v, k.read? raw = some v) ∧
    (∀ l' rest, l.applyOverrides options = (.ok (), l', rest) →
      Overridden LimitKey.all l options l' ∧
      ∀ key, rest.get? key =
        if key ∈ LimitKey.all.map LimitKey.name then none else options.get? key) ∧
    (∀ e l' rest, l.applyOverrides options = (.error e, l', rest) →
      ∃ earlier k later raw, LimitKey.all = earlier ++ k :: later ∧
        (∀ j ∈ earlier, ∀ raw, options.get? j.name = some raw → ∃ v, j.read? raw = some v) ∧
        options.get? k.name = some raw ∧ k.read? raw = none ∧
        e = .invalidOptionValue k.name raw ∧
        Overridden earlier l options l' ∧
        ∀ key, rest.get? key =
          if key ∈ (earlier ++ [k]).map LimitKey.name then none else options.get? key) ∧
    (∀ k : LimitKey, k ≠ .maxSolutionSegmentLength → ∀ raw,
      ((∃ v, k.read? raw = some v) ↔ ∃ n < 2 ^ 32, Literal.Writes raw.toList n) ∧
      ∀ v, k.read? raw = some v ↔ ∃ w : UInt32, v = .word w ∧ Literal.Writes raw.toList w.toNat) ∧
    ∀ raw, LimitKey.maxSolutionSegmentLength.read? raw =
      (Literal.real? (Text.trim raw.toList)).map .length := by
  have hdone : ∀ l' rest, l.applyOverrides options = (.ok (), l', rest) →
      Overridden LimitKey.all l options l' ∧ ∀ key, rest.get? key =
        if key ∈ LimitKey.all.map LimitKey.name then none else options.get? key := by
    intro l' rest h
    obtain ⟨rfl, -, -⟩ := of_override_ok LimitKey.all_nodup h
    exact ⟨overridden_of_ok LimitKey.all_nodup h, options.get?_without _⟩
  have hstopped : ∀ e l' rest, l.applyOverrides options = (.error e, l', rest) →
      ∃ earlier k later raw, LimitKey.all = earlier ++ k :: later ∧
        (∀ j ∈ earlier, ∀ raw, options.get? j.name = some raw → ∃ v, j.read? raw = some v) ∧
        options.get? k.name = some raw ∧ k.read? raw = none ∧
        e = .invalidOptionValue k.name raw ∧ Overridden earlier l options l' ∧
        ∀ key, rest.get? key =
          if key ∈ (earlier ++ [k]).map LimitKey.name then none else options.get? key := by
    intro e l' rest h
    obtain ⟨earlier, k, later, raw, hall, hraw, hbad, rfl, hearlier, rfl⟩ :=
      of_override_error LimitKey.all_nodup h
    have hnodup : earlier.Nodup := by
      have hnodup := LimitKey.all_nodup
      rw [hall] at hnodup
      exact (List.nodup_append.mp hnodup).1
    have hover := overridden_of_ok hnodup hearlier
    exact ⟨earlier, k, later, raw, hall, fun j hj raw hj' => ⟨_, hover.read j hj raw hj'⟩, hraw,
      hbad, rfl, hover, options.get?_without _⟩
  refine ⟨rfl, ⟨fun hok k raw hraw => ?read, fun hread => ?ok⟩, hdone, hstopped,
    fun k hk raw => ⟨LimitKey.exists_read?_iff hk, fun v => LimitKey.read?_eq_some_iff hk⟩,
    fun raw => rfl⟩
  case read =>
    rcases h : l.applyOverrides options with ⟨result, l', rest⟩
    rw [h] at hok
    obtain rfl : result = .ok () := hok
    exact ⟨_, (hdone l' rest h).1.read k k.mem_all raw hraw⟩
  case ok =>
    rcases h : l.applyOverrides options with ⟨e | _, l', rest⟩
    · obtain ⟨-, k, -, raw, -, -, hraw, hbad, -⟩ := hstopped e l' rest h
      obtain ⟨v, hv⟩ := hread k raw hraw
      rw [hbad] at hv
      cases hv
    · rfl

/-- Overrides between blanks and with leading zeros are applied, but for the number of threads: it
is the least one that does not fit. -/
theorem overridden_in_order_overflow :
    let fitting : Table String := .ofList
      [("max_goal_samples", "\t+0007 "), ("minimum_waypoint_count", "3"), ("range", "1")]
    let options := fitting.insert "max_planning_threads" "4294967296"
    (∃ l' rest, ({} : Limits).applyOverrides fitting = (.ok (), l', rest) ∧
      LimitKey.maxGoalSamples.read? "\t+0007 " = some (l'.get .maxGoalSamples) ∧
      Literal.Writes "\t+0007 ".toList 7 ∧ rest.get? "range" = some "1") ∧
    ∃ l' rest, ({} : Limits).applyOverrides options =
        (.error (.invalidOptionValue "max_planning_threads" "4294967296"), l', rest) ∧
      (¬ ∃ n < 2 ^ 32, Literal.Writes "4294967296".toList n) ∧
      l'.get .maxGoalSamples = .word 7 ∧ l'.get .minimumWaypointCount = .word 2 ∧
      rest.get? "max_goal_samples" = none ∧ rest.get? "minimum_waypoint_count" = some "3" := by
  intro fitting options
  have hok : ({} : Limits).applyOverrides fitting = (.ok (), _, _) := rfl
  have herror : ({} : Limits).applyOverrides options = (.error _, _, _) := rfl
  obtain ⟨-, -, hdone, -, hword, -⟩ := overridden_in_order {} fitting
  obtain ⟨-, -, -, hstopped, -, -⟩ := overridden_in_order {} options
  refine ⟨⟨_, _, hok, ?read, ?writes, ?others⟩, _, _, herror, ?overflow, rfl, rfl, rfl, rfl⟩
  case read => exact (hdone _ _ hok).1.read .maxGoalSamples (by decide) _ rfl
  case writes =>
    obtain ⟨w, hw, hwrites⟩ := ((hword .maxGoalSamples (by decide) "\t+0007 ").2 (.word 7)).mp rfl
    cases hw
    exact hwrites
  case others => exact (hdone _ _ hok).2 "range"
  case overflow =>
    obtain ⟨-, k, -, raw, -, -, -, hbad, he, -, -⟩ := hstopped _ _ _ herror
    obtain ⟨hk, rfl⟩ := ResolutionError.invalidOptionValue.inj he
    obtain rfl : LimitKey.maxPlanningThreads = k := LimitKey.name_injective hk
    rw [← (hword .maxPlanningThreads (by decide) _).1]
    rintro ⟨v, hv⟩
    rw [hbad] at hv
    cases hv

end Limits

end MotionContexts
