/-
# Options that are taken out

The options of a configuration are for the planner, but three readers get at them first: one looks
for the planner identifier, one for the limits that are overridden, one for the four options about
keeping the planner.  Each TAKES OUT what it reads.  If none of them fails, what is left is the
table without their keys, whichever of these were there, and its order is the old one.

Overrides do not mix: every limit gets the value of the option with its own name, and keeps its
value if there is no such option.

Main statements:
* `Limits.of_override_ok`, the limits and the options behind overrides that can all be read;
* `Limits.of_override_error`, how overrides end at the first one that cannot;
* `Retention.extracts`, how the reading of the four options about keeping ends;
* `ContextSource.rest_eq_forwarded`, what is left for the planner.
-/
import MotionContexts.ContextCache

namespace MotionContexts

universe u

/-! ## 1. Tables without some keys -/

namespace Table

variable {α : Type u}

/-- The table without some keys. -/
def without (t : Table α) (keys : List String) : Table α :=
  ⟨t.entries.filter fun e => !keys.contains e.1, t.sorted.filter _⟩

theorem get?_without (t : Table α) (keys : List String) (k : String) :
    (t.without keys).get? k = if k ∈ keys then none else t.get? k := by
  refine (Entries.find_filter (fun j => !keys.contains j) k t.entries).trans ?_
  by_cases h : k ∈ keys <;> simp [h, get?]

/-- Keys that are taken out in front of others. -/
theorem without_erase (t : Table α) (k : String) (keys : List String) :
    (t.erase k).without keys = t.without (k :: keys) := by
  refine ext_get? fun j => ?_
  simp only [get?_without, get?_erase, List.mem_cons]
  by_cases hj : j = k <;> simp [hj]

theorem without_without (t : Table α) (keys more : List String) :
    (t.without keys).without more = t.without (keys ++ more) := by
  refine ext_get? fun j => ?_
  simp only [get?_without, List.mem_append]
  by_cases hj : j ∈ keys <;> simp [hj]

theorem without_comm (t : Table α) (keys more : List String) :
    (t.without keys).without more = (t.without more).without keys := by
  refine ext_get? fun j => ?_
  simp only [get?_without]
  split <;> split <;> rfl

theorem erase_eq_without (t : Table α) (k : String) : t.erase k = t.without [k] := by
  refine ext_get? fun j => ?_
  simp only [get?_without, get?_erase, List.mem_singleton]

/-- A key that is not there need not be taken out. -/
theorem erase_of_none {t : Table α} {k : String} (h : t.get? k = none) : t.erase k = t := by
  refine ext_get? fun j => ?_
  rw [get?_erase]
  by_cases hj : j = k <;> simp [hj, h]

theorem without_nil (t : Table α) : t.without [] = t := by
  refine ext_get? fun j => ?_
  simp only [get?_without, List.not_mem_nil, if_false]

/-- The entries that are left. -/
theorem mem_entries_without_iff (t : Table α) (keys : List String) (k : String) (v : α) :
    (k, v) ∈ (t.without keys).entries ↔ t.get? k = some v ∧ k ∉ keys := by
  rw [← get?_eq_some_iff, get?_without]
  by_cases hk : k ∈ keys <;> simp [hk]

end Table

/-! ## 2. Overridden limits -/

namespace LimitKey

/-- The value of an option as a value of the limit, blanks around it aside: a whole number, or a
length for the one limit that is a length. -/
def read? (k : LimitKey) (raw : String) : Option LimitValue :=
  match k with
  | .maxSolutionSegmentLength => (Literal.real? (Text.trim raw.toList)).map .length
  | _ => (Literal.word? (Text.trim raw.toList)).map .word

theorem name_injective {j k : LimitKey} (h : j.name = k.name) : j = k := by
  cases j <;> cases k <;> first | rfl | exact absurd h (by decide)

theorem all_nodup : all.Nodup := by decide

theorem mem_all (k : LimitKey) : k ∈ all := by
  cases k <;> decide

end LimitKey

namespace Limits

/-- One override changes its own limit, to the value that is read, and no other one. -/
theorem of_assign? {l l' : Limits} {k : LimitKey} {raw : String} (h : l.assign? k raw = some l') :
    k.read? raw = some (l'.get k) ∧ ∀ j, j ≠ k → l'.get j = l.get j := by
  unfold assign? at h
  cases k <;> obtain ⟨v, hv, rfl⟩ := Option.map_eq_some_iff.mp h <;>
    refine ⟨congrArg (Option.map _) hv, fun j hj => ?_⟩ <;>
    cases j <;> first | rfl | exact absurd rfl hj

/-- A limit is overridden exactly if its option can be read. -/
theorem assign?_eq_none_iff (l : Limits) (k : LimitKey) (raw : String) :
    l.assign? k raw = none ↔ k.read? raw = none := by
  unfold assign? LimitKey.read?
  cases k <;> exact Option.map_eq_none_iff.trans Option.map_eq_none_iff.symm

/-- The first override: its option is out of the options, and its limit is what that option reads
as, if it is there. -/
theorem of_override_cons {k : LimitKey} {ks : List LimitKey} {l l' : Limits}
    {options rest : Table String} (h : override (k :: ks) l options = (.ok (), l', rest)) :
    ∃ l₁, override ks l₁ (options.erase k.name) = (.ok (), l', rest) ∧
      (options.get? k.name = none → l₁ = l) ∧
      (∀ raw, options.get? k.name = some raw → k.read? raw = some (l₁.get k)) ∧
      ∀ j, j ≠ k → l₁.get j = l.get j := by
  unfold override at h
  split at h
  · rename_i hnone
    refine ⟨l, ?_, fun _ => rfl, fun raw hraw => ?_, fun _ _ => rfl⟩
    · rw [Table.erase_of_none hnone]
      exact h
    · rw [hnone] at hraw
      cases hraw
  · rename_i raw hraw
    split at h
    · rename_i l₁ hl₁
      obtain ⟨hown, hothers⟩ := of_assign? hl₁
      refine ⟨l₁, h, fun hnone => ?_, fun raw' hraw' => ?_, hothers⟩
      · rw [hraw] at hnone
        cases hnone
      · rw [hraw] at hraw'
        cases hraw'
        exact hown
    · cases h

/-- **Overrides that can all be read**: their keys are out of the options, each limit among them has
the value of its option, and the other limits are what they were. -/
theorem of_override_ok :
    ∀ {ks : List LimitKey} {l l' : Limits} {options rest : Table String}, ks.Nodup →
      override ks l options = (.ok (), l', rest) →
      rest = options.without (ks.map LimitKey.name) ∧
      (∀ k, k ∉ ks ∨ options.get? k.name = none → l'.get k = l.get k) ∧
      ∀ k ∈ ks, ∀ raw, options.get? k.name = some raw → k.read? raw = some (l'.get k)
  | [], l, l', options, rest, _, h => by
    cases h
    exact ⟨options.without_nil.symm, fun _ _ => rfl, fun k hk => by cases hk⟩
  | k :: ks, l, l', options, rest, hnodup, h => by
    obtain ⟨hk, hks⟩ := List.nodup_cons.mp hnodup
    obtain ⟨l₁, h, hnone, hown, hothers⟩ := of_override_cons h
    obtain ⟨hrest, hsame, hread⟩ := of_override_ok hks h
    -- the options of the other limits are still there
    have hget : ∀ j, j ≠ k → (options.erase k.name).get? j.name = options.get? j.name := by
      intro j hj
      rw [Table.get?_erase, if_neg fun he => hj (LimitKey.name_injective he)]
    refine ⟨?rest, fun j hj => ?same, fun j hj raw hraw => ?read⟩
    case rest => rw [hrest, Table.without_erase, List.map_cons]
    case same =>
      by_cases hjk : j = k
      · subst hjk
        rcases hj with hj | hj
        · exact absurd (List.mem_cons_self ..) hj
        · rw [hsame j (.inl hk), hnone hj]
      · rw [← hothers j hjk]
        refine hsame j (hj.imp (fun hmem hjs => hmem ?_) (hget j hjk).trans)
        exact List.mem_cons_of_mem _ hjs
    case read =>
      rcases List.mem_cons.mp hj with rfl | hjs
      · rw [hsame j (.inl hk)]
        exact hown raw hraw
      · have hne : j ≠ k := fun he => hk (he ▸ hjs)
        exact hread j hjs raw ((hget j hne).trans hraw)

/-- Overrides that end early end at a key whose option, as it is there behind the ones in front of
it, cannot be read. -/
theorem exists_last_override :
    ∀ {ks : List LimitKey} {l l' : Limits} {options rest : Table String} {e : ResolutionError},
      override ks l options = (.error e, l', rest) →
      ∃ earlier k later raw middle, ks = earlier ++ k :: later ∧
        override earlier l options = (.ok (), l', middle) ∧ middle.get? k.name = some raw ∧
        k.read? raw = none ∧ e = .invalidOptionValue k.name raw ∧ rest = middle.erase k.name
  | [], l, l', options, rest, e, h => by cases h
  | k :: ks, l, l', options, rest, e, h => by
    unfold override at h
    split at h
    · rename_i hnone
      obtain ⟨earlier, j, later, raw, middle, rfl, hearlier, hj⟩ := exists_last_override h
      refine ⟨k :: earlier, j, later, raw, middle, rfl, ?_, hj⟩
      rw [override, hnone]
      exact hearlier
    · rename_i raw hraw
      split at h
      · rename_i l₁ hl₁
        obtain ⟨earlier, j, later, raw', middle, rfl, hearlier, hj⟩ := exists_last_override h
        refine ⟨k :: earlier, j, later, raw', middle, rfl, ?_, hj⟩
        rw [override, hraw]
        dsimp only
        rw [hl₁]
        exact hearlier
      · rename_i hbad
        cases h
        exact ⟨[], k, ks, raw, options, rfl, rfl, hraw, (assign?_eq_none_iff l k raw).mp hbad,
          rfl, rfl⟩

/-- **Overrides that end early**: the keys in front of the one whose option cannot be read are
overridden, that option is out of the options as theirs are, and nothing else has changed. -/
theorem of_override_error {ks : List LimitKey} {l l' : Limits} {options rest : Table String}
    {e : ResolutionError} (hnodup : ks.Nodup)
    (h : override ks l options = (.error e, l', rest)) :
    ∃ earlier k later raw, ks = earlier ++ k :: later ∧ options.get? k.name = some raw ∧
      k.read? raw = none ∧ e = .invalidOptionValue k.name raw ∧
      override earlier l options = (.ok (), l', options.without (earlier.map LimitKey.name)) ∧
      rest = options.without ((earlier ++ [k]).map LimitKey.name) := by
  obtain ⟨earlier, k, later, raw, middle, rfl, hearlier, hraw, hbad, rfl, rfl⟩ :=
    exists_last_override h
  obtain ⟨hnodup, -, hapart⟩ := List.nodup_append.mp hnodup
  obtain ⟨rfl, -, -⟩ := of_override_ok hnodup hearlier
  -- the keys in front are other keys, so their names are other names
  have hname : k.name ∉ earlier.map LimitKey.name := by
    intro hk
    obtain ⟨j, hj, he⟩ := List.mem_map.mp hk
    exact hapart j hj k (List.mem_cons_self ..) (LimitKey.name_injective he)
  rw [Table.get?_without, if_neg hname] at hraw
  refine ⟨earlier, k, later, raw, rfl, hraw, hbad, rfl, hearlier, ?_⟩
  rw [Table.erase_eq_without, Table.without_without, List.map_append, List.map_singleton]

end Limits

/-! ## 3. Options about keeping the planner -/

namespace Retention

/-- The three flags, in the order in which they are read. -/
def flagKeys : List String := [multiQueryKey, loadKey, storeKey]

theorem forall_mem_flagKeys {p : String → Prop} :
    (∀ key ∈ flagKeys, p key) ↔ p multiQueryKey ∧ p loadKey ∧ p storeKey := by
  simp [flagKeys]

/-- What a look at the options reads of a flag. -/
def readFlag (key : String) (options : Table String) : Except ResolutionError Bool :=
  match options.get? key with
  | none => .ok false
  | some raw =>
    match flag? raw with
    | some b => .ok b
    | none => .error (.invalidOptionValue key raw)

theorem readFlag_eq_ok_iff {key : String} {options : Table String} {b : Bool} :
    readFlag key options = .ok b ↔
      (options.get? key = none ∧ b = false) ∨
      ∃ raw, options.get? key = some raw ∧ flag? raw = some b := by
  unfold readFlag
  cases options.get? key with
  | none => simp [eq_comm]
  | some raw => cases h : flag? raw <;> simp [h]

theorem readFlag_eq_error_iff {key : String} {options : Table String} {e : ResolutionError} :
    readFlag key options = .error e ↔
      ∃ raw, options.get? key = some raw ∧ flag? raw = none ∧ e = .invalidOptionValue key raw := by
  unfold readFlag
  cases options.get? key with
  | none => simp
  | some raw => cases h : flag? raw <;> simp [h, eq_comm]

/-- Options under other keys make no difference to a flag. -/
theorem readFlag_without {key : String} {taken : List String} (options : Table String)
    (hkey : key ∉ taken) : readFlag key (options.without taken) = readFlag key options := by
  unfold readFlag
  rw [Table.get?_without, if_neg hkey]

/-- **Taking a flag** is a look at it; and it is out of the options even if it cannot be read. -/
theorem takeFlag_eq (key : String) (options : Table String) :
    takeFlag key options = (readFlag key options, options.without [key]) := by
  unfold takeFlag readFlag
  rw [← Table.erase_eq_without]
  cases hraw : options.get? key with
  | none =>
    dsimp only
    rw [Table.erase_of_none hraw]
  | some raw =>
    dsimp only
    cases flag? raw <;> rfl

theorem pathOf?_eq_some_iff (raw : Option String) (path : Path) :
    pathOf? raw = some path ↔ raw = some path.text ∧ Text.blank path.text.toList = false := by
  unfold pathOf?
  cases raw with
  | none => simp
  | some s =>
    dsimp only
    constructor
    · intro h
      split at h
      · cases h
      · rename_i hblank
        cases h
        exact ⟨rfl, by simpa using hblank⟩
    · rintro ⟨hs, hblank⟩
      cases hs
      rw [hblank]
      rfl

/-- How the reading of the four options ends, told by looks at the options they are taken from. -/
inductive Extracts (options : Table String) :
    Except ResolutionError Retention × Table String → Prop where
  /-- Every flag can be read, and all four options are out. -/
  | read {multiQuery load store : Bool}
      (hmultiQuery : readFlag multiQueryKey options = .ok multiQuery)
      (hload : readFlag loadKey options = .ok load)
      (hstore : readFlag storeKey options = .ok store) :
      Extracts options
        (.ok { multiQuery, load, store, path := pathOf? (options.get? pathKey) },
          options.without keys)
  /-- A flag cannot be read.  The flags before it can, and are out with it. -/
  | refused {earlier later : List String} {key : String} {e : ResolutionError}
      (hkeys : flagKeys = earlier ++ key :: later)
      (hearlier : ∀ j ∈ earlier, ∃ b, readFlag j options = .ok b)
      (hbad : readFlag key options = .error e) :
      Extracts options (.error e, options.without (earlier ++ [key]))

/-- **Each of the four options is read as the given options have it**, though it is looked for only
where the ones before it are taken out. -/
theorem extracts (options : Table String) : Extracts options (extract options) := by
  unfold extract
  rw [takeFlag_eq]
  rcases hm : readFlag multiQueryKey options with e | multiQuery
  · have hkeys : flagKeys = [] ++ multiQueryKey :: [loadKey, storeKey] := rfl
    exact .refused hkeys (fun j hj => by cases hj) hm
  dsimp only
  rw [takeFlag_eq, readFlag_without options (by decide), Table.without_without]
  rcases hl : readFlag loadKey options with e | load
  · have hkeys : flagKeys = [multiQueryKey] ++ loadKey :: [storeKey] := rfl
    refine .refused hkeys (fun j hj => ?_) hl
    rw [List.mem_singleton.mp hj]
    exact ⟨multiQuery, hm⟩
  dsimp only
  rw [takeFlag_eq, readFlag_without options (by decide), Table.without_without]
  rcases hs : readFlag storeKey options with e | store
  · have hkeys : flagKeys = [multiQueryKey, loadKey] ++ storeKey :: [] := rfl
    refine .refused hkeys (fun j hj => ?_) hs
    rcases List.mem_cons.mp hj with rfl | hj
    · exact ⟨multiQuery, hm⟩
    · rw [List.mem_singleton.mp hj]
      exact ⟨load, hl⟩
  dsimp only
  rw [Table.get?_without, if_neg (by decide), Table.erase_eq_without, Table.without_without]
  exact .read hm hl hs

theorem extracts_of_eq {options : Table String}
    {out : Except ResolutionError Retention × Table String} (h : extract options = out) :
    Extracts options out := h ▸ extracts options

/-- **The four options can be read** exactly if each flag can. -/
theorem exists_extract_ok_iff (options : Table String) :
    (∃ r rest, extract options = (.ok r, rest)) ↔
      ∀ key ∈ flagKeys, ∃ b, readFlag key options = .ok b := by
  rcases hout : extract options with ⟨result, rest⟩
  cases extracts_of_eq hout with
  | read hm hl hs =>
    have hread : ∀ key ∈ flagKeys, ∃ b, readFlag key options = .ok b :=
      forall_mem_flagKeys.mpr ⟨⟨_, hm⟩, ⟨_, hl⟩, ⟨_, hs⟩⟩
    exact ⟨fun _ => hread, fun _ => ⟨_, _, rfl⟩⟩
  | @refused earlier later key e hkeys hearlier hbad =>
    refine ⟨fun ⟨r, rest, h⟩ => (by cases h), fun hread => ?_⟩
    have hkey : key ∈ flagKeys := hkeys ▸ List.mem_append_right _ (List.mem_cons_self ..)
    obtain ⟨b, hb⟩ := hread key hkey
    rw [hbad] at hb
    cases hb

/-- **Where the four options can be read**, they are out of the options. -/
theorem of_extract_ok {options rest : Table String} {r : Retention}
    (h : extract options = (.ok r, rest)) : rest = options.without keys := by
  cases extracts_of_eq h
  rfl

end Retention

/-! ## 4. What is left for the planner -/

namespace ContextSource

/-- The option that names the planner is no limit. -/
theorem get?_erase_plannerOption (options : Table String) (k : LimitKey) :
    (options.erase plannerOption).get? k.name = options.get? k.name := by
  have hne : ¬ k.name = plannerOption := by cases k <;> decide
  rw [Table.get?_erase, if_neg hne]

/-- The options that are not for the planner. -/
def reservedKeys : List String :=
  plannerOption :: LimitKey.all.map LimitKey.name ++ Retention.keys

example : reservedKeys =
    ["type", "max_goal_samples", "max_state_sampling_attempts", "max_goal_sampling_attempts",
      "max_planning_threads", "max_solution_segment_length", "minimum_waypoint_count",
      "multi_query_planning_enabled", "load_planner_data", "store_planner_data",
      "planner_data_path"] := rfl

/-- The options that are for the planner. -/
def forwarded (s : ContextSource) : Table String := s.configuration.options.without reservedKeys

/-- **What is left for the planner**, if all three readers succeed. -/
theorem rest_eq_forwarded {s : ContextSource} {limits : Limits} {options rest : Table String}
    {r : Retention}
    (hl : s.limits.applyOverrides (s.configuration.options.erase plannerOption) =
      (.ok (), limits, options))
    (hx : Retention.extract options = (.ok r, rest)) : rest = s.forwarded := by
  obtain ⟨hoptions, -, -⟩ := Limits.of_override_ok LimitKey.all_nodup hl
  rw [Retention.of_extract_ok hx, hoptions, Table.without_erase, Table.without_without]
  rfl

/-- The limits that overrides lead to, read off the options of the configuration. -/
theorem get_of_applyOverrides {s : ContextSource} {limits : Limits} {options : Table String}
    (hl : s.limits.applyOverrides (s.configuration.options.erase plannerOption) =
      (.ok (), limits, options)) (k : LimitKey) :
    (s.configuration.options.get? k.name = none → limits.get k = s.limits.get k) ∧
    ∀ raw, s.configuration.options.get? k.name = some raw → k.read? raw = some (limits.get k) := by
  obtain ⟨-, hsame, hread⟩ := Limits.of_override_ok LimitKey.all_nodup hl
  have hget := get?_erase_plannerOption s.configuration.options k
  refine ⟨fun hnone => hsame k (.inr (hget.trans hnone)), fun raw hraw => ?_⟩
  exact hread k (LimitKey.mem_all k) raw (hget.trans hraw)

end ContextSource

end MotionContexts
