/-
# A document is applied as a whole or not at all

A document LISTS its configurations, and a list may have a name twice.  The table is made entry by
entry, and the first entry whose name is taken already ends the matter: no table is made, and so
nothing of the document is applied, neither its limits nor its default planner.

A table that is made holds every entry of the list under its name and nothing else.  Applying the
document then replaces limits, default planner and configurations, and drops the cached contexts.
Planners that are kept stay, and what is registered stays.

Main statement: `applied_as_a_whole`, for every state of a manager.
-/
import MotionContexts.Proofs.Manager.Session

namespace MotionContexts

universe u

/-! ## 1. The table of a list -/

namespace ManagerDocument

/-- The entry is the first one whose name occurred before. -/
def FirstRepeated (l : List Configuration) (c : Configuration) : Prop :=
  ∃ before behind, l = before ++ c :: behind ∧ (before.map (·.name)).Nodup ∧
    c.name ∈ before.map (·.name)

/-- A list with an entry that is repeated repeats a name. -/
theorem FirstRepeated.not_nodup {l : List Configuration} {c : Configuration}
    (h : FirstRepeated l c) : ¬ (l.map (·.name)).Nodup := by
  obtain ⟨before, behind, rfl, -, hc⟩ := h
  intro hnodup
  rw [List.map_append, List.map_cons, List.nodup_append] at hnodup
  exact hnodup.2.2 c.name hc c.name (List.mem_cons_self ..) rfl

/-- **What a table that is made answers**: the entries of the list, each under its name, and what
was in the table before.  No name was repeated, and none was taken. -/
theorem of_extend_ok :
    ∀ {l : List Configuration} {t cs : Configurations}, extend t l = .ok cs →
      (l.map (·.name)).Nodup ∧ (∀ c ∈ l, t.get? c.name = none) ∧
      ∀ name c, cs.get? name = some c ↔ (c ∈ l ∧ c.name = name) ∨ t.get? name = some c
  | [], _, _, h => by
    cases h
    simp
  | c :: l, t, cs, h => by
    unfold extend at h
    split at h
    · cases h
    · rename_i hc
      have hnone : t.get? c.name = none := (t.contains_eq_false_iff _).mp (by simpa using hc)
      obtain ⟨hnodup, hfree, hget⟩ := of_extend_ok h
      -- an entry behind `c` finds its name free although `c` is in the table already
      have hother : ∀ d ∈ l, ¬ d.name = c.name ∧ t.get? d.name = none := by
        intro d hd
        have hnext := hfree d hd
        rw [Table.get?_insert] at hnext
        split at hnext
        · cases hnext
        · exact ⟨‹_›, hnext⟩
      have hnew : c.name ∉ l.map (·.name) := by
        intro hmem
        obtain ⟨d, hd, hname⟩ := List.mem_map.mp hmem
        exact (hother d hd).1 hname
      refine ⟨List.nodup_cons.mpr ⟨hnew, hnodup⟩, fun d hd => ?free, fun name d => ?get⟩
      case free =>
        rcases List.mem_cons.mp hd with rfl | hd
        · exact hnone
        · exact (hother d hd).2
      case get =>
        rw [hget, Table.get?_insert, List.mem_cons]
        by_cases hname : name = c.name
        · subst hname
          rw [if_pos rfl, hnone, Option.some_inj]
          constructor
          · rintro (⟨hd, hdn⟩ | rfl)
            · exact .inl ⟨.inr hd, hdn⟩
            · exact .inl ⟨.inl rfl, rfl⟩
          · rintro (⟨rfl | hd, hdn⟩ | hd)
            · exact .inr rfl
            · exact .inl ⟨hd, hdn⟩
            · cases hd
        · rw [if_neg hname]
          constructor
          · rintro (⟨hd, hdn⟩ | hd)
            · exact .inl ⟨.inr hd, hdn⟩
            · exact .inr hd
          · rintro (⟨rfl | hd, hdn⟩ | hd)
            · exact absurd hdn.symm hname
            · exact .inl ⟨hd, hdn⟩
            · exact .inr hd

/-- **A table that is not made** was made up to an entry whose name is taken. -/
theorem of_extend_error :
    ∀ {l : List Configuration} {t : Configurations} {e : DocumentError}, extend t l = .error e →
      ∃ before c behind cs, l = before ++ c :: behind ∧ extend t before = .ok cs ∧
        cs.get? c.name ≠ none ∧ e = .duplicateConfiguration c.name
  | [], _, _, h => by cases h
  | c :: l, t, e, h => by
    unfold extend at h
    split at h
    · rename_i hc
      cases h
      refine ⟨[], c, l, t, rfl, rfl, fun hnone => ?_, rfl⟩
      rw [(t.contains_eq_false_iff _).mpr hnone] at hc
      cases hc
    · rename_i hc
      obtain ⟨before, d, behind, cs, rfl, hbefore, hd, he⟩ := of_extend_error h
      refine ⟨c :: before, d, behind, cs, rfl, ?_, hd, he⟩
      rw [extend, if_neg hc]
      exact hbefore

/-- A document that cannot be applied repeats a name, and the error says which one comes first. -/
theorem of_table_error {d : ManagerDocument} {e : DocumentError} (h : d.table = .error e) :
    ∃ c, FirstRepeated d.configurations c ∧ e = .duplicateConfiguration c.name := by
  obtain ⟨before, c, behind, cs, hl, hbefore, hc, he⟩ := of_extend_error h
  obtain ⟨hnodup, -, hget⟩ := of_extend_ok hbefore
  refine ⟨c, ⟨before, behind, hl, hnodup, ?_⟩, he⟩
  obtain ⟨d, hd⟩ := Option.ne_none_iff_exists'.mp hc
  rcases (hget _ _).mp hd with ⟨hmem, hname⟩ | hempty
  · exact List.mem_map.mpr ⟨d, hmem, hname⟩
  · cases hempty

/-- A table that is made answers each entry of the list under its name, and nothing else. -/
theorem get?_table {d : ManagerDocument} {cs : Configurations} (h : d.table = .ok cs)
    (name : String) (c : Configuration) : cs.get? name = some c ↔ c ∈ d.configurations ∧ c.name = name := by
  obtain ⟨-, -, hget⟩ := of_extend_ok h
  rw [hget, Table.get?_empty]
  simp

theorem nodup_of_table {d : ManagerDocument} {cs : Configurations} (h : d.table = .ok cs) :
    (d.configurations.map (·.name)).Nodup := (of_extend_ok h).1

/-- A name is in the table exactly if it is one of the list. -/
theorem mem_keys_table {d : ManagerDocument} {cs : Configurations} (h : d.table = .ok cs)
    (name : String) : name ∈ cs.keys ↔ name ∈ d.configurations.map (·.name) := by
  rw [← Table.contains_iff_mem_keys, Table.contains, Option.isSome_iff_exists, List.mem_map]
  exact exists_congr fun c => get?_table h name c

/-- The names of the table are those of the list, put in order. -/
theorem keys_table_perm {d : ManagerDocument} {cs : Configurations} (h : d.table = .ok cs) :
    cs.keys.Perm (d.configurations.map (·.name)) :=
  (List.perm_ext_iff_of_nodup cs.keys_nodup (nodup_of_table h)).mpr (mem_keys_table h)

/-- **Only a repeated name** stands against applying a document. -/
theorem table_error_iff (d : ManagerDocument) :
    (∃ e, d.table = .error e) ↔ ¬ (d.configurations.map (·.name)).Nodup := by
  constructor
  · rintro ⟨e, he⟩
    obtain ⟨c, hc, -⟩ := of_table_error he
    exact hc.not_nodup
  · intro hrepeated
    cases h : d.table with
    | error e => exact ⟨e, rfl⟩
    | ok cs => exact absurd (nodup_of_table h) hrepeated

end ManagerDocument

/-! ## 2. The theorem -/

namespace Manager

variable {σ : Type u}

theorem configure_error_iff (m : Manager σ) (d : ManagerDocument) (e : DocumentError) :
    (m.configure d).1 = .error e ↔ d.table = .error e := by
  unfold configure
  cases d.table <;> simp

/-- **A document is applied as a whole or not at all.**  In every state of a manager:

1. applying a document fails exactly if two of its configurations share a name;
2. then the error names the first entry of the list whose name occurred before, and the manager that
   is left, like the workspace, is exactly what it was;
3. otherwise limits and default planner are those of the document, even if it has no default; a
   look-up of any name answers the entry of the list with that name, or that there is none; the
   names are those of the list, in ascending order; no context is cached; and the pool of kept
   planners, the registered families, the representations and the workspace are what they were. -/
theorem applied_as_a_whole (s : Session σ) (d : ManagerDocument) :
    ((∃ e, (s.manager.configure d).1 = .error e) ↔ ¬ (d.configurations.map (·.name)).Nodup) ∧
    (∀ e m, s.manager.configure d = (.error e, m) →
      (∃ c, ManagerDocument.FirstRepeated d.configurations c ∧
        e = .duplicateConfiguration c.name) ∧
      m = s.manager ∧ (s.perform (.apply d)).2 = s) ∧
    (∀ m, s.manager.configure d = (.ok (), m) →
      (s.perform (.apply d)).2 = ⟨m, s.workspace⟩ ∧
      m.limits = d.limits ∧ m.planners.default = d.defaultPlanner ∧
      (∀ name c, m.configurations.find name = .ok c ↔ c ∈ d.configurations ∧ c.name = name) ∧
      (∀ name, m.configurations.find name = .error (.unknownConfiguration name) ↔
        name ∉ d.configurations.map (·.name)) ∧
      m.configurations.keys.Pairwise (· < ·) ∧
      m.configurations.keys.Perm (d.configurations.map (·.name)) ∧
      (∀ k, m.cache.get? k = none) ∧ m.cache.size = 0 ∧
      m.cache.pool = s.manager.cache.pool ∧ m.planners.families = s.manager.planners.families ∧
      m.representations = s.manager.representations) := by
  refine ⟨?fails, fun e m he => ?refused, fun m hm => ?applied⟩
  case fails =>
    rw [← ManagerDocument.table_error_iff]
    exact exists_congr fun e => s.manager.configure_error_iff d e
  case refused =>
    have hperform : (s.perform (.apply d)).2 = ⟨m, s.workspace⟩ := by rw [Session.perform, he]
    cases Session.configures_of_eq he with
    | refused htable => exact ⟨ManagerDocument.of_table_error htable, rfl, hperform⟩
  case applied =>
    have hperform : (s.perform (.apply d)).2 = ⟨m, s.workspace⟩ := by rw [Session.perform, hm]
    cases Session.configures_of_eq hm with
    | @applied cs hcs =>
      refine ⟨hperform, rfl, rfl, fun name c => ?found, fun name => ?missing, cs.keys_pairwise,
        ManagerDocument.keys_table_perm hcs, fun k => rfl, rfl, rfl, rfl, rfl⟩
      case found =>
        rw [Configurations.find_eq_ok_iff]
        exact ManagerDocument.get?_table hcs name c
      case missing =>
        rw [Configurations.find_eq_error_iff, ← ManagerDocument.mem_keys_table hcs,
          ← Table.contains_iff_mem_keys, Bool.not_eq_true, Table.contains_eq_false_iff]
        rfl

/-! ## 3. A sample -/

namespace Session

open MotionContexts.Sample

/-- A document with limits of its own, and with configurations of these names. -/
def documentOf (names : List String) : ManagerDocument where
  limits := { maxPlanningThreads := 1 }
  configurations := names.map fun name => ⟨name, "arm", ∅⟩

theorem applied_as_a_whole_posedRun :
    let s := (new .memory { contents := ∅ }).run posedRun
    (∃ m, s.manager.configure (documentOf ["leg", "arm[rrt]", "arm"]) = (.ok (), m) ∧
      m.limits.maxPlanningThreads = 1 ∧
      m.configurations.keys.Perm ["leg", "arm[rrt]", "arm"] ∧ m.cache.size = 0 ∧
      m.cache.pool = s.manager.cache.pool) ∧
    ∃ e m, s.manager.configure (documentOf ["leg", "arm", "hand", "arm", "leg"]) = (.error e, m) ∧
      e = .duplicateConfiguration "arm" ∧ m = s.manager ∧
      (s.perform (.apply (documentOf ["leg", "arm", "hand", "arm", "leg"]))).2 = s := by
  intro s
  obtain ⟨-, -, happlied⟩ := applied_as_a_whole s (documentOf ["leg", "arm[rrt]", "arm"])
  obtain ⟨-, hfails, -⟩ := applied_as_a_whole s (documentOf ["leg", "arm", "hand", "arm", "leg"])
  refine ⟨⟨_, rfl, ?applied⟩, _, _, rfl, rfl, (hfails _ _ rfl).2⟩
  case applied =>
    obtain ⟨-, hlimits, -, -, -, -, hnames, -, hsize, hpool, -, -⟩ := happlied _ rfl
    exact ⟨congrArg Limits.maxPlanningThreads hlimits, hnames, hsize, hpool⟩

end Session

end Manager

end MotionContexts
