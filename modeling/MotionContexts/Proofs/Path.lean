/-
# When two paths are equal

Equal paths have equal components, and components are found piece by piece, with exceptions for the
first one.  Here is what this comes to, said of the text.  Three things count: whether the text
begins with a slash, whether it begins with a dot that is a piece by itself, and the NAMES, which
are the pieces between slashes but for empty ones and single dots.  Two dots are a name like any
other.

Nothing else counts, so slashes may be repeated or stand at the end, and a dot may be put in
anywhere but at the beginning.

Main statements:
* `components_eq`, components as a lead and names;
* `same_iff_names`, what counts;
* `same_of_repeated`, `same_of_trailing`, `same_of_dot` and `same_of_trailing_dot`, what does not.
-/
import MotionContexts.Path

namespace MotionContexts.Path

/-! ## 1. What counts -/

/-- The text begins with a slash. -/
def Rooted (p : Path) : Prop := p.text.toList.head? = some '/'

instance (p : Path) : Decidable p.Rooted := inferInstanceAs (Decidable (_ = _))

/-- The text begins with a dot that is a piece by itself. -/
def Dotted (p : Path) : Prop := p.text.toList = ['.'] ∨ ['.', '/'] <+: p.text.toList

instance (p : Path) : Decidable p.Dotted := inferInstanceAs (Decidable (_ ∨ _))

/-- The pieces that count wherever they stand. -/
def named (pieces : List (List Char)) : List (List Char) :=
  pieces.filter fun s => s != [] && s != ['.']

/-- What stands between the slashes, but for empty pieces and single dots. -/
def names (p : Path) : List (List Char) := named (p.text.toList.splitOn '/')

/-! ## 2. Pieces -/

theorem pieces_eq_splitOn : ∀ s : List Char, pieces s = s.splitOn '/'
  | [] => rfl
  | c :: s => by
    have hne := List.splitOn_ne_nil '/' s
    rw [pieces, pieces_eq_splitOn s]
    unfold List.splitOn at hne ⊢
    rw [List.splitOnP_cons_eq_if_modifyHead]
    obtain ⟨p, ps, hps⟩ := List.exists_cons_of_ne_nil hne
    rw [hps]
    by_cases hc : c = '/' <;> simp [hc]

theorem pieces_ne_nil (s : List Char) : pieces s ≠ [] := by
  rw [pieces_eq_splitOn]
  exact List.splitOn_ne_nil '/' s

/-- Pieces are cut at a slash. -/
theorem pieces_append_slash (u v : List Char) : pieces (u ++ '/' :: v) = pieces u ++ pieces v := by
  induction u with
  | nil => rfl
  | cons c u ih =>
    rw [List.cons_append, pieces, pieces, ih]
    split
    · rfl
    · obtain ⟨p, ps, hps⟩ := List.exists_cons_of_ne_nil (pieces_ne_nil u)
      rw [hps]
      rfl

/-- The first piece is empty, and not the only one, exactly under a leading slash. -/
theorem pieces_eq_nil_cons_iff (s : List Char) :
    (∃ p ps, pieces s = [] :: p :: ps) ↔ s.head? = some '/' := by
  cases s with
  | nil => simp [pieces]
  | cons c s =>
    obtain ⟨p, ps, hps⟩ := List.exists_cons_of_ne_nil (pieces_ne_nil s)
    by_cases hc : c = '/' <;> simp [pieces, hps, hc]

/-- The first piece is a dot exactly if the text is one, or begins with one and a slash. -/
theorem pieces_eq_dot_cons_iff (s : List Char) :
    (∃ ps, pieces s = ['.'] :: ps) ↔ s = ['.'] ∨ ['.', '/'] <+: s := by
  match s with
  | [] => simp [pieces]
  | [c] => by_cases hc : c = '/' <;> simp [pieces, hc]
  | c :: d :: s =>
    obtain ⟨p, ps, hps⟩ := List.exists_cons_of_ne_nil (pieces_ne_nil s)
    by_cases hc : c = '/'
    · simp [pieces, hc, List.cons_prefix_cons]
    · by_cases hd : d = '/'
      · simp [pieces, hps, hc, hd, List.cons_prefix_cons, eq_comm]
      · have hd' : ¬ '/' = d := fun he => hd he.symm
        simp [pieces, hps, hc, hd, hd', List.cons_prefix_cons]

/-! ## 3. Components -/

/-- A name as a component. -/
def ofName (s : List Char) : Component := if s = ['.', '.'] then .up else .name (String.ofList s)

/-- The name of a component, if it has one. -/
def name? : Component → Option (List Char)
  | .up => some ['.', '.']
  | .name s => some s.toList
  | _ => none

theorem name?_ofName (s : List Char) : name? (ofName s) = some s := by
  unfold ofName
  split
  · rename_i h
    rw [h]
    rfl
  · exact congrArg some (String.toList_ofList ..)

theorem filterMap_ofPiece? (ps : List (List Char)) :
    ps.filterMap ofPiece? = (named ps).map ofName := by
  induction ps with
  | nil => rfl
  | cons p ps ih =>
    by_cases hempty : p = []
    · simpa [named, ofPiece?, step?, hempty] using ih
    · by_cases hdot : p = ['.']
      · simpa [named, ofPiece?, hdot] using ih
      · have hpiece : ofPiece? p = some (ofName p) := by
          simp only [ofPiece?, step?, ofName, hempty, hdot, if_false]
          split <;> rfl
        have hnamed : named (p :: ps) = p :: named ps :=
          List.filter_cons_of_pos (by simp [hempty, hdot])
        rw [List.filterMap_cons_some hpiece, hnamed, List.map_cons, ih]

/-- What stands in front of the names. -/
def lead (p : Path) : List Component :=
  if p.Rooted then [.root] else if p.Dotted then [.here] else []

/-- **Components are a lead and names.** -/
theorem components_eq (p : Path) : p.components = p.lead ++ p.names.map ofName := by
  have hroot : p.Rooted ↔ ∃ q qs, pieces p.text.toList = [] :: q :: qs :=
    (pieces_eq_nil_cons_iff p.text.toList).symm
  have hdot : p.Dotted ↔ ∃ qs, pieces p.text.toList = ['.'] :: qs :=
    (pieces_eq_dot_cons_iff p.text.toList).symm
  rw [names, ← pieces_eq_splitOn, ← filterMap_ofPiece?, components, lead]
  generalize pieces p.text.toList = ps at hroot hdot
  unfold ofPieces
  split
  · rw [if_pos (hroot.mpr ⟨_, _, rfl⟩)]
    rfl
  · rw [if_neg (mt hroot.mp (by simp)), if_pos (hdot.mpr ⟨_, rfl⟩)]
    rfl
  · rename_i hnot hnot'
    rw [if_neg fun h => ?_, if_neg fun h => ?_]
    · rfl
    · obtain ⟨qs, h⟩ := hdot.mp h
      exact hnot' qs h
    · obtain ⟨q, qs, h⟩ := hroot.mp h
      exact hnot q qs h

theorem not_dotted_of_rooted {p : Path} (h : p.Rooted) : ¬ p.Dotted := by
  unfold Rooted at h
  rintro (hdot | ⟨rest, hdot⟩)
  · rw [hdot] at h
    exact absurd (Option.some.inj h) (by decide)
  · rw [← hdot] at h
    exact absurd (Option.some.inj h) (by decide)

/-- The components that are no names are those in the lead. -/
theorem mem_components_iff {p : Path} {c : Component} (hc : name? c = none) :
    c ∈ p.components ↔ c ∈ p.lead := by
  have hnames : c ∉ p.names.map ofName := fun h => by
    obtain ⟨s, -, rfl⟩ := List.mem_map.mp h
    rw [name?_ofName] at hc
    cases hc
  rw [components_eq, List.mem_append, or_iff_left hnames]

theorem root_mem_components_iff (p : Path) : .root ∈ p.components ↔ p.Rooted := by
  rw [mem_components_iff rfl, lead]
  split
  · simp [*]
  · split <;> simp [*]

theorem here_mem_components_iff (p : Path) : .here ∈ p.components ↔ p.Dotted := by
  rw [mem_components_iff rfl, lead]
  split
  · rename_i hroot
    simp [not_dotted_of_rooted hroot]
  · split <;> simp [*]

theorem filterMap_name?_components (p : Path) : p.components.filterMap name? = p.names := by
  have hlead : p.lead.filterMap name? = [] := by
    unfold lead
    split
    · rfl
    · split <;> rfl
  have hinverse : name? ∘ ofName = some := funext name?_ofName
  rw [components_eq, List.filterMap_append, hlead, List.nil_append, List.filterMap_map, hinverse,
    List.filterMap_some]

/-! ## 4. Equal paths -/

/-- **Paths are equal** exactly if both begin with a slash or neither does, both begin with a dot or
neither does, and their names are the same. -/
theorem same_iff_names (p q : Path) :
    p.same q = true ↔ (p.Rooted ↔ q.Rooted) ∧ (p.Dotted ↔ q.Dotted) ∧ p.names = q.names := by
  rw [same, decide_eq_true_iff]
  constructor
  · intro h
    rw [← root_mem_components_iff, ← root_mem_components_iff, ← here_mem_components_iff,
      ← here_mem_components_iff, ← filterMap_name?_components, ← filterMap_name?_components, h]
    exact ⟨.rfl, .rfl, rfl⟩
  · rintro ⟨hroot, hdot, hnames⟩
    rw [components_eq, components_eq, hnames, lead, lead]
    simp only [hroot, hdot]

/-- Being equal is an equivalence. -/
theorem same_equivalence : Equivalence fun p q : Path => p.same q = true := by
  have hsame : ∀ p q : Path, p.same q = true ↔ p.components = q.components :=
    fun _ _ => decide_eq_true_iff
  refine ⟨fun p => ?_, fun {p q} h => ?_, fun {p q r} h h' => ?_⟩
  · rw [hsame]
  · rw [hsame] at h ⊢
    exact h.symm
  · rw [hsame] at h h' ⊢
    exact h.trans h'

/-! ## 5. What does not count -/

theorem head?_append_slash (u v : List Char) : (u ++ '/' :: v).head? = (u ++ ['/']).head? := by
  cases u <;> rfl

theorem rooted_append_slash_iff (u v : String) :
    Rooted ⟨u ++ "/" ++ v⟩ ↔ (u.toList ++ ['/']).head? = some '/' := by
  have htext : (u ++ "/" ++ v).toList = u.toList ++ '/' :: v.toList := by simp
  rw [Rooted, htext, head?_append_slash]

theorem dotted_append_slash_iff (u v : String) :
    Dotted ⟨u ++ "/" ++ v⟩ ↔ u.toList = ['.'] ∨ ['.', '/'] <+: u.toList := by
  have htext : (u ++ "/" ++ v).toList = u.toList ++ '/' :: v.toList := by simp
  rw [Dotted, htext]
  match u.toList with
  | [] => simp [List.cons_prefix_cons]
  | [c] =>
    have hdot : '.' = c ↔ c = '.' := eq_comm
    simp [List.cons_prefix_cons, hdot]
  | c :: d :: s => simp [List.cons_prefix_cons]

theorem names_append_slash (u v : String) :
    names ⟨u ++ "/" ++ v⟩ = names ⟨u⟩ ++ names ⟨v⟩ := by
  have htext : (u ++ "/" ++ v).toList = u.toList ++ '/' :: v.toList := by simp
  rw [names, names, names, ← pieces_eq_splitOn, ← pieces_eq_splitOn, ← pieces_eq_splitOn, htext,
    pieces_append_slash]
  exact List.filter_append ..

/-- Behind a slash only the names count. -/
theorem same_of_names_eq (u : String) {v w : String} (h : names ⟨v⟩ = names ⟨w⟩) :
    same ⟨u ++ "/" ++ v⟩ ⟨u ++ "/" ++ w⟩ = true := by
  rw [same_iff_names, rooted_append_slash_iff, rooted_append_slash_iff, dotted_append_slash_iff,
    dotted_append_slash_iff, names_append_slash, names_append_slash, h]
  exact ⟨.rfl, .rfl, rfl⟩

theorem same_of_repeated (u v : String) : same ⟨u ++ "//" ++ v⟩ ⟨u ++ "/" ++ v⟩ = true := by
  have htext : u ++ "//" ++ v = u ++ "/" ++ ("" ++ "/" ++ v) := by
    apply String.toList_injective
    simp
  rw [htext]
  exact same_of_names_eq u (names_append_slash "" v)

theorem same_of_dot (u v : String) : same ⟨u ++ "/./" ++ v⟩ ⟨u ++ "/" ++ v⟩ = true := by
  have htext : u ++ "/./" ++ v = u ++ "/" ++ ("." ++ "/" ++ v) := by
    apply String.toList_injective
    simp
  rw [htext]
  exact same_of_names_eq u (names_append_slash "." v)

theorem same_of_trailing_dot (u : String) : same ⟨u ++ "/."⟩ ⟨u ++ "/"⟩ = true := by
  have hnames : names ⟨"."⟩ = names ⟨""⟩ := by decide +kernel
  have hsame := same_of_names_eq u hnames
  rw [String.append_empty, String.append_assoc] at hsame
  exact hsame

theorem same_of_trailing {u : String} (hu : u ≠ "") : same ⟨u ++ "/"⟩ ⟨u⟩ = true := by
  have hhead : (u.toList ++ ['/']).head? = u.toList.head? := by
    obtain ⟨c, s, hcs⟩ := List.exists_cons_of_ne_nil (mt String.toList_eq_nil_iff.mp hu)
    rw [hcs]
    rfl
  rw [← String.append_empty (s := u ++ "/"), same_iff_names, rooted_append_slash_iff,
    dotted_append_slash_iff, names_append_slash, hhead]
  exact ⟨.rfl, .rfl, List.append_nil _⟩

end MotionContexts.Path
