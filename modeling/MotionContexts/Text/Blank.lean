/-
# Blanks: the white space that option values may carry at their ends

An option value is read after the blanks at both ends are taken off.  The blanks are the
characters of the Unicode property White_Space, so a no-break space counts and a zero-width space
does not.

Main statements:
* `trim_eq_nil_iff`: nothing is left exactly when every character is a blank;
* `exists_padding` and `trim_padded`: what is taken off are blanks in front and behind, and nothing
  else counts.
-/
namespace MotionContexts.Text

/-- The Unicode property White_Space. -/
def isBlank (c : Char) : Bool :=
  let n := c.toNat
  (0x09 ≤ n && n ≤ 0x0D) || n = 0x20 || n = 0x85 || n = 0xA0 || n = 0x1680 ||
    (0x2000 ≤ n && n ≤ 0x200A) || n = 0x2028 || n = 0x2029 || n = 0x202F || n = 0x205F || n = 0x3000

/-- The characters without the blanks at the start. -/
def trimStart (s : List Char) : List Char := s.dropWhile isBlank

/-- The characters without the blanks at either end. -/
def trim (s : List Char) : List Char := (trimStart (trimStart s).reverse).reverse

/-- Whether there is nothing but blanks. -/
def blank (s : List Char) : Bool := (trim s).isEmpty

/-! ## The law of trimming -/

theorem dropWhile_eq_nil_iff {p : Char → Bool} :
    ∀ {s : List Char}, s.dropWhile p = [] ↔ ∀ c ∈ s, p c = true
  | [] => by simp
  | c :: s => by
    by_cases h : p c = true
    · simp [h, dropWhile_eq_nil_iff (s := s)]
    · simp [h]

/-- What `dropWhile` leaves starts with a character that fails the test. -/
theorem head_dropWhile {p : Char → Bool} {c : Char} {t : List Char} :
    ∀ {s : List Char}, s.dropWhile p = c :: t → p c = false
  | [], h => by simp at h
  | d :: s, h => by
    by_cases hd : p d = true
    · rw [List.dropWhile_cons_of_pos hd] at h
      exact head_dropWhile h
    · rw [List.dropWhile_cons_of_neg hd] at h
      cases h
      simpa using hd

/-- Nothing is left exactly when every character is a blank. -/
theorem trim_eq_nil_iff {s : List Char} : trim s = [] ↔ ∀ c ∈ s, isBlank c = true := by
  unfold trim trimStart
  rw [List.reverse_eq_nil_iff, dropWhile_eq_nil_iff]
  constructor
  · intro h
    refine dropWhile_eq_nil_iff.mp ?_
    cases hd : s.dropWhile isBlank with
    | nil => rfl
    | cons c t =>
      have h1 := h c (by simp [hd])
      rw [head_dropWhile hd] at h1
      exact absurd h1 (by simp)
  · intro h c hc
    rw [dropWhile_eq_nil_iff.mpr h] at hc
    simp at hc

theorem takeWhile_append_trimStart (s : List Char) : s.takeWhile isBlank ++ trimStart s = s :=
  List.takeWhile_append_dropWhile

/-- What is taken off are blanks in front and behind. -/
theorem exists_padding (s : List Char) :
    ∃ front back, s = front ++ trim s ++ back ∧ (∀ c ∈ front, isBlank c = true) ∧
      ∀ c ∈ back, isBlank c = true := by
  refine ⟨s.takeWhile isBlank, ((trimStart s).reverse.takeWhile isBlank).reverse, ?_,
    fun c hc => ?_, fun c hc => ?_⟩
  · have hback : trim s ++ ((trimStart s).reverse.takeWhile isBlank).reverse = trimStart s := by
      rw [trim, ← List.reverse_append, takeWhile_append_trimStart, List.reverse_reverse]
    rw [List.append_assoc, hback, takeWhile_append_trimStart]
  · exact List.all_eq_true.mp (List.all_takeWhile ..) c hc
  · exact List.all_eq_true.mp (List.all_takeWhile ..) c (List.mem_reverse.mp hc)

/-- Text without any blank is what is left of it between blanks. -/
theorem trim_padded {front s back : List Char} (hfront : ∀ c ∈ front, isBlank c = true)
    (hs : ∀ c ∈ s, isBlank c = false) (hback : ∀ c ∈ back, isBlank c = true) :
    trim (front ++ s ++ back) = s := by
  have hstart : trimStart (front ++ s ++ back) = trimStart (s ++ back) := by
    rw [trimStart, List.append_assoc, List.dropWhile_append_of_pos hfront, trimStart]
  have hend : ∀ t : List Char, (∀ c ∈ t, isBlank c = false) → trimStart t = t := by
    intro t ht
    cases t with
    | nil => rfl
    | cons c t => exact List.dropWhile_cons_of_neg (by simp [ht c (List.mem_cons_self ..)])
  cases s with
  | nil => exact trim_eq_nil_iff.mpr (by simpa [or_imp, forall_and] using ⟨hfront, hback⟩)
  | cons c s =>
    have hmiddle : trimStart (c :: s ++ back) = c :: s ++ back :=
      List.dropWhile_cons_of_neg (by simp [hs c (List.mem_cons_self ..)])
    have hback' : ∀ d ∈ back.reverse, isBlank d = true := fun d hd =>
      hback d (List.mem_reverse.mp hd)
    have hs' : ∀ d ∈ (c :: s).reverse, isBlank d = false := fun d hd =>
      hs d (List.mem_reverse.mp hd)
    unfold trim
    rw [hstart, hmiddle, List.reverse_append]
    unfold trimStart at hend ⊢
    rw [List.dropWhile_append_of_pos hback', hend _ hs', List.reverse_reverse]

end MotionContexts.Text
