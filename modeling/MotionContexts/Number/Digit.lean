/-
# Decimal digits

Digit lists, most significant first, and the number they write.  Leading zeros are digits like
any other.

Main statement: `value_ofNat`, the digits of a number write that number.
-/
namespace MotionContexts

/-- A decimal digit. -/
abbrev Digit := Fin 10

namespace Digit

/-- The digit a character stands for: ASCII only. -/
def ofChar? (c : Char) : Option Digit :=
  if h : 48 ≤ c.toNat ∧ c.toNat ≤ 57 then some ⟨c.toNat - 48, by omega⟩ else none

/-- The character of a digit. -/
def toChar (d : Digit) : Char := Char.ofNat (48 + d.val)

theorem ofChar?_toChar : ∀ d : Digit, ofChar? d.toChar = some d := by decide

/-- The number that digits write. -/
def value (ds : List Digit) : Nat := ds.foldl (fun n d => 10 * n + d.val) 0

theorem value_append (ds : List Digit) (d : Digit) : value (ds ++ [d]) = 10 * value ds + d.val := by
  simp [value]

/-- The digits of a number, without leading zeros; zero is one digit. -/
def ofNat (n : Nat) : List Digit :=
  if n < 10 then [⟨n % 10, by omega⟩] else ofNat (n / 10) ++ [⟨n % 10, by omega⟩]
termination_by n

/-- The digits of a number write that number. -/
theorem value_ofNat (n : Nat) : value (ofNat n) = n := by
  induction n using Nat.strongRecOn with
  | ind n ih =>
    unfold ofNat
    split
    · simp [value]
      omega
    · rw [value_append, ih (n / 10) (by omega)]
      simp
      omega

/-- The longest run of digits at the start, and the rest. -/
def span : List Char → List Digit × List Char
  | [] => ([], [])
  | c :: cs =>
    match ofChar? c with
    | some d => ((d :: (span cs).1), (span cs).2)
    | none => ([], c :: cs)

end Digit

end MotionContexts
