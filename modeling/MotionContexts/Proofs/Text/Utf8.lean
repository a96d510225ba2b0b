/-
# Text survives its bytes

Bytes are read as UTF-8 past whatever is no character, and still nothing is lost of a text: encoded
and read again, it is the list of its characters, each of them a symbol.  The proof follows the four
lengths of an encoded character.  A tail byte carries six bits, and the first byte tells the length,
so no shorter reading comes first.

Main statement: `symbols_encode`.
-/
import MotionContexts.Text.Utf8

namespace MotionContexts.Utf8

/-! ## 1. Bytes -/

/-- The byte is a tail that carries the six low bits of the number. -/
def Carries (b : UInt8) (n : Nat) : Prop := b.toNat = n % 64 + 128

variable {a b c d : UInt8} {n : Nat}

theorem toNat_ofNat (h : n < 256) : (UInt8.ofNat n).toNat = n := by simpa using h

theorem carries_ofNat (n : Nat) : Carries (UInt8.ofNat (n % 64 + 128)) n :=
  toNat_ofNat (by omega)

theorem Carries.isTail (h : Carries b n) : isTail b = true := by
  unfold Carries at h
  have hlow : 0x80 ≤ b := UInt8.le_iff_toNat_le.mpr (show 128 ≤ b.toNat by omega)
  have hhigh : b ≤ 0xBF := UInt8.le_iff_toNat_le.mpr (show b.toNat ≤ 191 by omega)
  simp [Utf8.isTail, hlow, hhigh]

theorem Carries.tailBits (h : Carries b n) : tailBits b = n % 64 := by
  unfold Carries at h
  unfold Utf8.tailBits
  omega

/-! ## 2. The four lengths -/

theorem two?_eq (h : 0x80 ≤ n) (h' : n < 0x800) (ha : a.toNat = n / 64 % 32 + 192)
    (hb : Carries b n) : two? a b = some (Char.ofNat n) := by
  have hn : a.toNat % 32 * 64 + n % 64 = n := by omega
  have hlow : 0xC2 ≤ a := UInt8.le_iff_toNat_le.mpr (show 194 ≤ a.toNat by omega)
  have hhigh : a ≤ 0xDF := UInt8.le_iff_toNat_le.mpr (show a.toNat ≤ 223 by omega)
  simp [two?, hb.isTail, hb.tailBits, hlow, hhigh, hn]

theorem two?_eq_none (ha : 224 ≤ a.toNat) : two? a b = none := by
  have hhigh : ¬ a ≤ 0xDF := fun h => absurd (UInt8.le_iff_toNat_le.mp h) (by simp; omega)
  simp [two?, hhigh]

theorem three?_eq (h : 0x800 ≤ n) (h' : n < 0x10000) (hn : n < 0xD800 ∨ 0xDFFF < n)
    (ha : a.toNat = n / 4096 % 16 + 224) (hb : Carries b (n / 64)) (hc : Carries c n) :
    three? a b c = some (Char.ofNat n) := by
  have hsum : a.toNat % 16 * 4096 + n / 64 % 64 * 64 + n % 64 = n := by omega
  have hlow : 0xE0 ≤ a := UInt8.le_iff_toNat_le.mpr (show 224 ≤ a.toNat by omega)
  have hhigh : a ≤ 0xEF := UInt8.le_iff_toNat_le.mpr (show a.toNat ≤ 239 by omega)
  simp [three?, hb.isTail, hb.tailBits, hc.isTail, hc.tailBits, hlow, hhigh, hsum, h]
  omega

theorem three?_eq_none (ha : 240 ≤ a.toNat) : three? a b c = none := by
  have hhigh : ¬ a ≤ 0xEF := fun h => absurd (UInt8.le_iff_toNat_le.mp h) (by simp; omega)
  simp [three?, hhigh]

theorem four?_eq (h : 0x10000 ≤ n) (h' : n ≤ 0x10FFFF) (ha : a.toNat = n / 262144 % 8 + 240)
    (hb : Carries b (n / 4096)) (hc : Carries c (n / 64)) (hd : Carries d n) :
    four? a b c d = some (Char.ofNat n) := by
  have hsum : a.toNat % 8 * 262144 + n / 4096 % 64 * 4096 + n / 64 % 64 * 64 + n % 64 = n := by
    omega
  have hlow : 0xF0 ≤ a := UInt8.le_iff_toNat_le.mpr (show 240 ≤ a.toNat by omega)
  have hhigh : a ≤ 0xF4 := UInt8.le_iff_toNat_le.mpr (show a.toNat ≤ 244 by omega)
  simp [four?, hb.isTail, hb.tailBits, hc.isTail, hc.tailBits, hd.isTail, hd.tailBits, hlow, hhigh,
    hsum, h, h']

/-! ## 3. Characters -/

variable {x : Char} {rest : List UInt8}

theorem char?_one (hn : n < 128) : char? (UInt8.ofNat n) rest = some (Char.ofNat n, 0) := by
  have ha : (UInt8.ofNat n).toNat = n := toNat_ofNat (by omega)
  have hlow : UInt8.ofNat n < 0x80 := UInt8.lt_iff_toNat_lt.mpr (by rw [ha]; exact hn)
  rw [char?.eq_def, if_pos hlow, ha]

theorem not_lt_of_toNat (ha : 128 ≤ a.toNat) : ¬ a < 0x80 := fun h =>
  absurd (UInt8.lt_iff_toNat_lt.mp h) (by simp; omega)

theorem char?_two (ha : 128 ≤ a.toNat) (h : two? a b = some x) :
    char? a (b :: rest) = some (x, 1) := by
  rw [char?.eq_def, if_neg (not_lt_of_toNat ha)]
  rcases rest with _ | ⟨r, _ | ⟨s, rest⟩⟩ <;> simp [h]

theorem char?_three (ha : 224 ≤ a.toNat) (h : three? a b c = some x) :
    char? a (b :: c :: rest) = some (x, 2) := by
  have htwo : two? a b = none := two?_eq_none ha
  rw [char?.eq_def, if_neg (not_lt_of_toNat (by omega))]
  rcases rest with _ | ⟨r, rest⟩ <;> simp [htwo, h]

theorem char?_four (ha : 240 ≤ a.toNat) (h : four? a b c d = some x) :
    char? a (b :: c :: d :: rest) = some (x, 3) := by
  have htwo : two? a b = none := two?_eq_none (by omega)
  have hthree : three? a b c = none := three?_eq_none ha
  rw [char?.eq_def, if_neg (not_lt_of_toNat (by omega))]
  simp [htwo, hthree, h]

/-- The encoding of a character, whatever comes behind it, starts with this character. -/
theorem char?_encoded (x : Char) (rest : List UInt8) :
    ∃ a t, String.utf8EncodeChar x = a :: t ∧ char? a (t ++ rest) = some (x, t.length) := by
  have hx : Char.ofNat x.val.toNat = x := Char.ofNat_toNat x
  have hvalid : x.val.toNat < 0xD800 ∨ 0xDFFF < x.val.toNat ∧ x.val.toNat < 0x110000 := x.valid
  unfold String.utf8EncodeChar
  dsimp only
  generalize x.val.toNat = n at hx hvalid
  subst hx
  split
  · exact ⟨_, _, rfl, char?_one (by omega)⟩
  · split
    · have ha := toNat_ofNat (n := n / 64 % 32 + 192) (by omega)
      have htwo := two?_eq (by omega) (by omega) ha (carries_ofNat n)
      exact ⟨_, _, rfl, char?_two (by omega) htwo⟩
    · split
      · have ha := toNat_ofNat (n := n / 4096 % 16 + 224) (by omega)
        have hthree := three?_eq (by omega) (by omega) (by omega) ha (carries_ofNat (n / 64))
          (carries_ofNat n)
        exact ⟨_, _, rfl, char?_three (by omega) hthree⟩
      · have ha := toNat_ofNat (n := n / 262144 % 8 + 240) (by omega)
        have hfour := four?_eq (by omega) (by omega) ha (carries_ofNat (n / 4096))
          (carries_ofNat (n / 64)) (carries_ofNat n)
        exact ⟨_, _, rfl, char?_four (by omega) hfour⟩

/-- Bytes that are already read are passed over. -/
theorem symbolsAfter_append (t rest : List UInt8) :
    symbolsAfter t.length (t ++ rest) = symbolsAfter 0 rest := by
  induction t with
  | nil => rfl
  | cons b t ih => exact ih

/-- **A text survives its bytes**: encoded and read again it is the list of its characters. -/
theorem symbols_encode (s : String) : symbols (encode s) = ofText s := by
  unfold symbols encode ofText
  induction s.toList with
  | nil => rfl
  | cons x xs ih =>
    obtain ⟨a, t, he, hread⟩ := char?_encoded x (xs.flatMap String.utf8EncodeChar)
    rw [List.flatMap_cons, he, List.cons_append, symbolsAfter, hread]
    dsimp only
    rw [symbolsAfter_append, ih, List.map_cons]

end MotionContexts.Utf8
