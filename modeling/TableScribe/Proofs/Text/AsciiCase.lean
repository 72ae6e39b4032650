/-
Case of ASCII letters in single characters.  What is no ASCII letter is left alone, so white
space and brackets are found where they were before.
-/
import TableScribe.Text.AsciiCase
import TableScribe.Text.Blank

namespace TableScribe.Text

/-- A fact about an ASCII character is one about 128 code points. -/
theorem of_isAscii {P : Char → Prop} (hall : ∀ code < 0x80, P (Char.ofNat code)) {c : Char}
    (hc : c.toNat < 0x80) : P c := by
  have hcode := hall c.toNat hc
  rwa [Char.ofNat_toNat] at hcode

theorem toUpper_of_le {c : Char} (hc : 0x80 ≤ c.toNat) : c.toUpper = c := by
  have hletter : ¬ ('a'.val ≤ c.val ∧ c.val ≤ 'z'.val) := by
    rintro ⟨-, hle⟩
    have hcode : c.toNat ≤ 0x7A := hle
    omega
  exact dif_neg hletter

theorem toLower_of_le {c : Char} (hc : 0x80 ≤ c.toNat) : c.toLower = c := by
  have hletter : ¬ ('A'.val ≤ c.val ∧ c.val ≤ 'Z'.val) := by
    rintro ⟨-, hle⟩
    have hcode : c.toNat ≤ 0x5A := hle
    omega
  exact dif_neg hletter

theorem toUpper_toLower (c : Char) : c.toLower.toUpper = c.toUpper := by
  by_cases hc : c.toNat < 0x80
  · exact of_isAscii (P := fun c => c.toLower.toUpper = c.toUpper) (by decide +kernel) hc
  · rw [toLower_of_le (by omega)]

theorem toUpper_of_isBlank {c : Char} (hblank : isBlank c = true) : c.toUpper = c := by
  by_cases hc : c.toNat < 0x80
  · exact of_isAscii (P := fun c => isBlank c = true → c.toUpper = c) (by decide +kernel) hc
      hblank
  · exact toUpper_of_le (by omega)

theorem map_toUpper_of_isBlank {blanks : List Char} (hblanks : ∀ c ∈ blanks, isBlank c = true) :
    blanks.map Char.toUpper = blanks := by
  rw [List.map_congr_left fun c hc => toUpper_of_isBlank (hblanks c hc), List.map_id']

/-- Only letters are the upper case of another character. -/
theorem toUpper_eq_iff {c mark : Char} (hmark : mark.toNat < 0x41) :
    c.toUpper = mark ↔ c = mark := by
  by_cases hc : c.toNat < 0x80
  · have hcase : c.toUpper = c ∨ 0x41 ≤ c.toNat ∧ 0x41 ≤ c.toUpper.toNat :=
      of_isAscii (P := fun c => c.toUpper = c ∨ 0x41 ≤ c.toNat ∧ 0x41 ≤ c.toUpper.toNat)
        (by decide +kernel) hc
    rcases hcase with hsame | ⟨hle, hle'⟩
    · rw [hsame]
    · exact ⟨fun heq => absurd hmark (heq ▸ by omega), fun heq => absurd hmark (heq ▸ by omega)⟩
  · rw [toUpper_of_le (by omega)]

/-- Texts that are equal up to the case of ASCII letters have one upper case. -/
theorem map_toUpper_eq {first second : String}
    (hsame : eqIgnoringAsciiCase first second = true) :
    first.toList.map Char.toUpper = second.toList.map Char.toUpper := by
  have hlower : first.toList.map Char.toLower = second.toList.map Char.toLower :=
    beq_iff_eq.mp hsame
  have hupper (text : List Char) :
      text.map Char.toUpper = (text.map Char.toLower).map Char.toUpper := by
    rw [List.map_map]
    exact List.map_congr_left fun c _ => (toUpper_toLower c).symm
  rw [hupper first.toList, hlower, ← hupper]

end TableScribe.Text
