/-
Changing the case of a text brings no mark into it: the only character that is
mapped to a mark below the capital letters of ASCII, or to a backslash, is the
mark itself.
-/
import TableScribe.Proofs.Text.AsciiCase
import TableScribe.Proofs.Unicode.CaseImages
import TableScribe.Unicode.LowerText

namespace TableScribe.Unicode

/-- A character below the capital letters, such as a dot or a quote, or a
backslash. -/
def IsMark (c : Char) : Prop := 0 < c.toNat ∧ c.toNat < 0x41 ∨ c.toNat = 0x5C

instance (c : Char) : Decidable (IsMark c) :=
  inferInstanceAs (Decidable (0 < c.toNat ∧ c.toNat < 0x41 ∨ c.toNat = 0x5C))

/-- A code point is not that of a mark. -/
def NoMark (code : Nat) : Prop := 0x41 ≤ code ∧ code ≠ 0x5C

instance (code : Nat) : Decidable (NoMark code) :=
  inferInstanceAs (Decidable (0x41 ≤ code ∧ code ≠ 0x5C))

/-- A run does not reach marks. -/
def CaseRun.AvoidsMarks (run : CaseRun) : Prop :=
  0x41 ≤ run.target ∧ (0x5C < run.target ∨ run.target + (run.last - run.first) < 0x5C)

instance (run : CaseRun) : Decidable run.AvoidsMarks :=
  inferInstanceAs (Decidable (0x41 ≤ run.target ∧
    (0x5C < run.target ∨ run.target + (run.last - run.first) < 0x5C)))

theorem not_isMark_ofNat {code : Nat} (hcode : NoMark code) : ¬ IsMark (Char.ofNat code) := by
  have hnat : (Char.ofNat code).toNat = code ∨ (Char.ofNat code).toNat = 0 := by
    by_cases hvalid : code.isValidChar
    · rw [Char.ofNat, dif_pos hvalid]
      exact Or.inl rfl
    · rw [Char.ofNat, dif_neg hvalid]
      exact Or.inr rfl
  obtain ⟨hle, hne⟩ := hcode
  rintro (⟨hpos, hlt⟩ | heq) <;> omega

theorem noMark_image? {run : CaseRun} (hrun : run.AvoidsMarks) {code image : Nat}
    (himage : run.image? code = some image) : NoMark image := by
  obtain ⟨htarget, hreach⟩ := hrun
  unfold CaseRun.image? at himage
  split at himage
  case isTrue hreached =>
    simp only [Bool.and_eq_true, decide_eq_true_eq] at hreached
    have heq := Option.some.inj himage
    exact ⟨by omega, by omega⟩
  case isFalse => exact nomatch himage

/-- No mark is an image of a character above the marks. -/
theorem not_isMark_of_mem_caseImage {sequences : List (Nat × List Nat)} {runs : List CaseRun}
    (hsequences : ∀ row ∈ sequences, ∀ code ∈ row.2, NoMark code)
    (hruns : ∀ run ∈ runs, run.AvoidsMarks) {c image : Char} (hc : NoMark c.toNat)
    (himage : image ∈ caseImage sequences runs c) : ¬ IsMark image := by
  rcases mem_caseImage_cases himage with
    ⟨row, hrow, -, code, hcode, rfl⟩ | ⟨run, hrun, code, hreached, rfl⟩ | rfl
  · exact not_isMark_ofNat (hsequences row hrow code hcode)
  · exact not_isMark_ofNat (noMark_image? (hruns run hrun) hreached)
  · rw [← Char.ofNat_toNat image]
    exact not_isMark_ofNat hc

theorem toUpper_eq_of_isMark {c : Char} (hc : c.toNat < 0x80) (hmark : IsMark c.toUpper) :
    c.toUpper = c :=
  Text.of_isAscii (P := fun c => IsMark c.toUpper → c.toUpper = c) (by decide +kernel) hc hmark

theorem toLower_eq_of_isMark {c : Char} (hc : c.toNat < 0x80) (hmark : IsMark c.toLower) :
    c.toLower = c :=
  Text.of_isAscii (P := fun c => IsMark c.toLower → c.toLower = c) (by decide +kernel) hc hmark

theorem eq_of_mem_upperCase {mark c : Char} (hmark : IsMark mark) (hmem : mark ∈ upperCase c) :
    c = mark := by
  unfold upperCase at hmem
  split at hmem
  · rename_i hc
    obtain rfl := List.mem_singleton.mp hmem
    exact (toUpper_eq_of_isMark hc hmark).symm
  · rename_i hc
    exact absurd hmark (not_isMark_of_mem_caseImage (by decide +kernel) (by decide +kernel)
      ⟨by omega, by omega⟩ hmem)

theorem eq_of_mem_lowerCase {mark c : Char} (hmark : IsMark mark) (hmem : mark ∈ lowerCase c) :
    c = mark := by
  unfold lowerCase at hmem
  split at hmem
  · rename_i hc
    obtain rfl := List.mem_singleton.mp hmem
    exact (toLower_eq_of_isMark hc hmark).symm
  · rename_i hc
    exact absurd hmark (not_isMark_of_mem_caseImage (by decide +kernel) (by decide +kernel)
      ⟨by omega, by omega⟩ hmem)

theorem mem_of_mem_lowerAfter {mark : Char} (hmark : IsMark mark) {before text : List Char}
    (hmem : mark ∈ lowerAfter before text) : mark ∈ text := by
  induction text generalizing before with
  | nil => simp [lowerAfter] at hmem
  | cons c rest ih =>
      simp only [lowerAfter, List.mem_append] at hmem
      rcases hmem with himage | hrest
      · split at himage
        · split at himage
          · obtain rfl := List.mem_singleton.mp himage
            exact absurd hmark (by decide)
          · obtain rfl := List.mem_singleton.mp himage
            exact absurd hmark (by decide)
        · rw [eq_of_mem_lowerCase hmark himage]
          exact List.mem_cons_self
      · exact List.mem_cons_of_mem c (ih hrest)

theorem mem_of_mem_lowerText {mark : Char} (hmark : IsMark mark) {text : String}
    (hmem : mark ∈ (lowerText text).toList) : mark ∈ text.toList := by
  rw [lowerText, String.toList_ofList] at hmem
  exact mem_of_mem_lowerAfter hmark hmem

end TableScribe.Unicode
