/-
The images of a character under a change of case: those of an entry of the tables, or the character
itself.  There is at least one.
-/
import TableScribe.Unicode.LetterCase

namespace TableScribe.Unicode

section

variable {sequences : List (Nat × List Nat)} {runs : List CaseRun} {c : Char}

/-- An image stands in the sequence of the character, or a run leads to it, or nothing changes. -/
theorem mem_caseImage_cases {image : Char} (himage : image ∈ caseImage sequences runs c) :
    (∃ row ∈ sequences, row.1 = c.toNat ∧ ∃ code ∈ row.2, image = Char.ofNat code) ∨
      (∃ run ∈ runs, ∃ code, run.image? c.toNat = some code ∧ image = Char.ofNat code) ∨
      image = c := by
  cases hrow : sequences.lookup c.toNat with
  | some codes =>
      simp only [caseImage, hrow, List.mem_map] at himage
      obtain ⟨code, hcode, rfl⟩ := himage
      obtain ⟨before, after, hsplit, -⟩ := List.lookup_eq_some_iff.mp hrow
      exact Or.inl ⟨(c.toNat, codes), by simp [hsplit], rfl, code, hcode, rfl⟩
  | none =>
      simp only [caseImage, hrow, List.mem_singleton] at himage
      rw [himage, mapByRuns]
      right
      cases hfound : runs.findSome? fun run => run.image? c.toNat with
      | none =>
          right
          rw [Option.getD_none, Char.ofNat_toNat]
      | some code =>
          left
          obtain ⟨run, hrun, hreached⟩ := List.exists_of_findSome?_eq_some hfound
          exact ⟨run, hrun, code, hreached, rfl⟩

theorem caseImage_ne_nil (hsequences : ∀ row ∈ sequences, row.2 ≠ []) :
    caseImage sequences runs c ≠ [] := by
  cases hrow : sequences.lookup c.toNat with
  | some codes =>
      obtain ⟨before, after, hsplit, -⟩ := List.lookup_eq_some_iff.mp hrow
      simpa [caseImage, hrow] using hsequences (c.toNat, codes) (by simp [hsplit])
  | none => simp [caseImage, hrow]

end

/-- No character is lost in lower case. -/
theorem lowerCase_ne_nil (c : Char) : lowerCase c ≠ [] := by
  by_cases hc : c.toNat < 0x80
  · simp [lowerCase, hc]
  · rw [lowerCase, if_neg hc]
    exact caseImage_ne_nil (by decide)

theorem upperCase_ne_nil (c : Char) : upperCase c ≠ [] := by
  by_cases hc : c.toNat < 0x80
  · simp [upperCase, hc]
  · rw [upperCase, if_neg hc]
    exact caseImage_ne_nil (by decide)

end TableScribe.Unicode
