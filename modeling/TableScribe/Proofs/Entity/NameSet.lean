/-
Ascending lists of names: collecting names keeps each of them once, in strictly
ascending order.
-/
import TableScribe.Entity.Entity

namespace TableScribe.Entity

theorem mem_insertName {name other : String} {names : List String} :
    other ∈ insertName name names ↔ other = name ∨ other ∈ names := by
  induction names with
  | nil => simp [insertName]
  | cons first rest ih =>
      by_cases hlt : name < first
      · simp [insertName, hlt]
      · by_cases heq : name = first
        · subst heq
          simp [insertName]
        · simp only [insertName, hlt, heq, if_false, List.mem_cons, ih]
          exact or_left_comm

theorem pairwise_insertName {name : String} {names : List String}
    (hnames : names.Pairwise (· < ·)) : (insertName name names).Pairwise (· < ·) := by
  induction names with
  | nil => simp [insertName]
  | cons first rest ih =>
      obtain ⟨hfirst, hrest⟩ := List.pairwise_cons.mp hnames
      by_cases hlt : name < first
      · simp only [insertName, hlt, if_true]
        refine List.pairwise_cons.mpr ⟨?_, hnames⟩
        intro other hother
        rcases List.mem_cons.mp hother with rfl | hother
        · exact hlt
        · exact String.lt_trans hlt (hfirst other hother)
      · by_cases heq : name = first
        · subst heq
          simpa [insertName] using hnames
        · simp only [insertName, hlt, heq, if_false]
          have hgt : first < name := Decidable.byContradiction fun hnot =>
            heq (String.le_antisymm (String.not_lt.mp hnot) (String.not_lt.mp hlt))
          refine List.pairwise_cons.mpr ⟨?_, ih hrest⟩
          intro other hother
          rcases mem_insertName.mp hother with rfl | hother
          · exact hgt
          · exact hfirst other hother

theorem mem_nameSet {name : String} {names : List String} :
    name ∈ nameSet names ↔ name ∈ names := by
  induction names with
  | nil => simp [nameSet]
  | cons first rest ih =>
      change name ∈ insertName first (nameSet rest) ↔ _
      rw [mem_insertName, ih, List.mem_cons]

theorem pairwise_nameSet (names : List String) : (nameSet names).Pairwise (· < ·) := by
  induction names with
  | nil => exact List.Pairwise.nil
  | cons first rest ih => exact pairwise_insertName ih

end TableScribe.Entity
