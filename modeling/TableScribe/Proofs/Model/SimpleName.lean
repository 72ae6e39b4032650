/-
The last segment of a dotted name: it has no dot, and it is the whole name
exactly if the name has none.
-/
import TableScribe.Model.TypeRef

namespace TableScribe

namespace Text

theorem splitLast_eq_none_iff {mark : Char} {text : List Char} :
    splitLast mark text = none ↔ mark ∉ text := by
  induction text with
  | nil => simp [splitLast]
  | cons head rest ih =>
      cases hrest : splitLast mark rest with
      | some pieces =>
          have hmem : mark ∈ rest := Decidable.byContradiction fun hmark => by
            simp [ih.mpr hmark] at hrest
          simp [splitLast, hrest, hmem]
      | none =>
          have hmark := ih.mp hrest
          by_cases hhead : head = mark
          · simp [splitLast, hrest, hhead]
          · simp [splitLast, hrest, hhead, hmark, Ne.symm hhead]

theorem not_mem_of_splitLast {mark : Char} {text before after : List Char}
    (hsplit : splitLast mark text = some (before, after)) : mark ∉ after := by
  induction text generalizing before with
  | nil => simp [splitLast] at hsplit
  | cons head rest ih =>
      cases hrest : splitLast mark rest with
      | some pieces =>
          obtain ⟨first, second⟩ := pieces
          simp only [splitLast, hrest, Option.some.injEq, Prod.mk.injEq] at hsplit
          obtain ⟨-, rfl⟩ := hsplit
          exact ih hrest
      | none =>
          have hmark := splitLast_eq_none_iff.mp hrest
          by_cases hhead : head = mark
          · simp only [splitLast, hrest, hhead, if_true, Option.some.injEq, Prod.mk.injEq]
              at hsplit
            obtain ⟨-, rfl⟩ := hsplit
            exact hmark
          · simp [splitLast, hrest, hhead] at hsplit

theorem eq_of_splitLast {mark : Char} {text before after : List Char}
    (hsplit : splitLast mark text = some (before, after)) : text = before ++ mark :: after := by
  induction text generalizing before with
  | nil => simp [splitLast] at hsplit
  | cons head rest ih =>
      cases hrest : splitLast mark rest with
      | some pieces =>
          obtain ⟨first, second⟩ := pieces
          simp only [splitLast, hrest, Option.some.injEq, Prod.mk.injEq] at hsplit
          obtain ⟨rfl, rfl⟩ := hsplit
          rw [ih hrest, List.cons_append]
      | none =>
          by_cases hhead : head = mark
          · simp only [splitLast, hrest, hhead, if_true, Option.some.injEq, Prod.mk.injEq]
              at hsplit
            obtain ⟨rfl, rfl⟩ := hsplit
            rw [hhead, List.nil_append]
          · simp [splitLast, hrest, hhead] at hsplit

end Text

theorem mem_of_mem_simpleName {name : String} {c : Char} (hc : c ∈ (simpleName name).toList) :
    c ∈ name.toList := by
  unfold simpleName at hc
  cases hsplit : Text.splitLast '.' name.toList with
  | none => simpa [hsplit] using hc
  | some pieces =>
      simp only [hsplit, String.toList_ofList] at hc
      rw [Text.eq_of_splitLast hsplit]
      exact List.mem_append_right _ (List.mem_cons_of_mem _ hc)

theorem not_mem_simpleName (name : String) : '.' ∉ (simpleName name).toList := by
  unfold simpleName
  cases hsplit : Text.splitLast '.' name.toList with
  | none => exact Text.splitLast_eq_none_iff.mp hsplit
  | some pieces =>
      simp only [String.toList_ofList]
      exact Text.not_mem_of_splitLast hsplit

theorem simpleName_eq_self_iff {name : String} : simpleName name = name ↔ '.' ∉ name.toList := by
  constructor
  · intro hname
    rw [← hname]
    exact not_mem_simpleName name
  · intro hdot
    rw [simpleName, Text.splitLast_eq_none_iff.mpr hdot]

end TableScribe
