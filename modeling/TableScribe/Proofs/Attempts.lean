/-
Steps that may fail.  Steps one after the other succeed exactly if each of them
does, and fail with the error of the first one that does not.  Where they change
a state, a failure leaves the state as it is then.
-/
import Mathlib.Data.List.Forall2

namespace TableScribe

section

variable {α β ε : Type} {items : List α} {f : α → Except ε β}

theorem Except.bind_eq_ok_iff {first : Except ε α} {next : α → Except ε β}
    {result : β} :
    (first >>= next) = .ok result ↔ ∃ value, first = .ok value ∧ next value = .ok result := by
  cases first with
  | error error => simp [bind, Except.bind]
  | ok value => simp [bind, Except.bind]

theorem Except.bind_eq_error_iff {first : Except ε α} {next : α → Except ε β} {error : ε} :
    (first >>= next) = .error error ↔
      first = .error error ∨ ∃ value, first = .ok value ∧ next value = .error error := by
  cases first with
  | error cause => simp [bind, Except.bind]
  | ok value => simp [bind, Except.bind]

theorem Except.map_eq_ok_iff {first : Except ε α} {g : α → β} {result : β} :
    first.map g = .ok result ↔ ∃ value, first = .ok value ∧ g value = result := by
  cases first with
  | error error => simp [Except.map]
  | ok value => simp [Except.map]

theorem exists_mapM_eq_ok_iff :
    (∃ results, items.mapM f = .ok results) ↔ ∀ item ∈ items, ∃ result, f item = .ok result := by
  induction items with
  | nil => simp [pure, Except.pure]
  | cons head rest ih =>
      simp only [List.mapM_cons, Except.bind_eq_ok_iff, List.forall_mem_cons, ← ih]
      constructor
      · rintro ⟨results, value, hhead, values, hrest, -⟩
        exact ⟨⟨value, hhead⟩, values, hrest⟩
      · rintro ⟨⟨value, hhead⟩, values, hrest⟩
        exact ⟨value :: values, value, hhead, values, hrest, rfl⟩

theorem mapM_eq_ok_iff {results : List β} :
    items.mapM f = .ok results ↔
      List.Forall₂ (fun item result => f item = .ok result) items results := by
  induction items generalizing results with
  | nil =>
      constructor
      · intro hnil
        obtain rfl := Except.ok.inj hnil
        exact .nil
      · rintro ⟨⟩
        rfl
  | cons head rest ih =>
      simp only [List.mapM_cons, Except.bind_eq_ok_iff]
      constructor
      · rintro ⟨result, hhead, others, hrest, hok⟩
        obtain rfl := Except.ok.inj hok
        exact .cons hhead (ih.mp hrest)
      · rintro (_ | ⟨hhead, hrest⟩)
        exact ⟨_, hhead, _, ih.mpr hrest, rfl⟩

/-- What an item comes to is among the results. -/
theorem mem_of_mapM_eq_ok {results : List β} (hresults : items.mapM f = .ok results) {item : α}
    (hitem : item ∈ items) {result : β} (hresult : f item = .ok result) : result ∈ results := by
  induction mapM_eq_ok_iff.mp hresults with
  | nil => exact nomatch hitem
  | cons hhead hrest ih =>
      rcases List.mem_cons.mp hitem with rfl | hmem
      · obtain rfl := Except.ok.inj (hhead.symm.trans hresult)
        exact List.mem_cons_self
      · exact List.mem_cons_of_mem _ (ih (mapM_eq_ok_iff.mpr hrest) hmem)

/-- Each result is what some item comes to. -/
theorem exists_of_mem_of_mapM_eq_ok {results : List β} (hresults : items.mapM f = .ok results)
    {result : β} (hresult : result ∈ results) : ∃ item ∈ items, f item = .ok result := by
  induction mapM_eq_ok_iff.mp hresults with
  | nil => exact nomatch hresult
  | @cons item head items results hhead hrest ih =>
      rcases List.mem_cons.mp hresult with rfl | hmem
      · exact ⟨item, List.mem_cons_self, hhead⟩
      · obtain ⟨other, hother, hof⟩ := ih (mapM_eq_ok_iff.mpr hrest) hmem
        exact ⟨other, List.mem_cons_of_mem _ hother, hof⟩

theorem mapM_congr {g : α → Except ε β} (hsame : ∀ item ∈ items, f item = g item) :
    items.mapM f = items.mapM g := by
  induction items with
  | nil => rfl
  | cons head rest ih =>
      obtain ⟨hhead, hrest⟩ := List.forall_mem_cons.mp hsame
      rw [List.mapM_cons, List.mapM_cons, hhead, ih hrest]

/-- A list is split at its head, or in the rest with the head among what comes
before. -/
theorem exists_first_cons_iff {p q : α → Prop} {head : α} {rest : List α} :
    (∃ before item after, head :: rest = before ++ item :: after ∧
        (∀ earlier ∈ before, p earlier) ∧ q item) ↔
      q head ∨ p head ∧ ∃ before item after, rest = before ++ item :: after ∧
        (∀ earlier ∈ before, p earlier) ∧ q item := by
  constructor
  · rintro ⟨before, item, after, hitems, hbefore, hitem⟩
    cases before with
    | nil =>
        obtain ⟨rfl, -⟩ := List.cons.inj hitems
        exact Or.inl hitem
    | cons first others =>
        obtain ⟨rfl, hrest⟩ := List.cons.inj hitems
        obtain ⟨hhead, hothers⟩ := List.forall_mem_cons.mp hbefore
        exact Or.inr ⟨hhead, others, item, after, hrest, hothers, hitem⟩
  · rintro (hhead | ⟨hhead, before, item, after, rfl, hbefore, hitem⟩)
    · exact ⟨[], head, rest, rfl, nofun, hhead⟩
    · exact ⟨head :: before, item, after, rfl, List.forall_mem_cons.mpr ⟨hhead, hbefore⟩, hitem⟩

/-- Going through a list fails with the error of the first item that fails. -/
theorem mapM_eq_error_iff {error : ε} :
    items.mapM f = .error error ↔
      ∃ before item after, items = before ++ item :: after ∧
        (∀ earlier ∈ before, ∃ result, f earlier = .ok result) ∧ f item = .error error := by
  induction items with
  | nil => simp [pure, Except.pure]
  | cons head rest ih =>
      rw [exists_first_cons_iff, ← ih, List.mapM_cons]
      cases hhead : f head with
      | error reason => simp [bind, Except.bind]
      | ok value => cases rest.mapM f <;> simp [bind, Except.bind, pure, Except.pure]

end

section

variable {σ α β ε : Type} {program : ExceptT ε (StateM σ) α} {next : α → ExceptT ε (StateM σ) β}
  {before after : σ}

theorem run_bind_eq (program : ExceptT ε (StateM σ) α) (next : α → ExceptT ε (StateM σ) β)
    (before : σ) :
    (program >>= next).run.run before =
      match program.run.run before with
      | (.ok result, middle) => (next result).run.run middle
      | (.error error, middle) => (.error error, middle) := by
  rw [ExceptT.run_bind, StateT.run_bind]
  generalize program.run.run before = outcome
  obtain ⟨_ | _, middle⟩ := outcome <;> rfl

theorem run_bind_eq_ok_iff {result : β} :
    (program >>= next).run.run before = (.ok result, after) ↔ ∃ first middle,
      program.run.run before = (.ok first, middle) ∧
      (next first).run.run middle = (.ok result, after) := by
  rw [run_bind_eq]
  generalize program.run.run before = outcome
  obtain ⟨error | first, middle⟩ := outcome
  · constructor
    · intro herror
      cases herror
    · rintro ⟨first, middle, ⟨⟩, -⟩
  · constructor
    · intro hnext
      exact ⟨first, middle, rfl, hnext⟩
    · rintro ⟨first, middle, ⟨⟩, hnext⟩
      exact hnext

theorem run_bind_eq_error_iff {error : ε} :
    (program >>= next).run.run before = (.error error, after) ↔
      program.run.run before = (.error error, after) ∨ ∃ first middle,
        program.run.run before = (.ok first, middle) ∧
        (next first).run.run middle = (.error error, after) := by
  rw [run_bind_eq]
  generalize program.run.run before = outcome
  obtain ⟨cause | first, middle⟩ := outcome
  · constructor
    · intro herror
      cases herror
      exact Or.inl rfl
    · rintro (herror | ⟨first, middle, ⟨⟩, -⟩)
      cases herror
      rfl
  · constructor
    · intro hnext
      exact Or.inr ⟨first, middle, rfl, hnext⟩
    · rintro (⟨⟨⟩⟩ | ⟨first, middle, ⟨⟩, hnext⟩)
      exact hnext

end

end TableScribe
