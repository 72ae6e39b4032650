/-
The way from a program to its result.  A program that is carried out passes
through finitely many moments, and they are the ones that its run reaches, so
what holds at every moment of a run holds all the way through a rendering.
-/
import TableScribe.Proofs.Render.Returning

namespace TableScribe

variable {α : Type}

namespace Moment

/-- Moments one after the other, from a first one to a last one. -/
inductive Passage : Moment α → List (Moment α) → Moment α → Prop
  | last (moment : Moment α) : Passage moment [moment] moment
  | step {first second last : Moment α} {moments : List (Moment α)} (hstep : Step first second)
      (hrest : Passage second moments last) : Passage first (first :: moments) last

/-- One moment leads to another exactly if there is a passage from it. -/
theorem exists_passage_iff_leads {first last : Moment α} :
    (∃ moments, Passage first moments last) ↔ Leads first last := by
  constructor
  · rintro ⟨moments, hpassage⟩
    induction hpassage with
    | last moment => exact Relation.ReflTransGen.refl
    | step hstep _ ih => exact ih.head hstep
  · intro hleads
    induction hleads using Relation.ReflTransGen.head_induction_on with
    | refl => exact ⟨[last], .last last⟩
    | head hstep _ ih =>
        obtain ⟨moments, hpassage⟩ := ih
        exact ⟨_, .step hstep hpassage⟩

/-- A passage to the end of a run leaves out no moment of the run, for a moment
has one next moment only. -/
theorem Passage.mem_iff {first last moment : Moment α} {moments : List (Moment α)}
    (hpassage : Passage first moments last) (hlast : last.next? = none) :
    moment ∈ moments ↔ Leads first moment := by
  induction hpassage with
  | last only =>
      rw [List.mem_singleton]
      constructor
      · rintro rfl
        exact Relation.ReflTransGen.refl
      · intro hleads
        rcases hleads.cases_head with heq | ⟨second, hstep, -⟩
        · exact heq.symm
        · simp [Step, hlast] at hstep
  | @step first second last moments hstep hrest ih =>
      rw [List.mem_cons, ih hlast]
      constructor
      · rintro (rfl | hleads)
        · exact Relation.ReflTransGen.refl
        · exact hleads.head hstep
      · intro hleads
        rcases hleads.cases_head with heq | ⟨other, hother, hleads⟩
        · exact Or.inl heq.symm
        · obtain rfl : second = other := Option.some.inj (hstep.symm.trans hother)
          exact Or.inr hleads

/-- A program that is carried out passes through the moments that its run
reaches, and ends with its result. -/
theorem exists_passage_of_run {limit : Nat} {program : Program α} {generator : Generator}
    {final : α × Generator}
    (hrun : program.run (Generator.carryOut limit) generator = some final) :
    ∃ moments, Passage (outside program generator) moments (outside (.done final.1) final.2) ∧
      ∀ moment, moment ∈ moments ↔ Leads (outside program generator) moment := by
  obtain ⟨moments, hpassage⟩ := exists_passage_iff_leads.mpr (run_iff_leads.mp ⟨limit, hrun⟩)
  exact ⟨moments, hpassage, fun moment => hpassage.mem_iff rfl⟩

end Moment

namespace Generator

/-- A rendering with a new generator has all properties that the moments of its
run have, at each moment that it passes through. -/
theorem exists_passage_of_render {registry : Registry} {model : Model} {rendered : Rendered}
    {after : Generator} (hrender : (new registry).render model = some (rendered, after))
    {property : Moment Rendered → Prop}
    (hproperty : ∀ moment, Moment.Reached registry (ViewM.render model).run moment →
      property moment) :
    ∃ moments, Moment.Passage (Moment.start registry (ViewM.render model).run) moments
        (.outside (.done rendered) after) ∧ ∀ moment ∈ moments, property moment := by
  obtain ⟨moments, hpassage, hmem⟩ := Moment.exists_passage_of_run hrender
  exact ⟨moments, hpassage, fun moment hmoment => hproperty moment ((hmem moment).mp hmoment)⟩

end Generator

end TableScribe
