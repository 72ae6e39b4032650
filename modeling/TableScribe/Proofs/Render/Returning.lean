/-
The engine and the runs of its moments agree: a program that is carried out
comes to a result exactly if its run reaches that result.
-/
import TableScribe.Proofs.Render.Moment

namespace TableScribe

variable {α : Type}

/-- A program comes to the same result if more requests can be carried out. -/
theorem Program.run_mono {first second : Call → Generator → Option (Rendered × Generator)}
    (hmore : ∀ call generator result, first call generator = some result →
      second call generator = some result)
    (program : Program α) {generator : Generator} {result : α × Generator}
    (hrun : program.run first generator = some result) :
    program.run second generator = some result := by
  induction program generalizing generator with
  | done value => exact hrun
  | ask query next ih => exact ih _ hrun
  | call call next ih =>
      cases hcall : first call generator with
      | none => simp [Program.run, hcall] at hrun
      | some reply =>
          simp only [Program.run, hcall] at hrun
          simp only [Program.run, hmore call generator reply hcall]
          exact ih _ hrun

namespace Generator

theorem carryOut_succ {limit : Nat} {call : Call} {generator : Generator}
    {result : Rendered × Generator} (hcall : carryOut limit call generator = some result) :
    carryOut (limit + 1) call generator = some result := by
  induction limit generalizing call generator result with
  | zero => simp [carryOut] at hcall
  | succ limit ih =>
      cases call with
      | render model =>
          simp only [carryOut] at hcall ⊢
          cases hview : generator.registry.get? model.kind with
          | none => simpa only [hview] using hcall
          | some view =>
              simp only [hview] at hcall ⊢
              cases hrun : (view model).run.run (carryOut limit) (generator.enter model) with
              | none => simp [hrun] at hcall
              | some reply =>
                  have hmore := Program.run_mono (fun _ _ _ => ih) _ hrun
                  simpa only [hrun, hmore] using hcall
      | view kind model =>
          simp only [carryOut] at hcall ⊢
          cases hview : generator.registry.get? kind with
          | none => simpa only [hview] using hcall
          | some view =>
              simp only [hview] at hcall ⊢
              exact Program.run_mono (fun _ _ _ => ih) _ hcall

/-- A request that is carried out with some nesting is carried out with more. -/
theorem carryOut_mono {limit more : Nat} (hle : limit ≤ more) {call : Call}
    {generator : Generator} {result : Rendered × Generator}
    (hcall : carryOut limit call generator = some result) :
    carryOut more call generator = some result := by
  obtain ⟨extra, rfl⟩ := Nat.exists_eq_add_of_le hle
  induction extra with
  | zero => exact hcall
  | succ extra ih => exact carryOut_succ (ih (Nat.le_add_right limit extra))

end Generator

namespace Moment

theorem Leads.head {first second last : Moment α} (hstep : first.next? = some second)
    (hleads : Leads second last) : Leads first last :=
  Relation.ReflTransGen.head hstep hleads

/-- A program in a view leads to its result if every request it makes leads
to the reply to it. -/
theorem leads_done_inside {carryOut : Call → Generator → Option (Rendered × Generator)}
    (hcalls : ∀ call generator rendered after (waiting : Waiting α),
      carryOut call generator = some (rendered, after) →
        Leads (request waiting generator call) (waiting.resume rendered after))
    (activation : Activation) (waiting : Waiting α) (program : Program Rendered)
    {generator after : Generator} {rendered : Rendered}
    (hrun : program.run carryOut generator = some (rendered, after)) :
    Leads (inside activation program waiting generator)
      (inside activation (.done rendered) waiting after) := by
  induction program generalizing generator with
  | done value =>
      simp only [Program.run, Option.some.injEq, Prod.mk.injEq] at hrun
      obtain ⟨rfl, rfl⟩ := hrun
      exact Relation.ReflTransGen.refl
  | ask query next ih => exact Leads.head rfl (ih _ hrun)
  | call call next ih =>
      cases hcall : carryOut call generator with
      | none => simp [Program.run, hcall] at hrun
      | some reply =>
          simp only [Program.run, hcall] at hrun
          exact Leads.head rfl
            ((hcalls call generator reply.1 reply.2 (.view activation next waiting) hcall).trans
              (ih reply.1 hrun))

/-- A request that is carried out leads to the moment at which its text is
handed over. -/
theorem leads_resume {limit : Nat} {call : Call} {generator after : Generator}
    {rendered : Rendered} (waiting : Waiting α)
    (hcall : Generator.carryOut limit call generator = some (rendered, after)) :
    Leads (request waiting generator call) (waiting.resume rendered after) := by
  induction limit generalizing call generator after rendered waiting with
  | zero => simp [Generator.carryOut] at hcall
  | succ limit ih =>
      have hcalls : ∀ call generator rendered after (waiting : Waiting α),
          Generator.carryOut limit call generator = some (rendered, after) →
            Leads (request waiting generator call) (waiting.resume rendered after) :=
        fun _ _ _ _ waiting hcall => ih waiting hcall
      cases call with
      | render model =>
          simp only [Generator.carryOut] at hcall
          simp only [request]
          cases hview : generator.registry.get? model.kind with
          | none =>
              simp only [hview, Option.some.injEq, Prod.mk.injEq] at hcall
              obtain ⟨rfl, rfl⟩ := hcall
              exact Relation.ReflTransGen.refl
          | some view =>
              simp only [hview] at hcall
              cases hrun : (view model).run.run (Generator.carryOut limit)
                  (generator.enter model) with
              | none => simp [hrun] at hcall
              | some reply =>
                  simp only [hrun, Option.some.injEq, Prod.mk.injEq] at hcall
                  obtain ⟨rfl, rfl⟩ := hcall
                  exact (leads_done_inside hcalls ⟨model.kind, model, true⟩ waiting _ hrun).tail rfl
      | view kind model =>
          simp only [Generator.carryOut] at hcall
          simp only [request]
          cases hview : generator.registry.get? kind with
          | none =>
              simp only [hview, Option.some.injEq, Prod.mk.injEq] at hcall
              obtain ⟨rfl, rfl⟩ := hcall
              exact Relation.ReflTransGen.refl
          | some view =>
              simp only [hview] at hcall
              exact (leads_done_inside hcalls ⟨kind, model, false⟩ waiting _ hcall).tail rfl

end Moment

/-- A text handed over makes the whole run end in a given way. -/
def Waiting.Ends (final : α × Generator) : Waiting α → Rendered → Generator → Prop
  | caller next, rendered, generator =>
    ∃ limit, (next rendered).run (Generator.carryOut limit) generator = some final
  | view activation next below, rendered, generator =>
    ∃ limit text after,
      (next rendered).run (Generator.carryOut limit) generator = some (text, after) ∧
        below.Ends final text (activation.close after)

namespace Moment

/-- Carrying out what is left at a moment ends in a given way. -/
def Ends (final : α × Generator) : Moment α → Prop
  | outside program generator =>
    ∃ limit, program.run (Generator.carryOut limit) generator = some final
  | inside activation program waiting generator =>
    ∃ limit text after, program.run (Generator.carryOut limit) generator = some (text, after) ∧
      waiting.Ends final text (activation.close after)

theorem ends_resume_iff {final : α × Generator} (waiting : Waiting α) (rendered : Rendered)
    (generator : Generator) :
    (waiting.resume rendered generator).Ends final ↔ waiting.Ends final rendered generator := by
  cases waiting <;> rfl

theorem ends_request {final : α × Generator} {waiting : Waiting α} {generator : Generator}
    {call : Call} (hends : (request waiting generator call).Ends final) :
    ∃ limit rendered after, Generator.carryOut limit call generator = some (rendered, after) ∧
      waiting.Ends final rendered after := by
  cases call with
  | render model =>
      simp only [request] at hends
      cases hview : generator.registry.get? model.kind with
      | none =>
          simp only [hview] at hends
          exact ⟨1, _, _, by simp only [Generator.carryOut, hview],
            (ends_resume_iff waiting _ _).mp hends⟩
      | some view =>
          simp only [hview] at hends
          obtain ⟨limit, text, after, hrun, hwaiting⟩ := hends
          exact ⟨limit + 1, text, after.leave model.kind,
            by simp only [Generator.carryOut, hview, hrun], hwaiting⟩
  | view kind model =>
      simp only [request] at hends
      cases hview : generator.registry.get? kind with
      | none =>
          simp only [hview] at hends
          exact ⟨1, _, _, by simp only [Generator.carryOut, hview],
            (ends_resume_iff waiting _ _).mp hends⟩
      | some view =>
          simp only [hview] at hends
          obtain ⟨limit, text, after, hrun, hwaiting⟩ := hends
          exact ⟨limit + 1, text, after, by simp only [Generator.carryOut, hview, hrun],
            hwaiting⟩

theorem run_call {first second : Nat} {call : Call} {next : Rendered → Program α}
    {generator after : Generator} {rendered : Rendered} {result : α × Generator}
    (hcall : Generator.carryOut first call generator = some (rendered, after))
    (hnext : (next rendered).run (Generator.carryOut second) after = some result) :
    (Program.call call next).run (Generator.carryOut (max first second)) generator =
      some result := by
  simp only [Program.run, Generator.carryOut_mono (Nat.le_max_left first second) hcall]
  exact Program.run_mono
    (fun _ _ _ => Generator.carryOut_mono (Nat.le_max_right first second)) _ hnext

/-- What is left after a step ends as what was left before it. -/
theorem ends_of_step {final : α × Generator} {first second : Moment α}
    (hstep : Step first second) (hends : second.Ends final) : first.Ends final := by
  cases turns_of_step hstep with
  | askOutside query next generator => exact hends
  | callOutside call next generator =>
      obtain ⟨first, rendered, after, hcall, second, hnext⟩ := ends_request hends
      exact ⟨max first second, run_call hcall hnext⟩
  | doneInside activation rendered waiting generator =>
      exact ⟨0, rendered, generator, rfl, (ends_resume_iff waiting _ _).mp hends⟩
  | askInside activation query next waiting generator => exact hends
  | callInside activation call next waiting generator =>
      obtain ⟨first, rendered, after, hcall, second, text, last, hnext, hbelow⟩ :=
        ends_request hends
      exact ⟨max first second, text, last, run_call hcall hnext, hbelow⟩

/-- A program that is carried out leads to its result. -/
theorem leads_outside {limit : Nat} {program : Program α} {generator : Generator}
    {final : α × Generator}
    (hrun : program.run (Generator.carryOut limit) generator = some final) :
    Leads (outside program generator) (outside (.done final.1) final.2) := by
  induction program generalizing generator with
  | done value =>
      simp only [Program.run, Option.some.injEq] at hrun
      subst hrun
      exact Relation.ReflTransGen.refl
  | ask query next ih => exact Leads.head rfl (ih _ hrun)
  | call call next ih =>
      cases hcall : Generator.carryOut limit call generator with
      | none => simp [Program.run, hcall] at hrun
      | some reply =>
          simp only [Program.run, hcall] at hrun
          exact Leads.head rfl ((leads_resume (.caller next) hcall).trans (ih reply.1 hrun))

/-- The results of a program are those that its run reaches. -/
theorem run_iff_leads {program : Program α} {generator : Generator} {final : α × Generator} :
    (∃ limit, program.run (Generator.carryOut limit) generator = some final) ↔
      Leads (outside program generator) (outside (.done final.1) final.2) := by
  constructor
  · rintro ⟨limit, hrun⟩
    exact leads_outside hrun
  · intro hleads
    change (outside program generator).Ends final
    generalize outside program generator = first at hleads ⊢
    induction hleads using Relation.ReflTransGen.head_induction_on with
    | refl => exact ⟨0, rfl⟩
    | head hstep _ ih => exact ends_of_step hstep ih

end Moment

end TableScribe
