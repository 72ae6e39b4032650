/-
Rendering leaves no trace in the generator, however the views nest, fail and
recover, and a view finds its own model on top of its context whenever it is
in control.
-/
import TableScribe.Proofs.Render.Contexts

namespace TableScribe

variable {α : Type}

/-- Two moments in one call of a view, or both outside all views. -/
inductive Moment.SameCall : Moment α → Moment α → Prop
  | outside (first second : Program α) (before after : Generator) :
      SameCall (.outside first before) (.outside second after)
  | inside (activation : Activation) (first second : Program Rendered) (waiting : Waiting α)
      (before after : Generator) :
      SameCall (.inside activation first waiting before) (.inside activation second waiting after)

theorem Moment.SameCall.stack_eq {first second : Moment α} (hsame : first.SameCall second) :
    second.stack = first.stack := by
  cases hsame <;> rfl

/-- What a moment of a run keeps of the generator.  A rendering that comes to a
result passes through such moments only, `Generator.restores_throughout_render`. -/
structure Moment.Restores (registry : Registry) (driver : Program α) (moment : Moment α) :
    Prop where
  /-- A rendering that returns, with a text or an error, gives the generator
  back as it was. -/
  render : ∀ model rendered after,
    moment.generator.render model = some (rendered, after) → after = moment.generator
  renderAll : ∀ models separator rendered after,
    moment.generator.renderAll models separator = some (rendered, after) →
      after = moment.generator
  /-- Whenever control is back in the same call, whatever it requested in
  between and however that ended, the generator is as it was. -/
  sameCall : ∀ other : Moment α, Moment.Reached registry driver other → moment.SameCall other →
    other.generator = moment.generator
  /-- While control is in the view that renders a model, the innermost model of
  its kind is the model itself. -/
  own : ∀ activation program waiting generator carryOut,
    moment = .inside activation program waiting generator → activation.renders = true →
      (ViewM.last activation.model.kind).run.run carryOut generator =
        some (.ok activation.model, generator)
  /-- An idle generator is a new one, so whatever is rendered next comes out as
  from a new one. -/
  idle : moment.generator.isIdle = true → moment.generator = Generator.new registry ∧
    (∀ model, moment.generator.render model = (Generator.new registry).render model) ∧
    ∀ models separator, moment.generator.renderAll models separator =
      (Generator.new registry).renderAll models separator

theorem Moment.restores_of_reached {registry : Registry} {driver : Program α} {moment : Moment α}
    (hreached : Reached registry driver moment) : moment.Restores registry driver := by
  have hgenerator := generator_of_reached hreached
  refine ⟨?_, ?_, ?_, ?_, ?_⟩
  · intro model rendered after hrender
    exact Generator.perform_restores hrender
  · intro models separator rendered after hrender
    exact Generator.perform_restores hrender
  · intro other hother hsame
    rw [generator_of_reached hother, hsame.stack_eq, hgenerator]
  · intro activation program waiting generator carryOut hmoment hrenders
    subst hmoment
    have hlast := (Generator.projects_enterAll_new registry
      (inside activation program waiting generator).stack).last activation.model.kind carryOut
    rw [← hgenerator] at hlast
    simpa [stack, Activation.opened, hrenders, Moment.generator] using hlast
  · intro hidle
    rw [generator_eq_new hreached hidle]
    exact ⟨rfl, fun _ => rfl, fun _ _ => rfl⟩

/-- The generator is restored all the way through a rendering, from the model to
its text. -/
theorem Generator.restores_throughout_render {registry : Registry} {model : Model}
    {rendered : Rendered} {after : Generator}
    (hrender : (new registry).render model = some (rendered, after)) :
    ∃ moments, Moment.Passage (Moment.start registry (ViewM.render model).run) moments
        (.outside (.done rendered) after) ∧
      ∀ moment ∈ moments, moment.Restores registry (ViewM.render model).run :=
  exists_passage_of_render hrender fun _ => Moment.restores_of_reached

/-- Rendering restores the generator at every moment of every run. -/
theorem rendering_restores_generator (registry : Registry) (driver : Program α)
    {moment : Moment α} (hreached : Moment.Reached registry driver moment) :
    moment.Restores registry driver :=
  Moment.restores_of_reached hreached

/-- The class view has swallowed the failure of the field inside it. -/
theorem rendering_restores_generator_after_recovery :
    Moment.Reached Recovery.registry (ViewM.render Recovery.owner).run (Recovery.momentAfter 3) ∧
      (Recovery.momentAfter 3).stack = [Recovery.owner] ∧
      (Recovery.momentAfter 3).Restores Recovery.registry (ViewM.render Recovery.owner).run :=
  ⟨Moment.leads_after _ 3, rfl,
    rendering_restores_generator Recovery.registry _ (Moment.leads_after _ 3)⟩

end TableScribe
