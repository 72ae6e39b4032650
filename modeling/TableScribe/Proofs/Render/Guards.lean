/-
Checks that never fail.  Contexts are pushed by kind and a built registry has a
view for every kind, so whatever the views do, a context holds models of its own
kind only, rendering always finds a view, and the view it finds is one for the
kind of the model.
-/
import TableScribe.Proofs.Java.Refusals
import TableScribe.Proofs.Render.Installing
import TableScribe.Proofs.Render.Restoring

namespace TableScribe

variable {α : Type}

/-- The views that wait for others, innermost first. -/
def Waiting.activations : Waiting α → List Activation
  | caller _ => []
  | view activation _ below => activation :: below.activations

/-- The views at work at a moment, innermost first. -/
def Moment.activations : Moment α → List Activation
  | outside _ _ => []
  | inside activation _ waiting _ => activation :: waiting.activations

/-- A view that was called to render a model is the one for the kind of the
model. -/
def Activation.Fits (activation : Activation) : Prop :=
  activation.renders = true → activation.kind = activation.model.kind

namespace Moment

theorem activations_resume (waiting : Waiting α) (rendered : Rendered) (generator : Generator) :
    (waiting.resume rendered generator).activations = waiting.activations := by
  cases waiting <;> rfl

theorem fits_request (waiting : Waiting α)
    (hwaiting : ∀ activation ∈ waiting.activations, activation.Fits) (generator : Generator)
    (call : Call) :
    ∀ activation ∈ (request waiting generator call).activations, activation.Fits := by
  cases call with
  | render model =>
      simp only [request]
      split
      · rwa [activations_resume]
      · exact List.forall_mem_cons.mpr ⟨fun _ => rfl, hwaiting⟩
  | view kind model =>
      simp only [request]
      split
      · rwa [activations_resume]
      · exact List.forall_mem_cons.mpr
          ⟨fun hrenders => absurd hrenders Bool.false_ne_true, hwaiting⟩

theorem fits_of_step {first second : Moment α} (hstep : Step first second)
    (hfits : ∀ activation ∈ first.activations, activation.Fits) :
    ∀ activation ∈ second.activations, activation.Fits := by
  cases turns_of_step hstep with
  | askOutside query next generator => exact hfits
  | callOutside call next generator => exact fits_request (.caller next) hfits generator call
  | doneInside activation rendered waiting generator =>
      rw [activations_resume]
      exact (List.forall_mem_cons.mp hfits).2
  | askInside activation query next waiting generator => exact hfits
  | callInside activation call next waiting generator =>
      exact fits_request (.view activation next waiting) hfits generator call

theorem fits_of_leads {first last : Moment α} (hleads : Leads first last)
    (hfits : ∀ activation ∈ first.activations, activation.Fits) :
    ∀ activation ∈ last.activations, activation.Fits := by
  induction hleads with
  | refl => exact hfits
  | tail _ hstep ih => exact fits_of_step hstep ih

end Moment

/-- A program that fails with errors of some sort only after it was handed one. -/
def Program.HandsOn (sort : RenderError → Prop) : Program Rendered → Prop
  | done rendered => ∀ error, rendered = .error error → ¬ sort error
  | ask _ next => ∀ answer, (next answer).HandsOn sort
  | call _ next => ∀ rendered, (∀ error, rendered = .error error → ¬ sort error) →
    (next rendered).HandsOn sort

theorem Program.HandsOn.run {sort : RenderError → Prop}
    {carryOut : Call → Generator → Option (Rendered × Generator)} {generator : Generator}
    (hcarry : ∀ call rendered after, carryOut call generator = some (rendered, after) →
      after = generator ∧ ∀ error, rendered = .error error → ¬ sort error)
    {program : Program Rendered} (hprogram : program.HandsOn sort) {rendered : Rendered}
    {after : Generator} (hrun : program.run carryOut generator = some (rendered, after)) :
    ∀ error, rendered = .error error → ¬ sort error := by
  induction program with
  | done result =>
      obtain ⟨rfl, -⟩ := Prod.mk.inj (Option.some.inj hrun)
      exact hprogram
  | ask query next ih => exact ih _ (hprogram _) hrun
  | call call next ih =>
      cases hcall : carryOut call generator with
      | none => simp [Program.run, hcall] at hrun
      | some reply =>
          obtain ⟨hsame, hreply⟩ := hcarry call reply.1 reply.2 hcall
          simp only [Program.run, hcall, hsame] at hrun
          exact ih _ (hprogram _ hreply) hrun

namespace Generator

/-- If all views only hand on errors of some sort, no request fails with one,
for a view is found for every request. -/
theorem carryOut_spares {sort : RenderError → Prop} {registry : Registry}
    (hviews : ∀ kind view, registry.get? kind = some view →
      ∀ model, (view model).run.HandsOn sort)
    {limit : Nat} {call : Call} {generator after : Generator} {rendered : Rendered}
    (hregistry : generator.registry = registry)
    (hcall : carryOut limit call generator = some (rendered, after)) :
    ∀ error, rendered = .error error → ¬ sort error := by
  induction limit generalizing call generator after rendered with
  | zero => simp [carryOut] at hcall
  | succ limit ih =>
      have hcarry {inner : Generator} (hinner : inner.registry = registry) :
          ∀ call rendered after, carryOut limit call inner = some (rendered, after) →
            after = inner ∧ ∀ error, rendered = .error error → ¬ sort error :=
        fun call rendered after hcall => ⟨carryOut_restores hcall, ih hinner hcall⟩
      cases call with
      | render model =>
          obtain ⟨view, hview⟩ := registry.exists_get?_eq_some model.kind
          simp only [carryOut, hregistry, hview] at hcall
          cases hrun : (view model).run.run (carryOut limit) (generator.enter model) with
          | none => simp [hrun] at hcall
          | some reply =>
              simp only [hrun, Option.some.injEq, Prod.mk.injEq] at hcall
              obtain ⟨rfl, -⟩ := hcall
              have hinner : (generator.enter model).registry = registry := hregistry
              exact (hviews _ _ hview model).run (hcarry hinner) hrun
      | view kind model =>
          obtain ⟨view, hview⟩ := registry.exists_get?_eq_some kind
          simp only [carryOut, hregistry, hview] at hcall
          exact (hviews _ _ hview model).run (hcarry hregistry) hcall

theorem exists_carryOut_of_render {generator : Generator} {model : Model}
    {result : Rendered × Generator} (hrender : generator.render model = some result) :
    ∃ limit, carryOut limit (.render model) generator = some result := by
  unfold render perform at hrender
  generalize maxHeight ([model].map fun model => model.node.height) + headroom = limit at hrender
  change (Program.call (.render model) .done).run (carryOut limit) generator = _ at hrender
  cases hcall : carryOut limit (.render model) generator with
  | none => simp [Program.run, hcall] at hrender
  | some reply =>
      simp only [Program.run, hcall] at hrender
      exact ⟨limit, hcall.trans hrender⟩

end Generator

theorem ViewM.run_lastChecked (carryOut : Call → Generator → Option (Rendered × Generator))
    (registry : Registry) (stack : List Model) (kind : Kind) :
    (lastChecked kind).run.run carryOut ((Generator.new registry).enterAll stack) =
      some ((stack.find? fun model => model.kind = kind).elim (.error (.noAncestor kind)) .ok,
        (Generator.new registry).enterAll stack) := by
  rw [lastChecked, last, bind_assoc, run_ask_bind, Generator.answer_last_enterAll_new]
  cases hfound : stack.find? fun model => model.kind = kind with
  | none => rfl
  | some model =>
      have hkind : model.kind = kind := by simpa using List.find?_some hfound
      rw [pure_bind, if_pos hkind]
      rfl

/-- What holds at a moment of a run over a registry that was built, and so
throughout each rendering, `Generator.guarded_throughout_render`. -/
structure Moment.Guarded (builder : RegistryBuilder) (moment : Moment α) : Prop where
  /-- A context holds models of its own kind. -/
  contexts : ∀ kind, ∀ entry ∈ (moment.generator.contexts.get kind).entries,
    entry.model.kind = kind
  /-- The second check of the kind is passed, so there is an error only if no
  model of the kind is being rendered. -/
  lastChecked : ∀ kind carryOut, (ViewM.lastChecked kind).run.run carryOut moment.generator =
    some ((moment.stack.find? fun model => model.kind = kind).elim
      (.error (.noAncestor kind)) .ok, moment.generator)
  noAncestor : ∀ kind carryOut, (ViewM.lastChecked kind).run.run carryOut moment.generator =
      some (.error (.noAncestor kind), moment.generator) ↔ moment.generator.depth kind = 0
  /-- Rendering runs the view that was installed for the kind of the model. -/
  render : ∀ model, ∃ view, builder.views.get model.kind = some view ∧
    ∀ waiting : Waiting α, request waiting moment.generator (.render model) =
      .inside ⟨model.kind, model, true⟩ (view model).run waiting (moment.generator.enter model)
  /-- So it fails for want of a view only if a view says so. -/
  dispatch : (∀ kind view, builder.views.get kind = some view → ∀ model,
      (view model).run.HandsOn fun error => ∃ missing, error = .dispatch missing) →
    ∀ model kind after, moment.generator.render model ≠ some (.error (.dispatch kind), after)
  /-- Every view that was called by a rendering has a model of its own kind. -/
  fits : ∀ activation ∈ moment.activations, activation.Fits

theorem Moment.guarded_of_reached {builder : RegistryBuilder} {registry : Registry}
    (hbuild : builder.build = .ok registry) {driver : Program α} {moment : Moment α}
    (hreached : Moment.Reached registry driver moment) : moment.Guarded builder := by
  have hgenerator := generator_of_reached hreached
  have hregistry : moment.generator.registry = registry := by
    rw [hgenerator, Generator.registry_enterAll_new]
  refine ⟨?_, ?_, ?_, ?_, ?_, ?_⟩
  · intro kind entry hentry
    rw [hgenerator, Generator.entries_enterAll_new] at hentry
    simpa using (List.mem_filter.mp hentry).2
  · intro kind carryOut
    rw [hgenerator, ViewM.run_lastChecked]
  · intro kind carryOut
    rw [hgenerator, ViewM.run_lastChecked, Generator.depth_enterAll_new, List.countP_eq_zero]
    cases hfound : moment.stack.find? fun model => model.kind = kind with
    | none => simpa using hfound
    | some model =>
        have hmem := List.mem_of_find?_eq_some hfound
        have hkind := List.find?_some hfound
        simp only [Option.elim_some, Option.some.injEq, Prod.mk.injEq, reduceCtorEq, false_and,
          false_iff, not_forall]
        exact ⟨model, hmem, not_not.mpr hkind⟩
  · intro model
    obtain ⟨view, hview⟩ := registry.exists_get?_eq_some model.kind
    refine ⟨view, (RegistryBuilder.get?_of_build hbuild model.kind).symm.trans hview, ?_⟩
    intro waiting
    simp only [request, hregistry, hview]
  · intro hviews model kind after hrender
    obtain ⟨limit, hcall⟩ := Generator.exists_carryOut_of_render hrender
    have hregistered : ∀ other view, registry.get? other = some view → ∀ model,
        (view model).run.HandsOn fun error => ∃ missing, error = .dispatch missing :=
      fun other view hview =>
        hviews other view ((RegistryBuilder.get?_of_build hbuild other).symm.trans hview)
    exact Generator.carryOut_spares hregistered hregistry hcall _ rfl ⟨kind, rfl⟩
  · exact fits_of_leads hreached fun activation hactivation => absurd hactivation List.not_mem_nil

/-- The checks are passed all the way through a rendering, from the model to its
text. -/
theorem Generator.guarded_throughout_render {builder : RegistryBuilder} {registry : Registry}
    (hbuild : builder.build = .ok registry) {model : Model} {rendered : Rendered}
    {after : Generator} (hrender : (new registry).render model = some (rendered, after)) :
    ∃ moments, Moment.Passage (Moment.start registry (ViewM.render model).run) moments
        (.outside (.done rendered) after) ∧
      ∀ moment ∈ moments, moment.Guarded builder :=
  exists_passage_of_render hrender fun _ => Moment.guarded_of_reached hbuild

theorem RegistryBuilder.build_java : RegistryBuilder.java.build = .ok Registry.java := rfl

/-- At every moment of every run over a built registry the checks of the engine
are passed; and with the Java views, no view is handed a model of another kind by
the rendering of a tree, even where a view was called directly on one. -/
theorem guards_never_fail {builder : RegistryBuilder} {registry : Registry}
    (hbuild : builder.build = .ok registry) (driver : Program α) {moment : Moment α}
    (hreached : Moment.Reached registry driver moment) :
    moment.Guarded builder ∧
      (builder = .java → ∀ model, ∃ rendered,
        moment.generator.render model = some (rendered, moment.generator) ∧
          ∀ expected actual, rendered ≠ .error (.mismatch expected actual)) := by
  refine ⟨Moment.guarded_of_reached hbuild hreached, ?_⟩
  rintro rfl model
  obtain rfl : registry = Registry.java := by
    rw [RegistryBuilder.build_java] at hbuild
    exact (Except.ok.inj hbuild).symm
  rw [Moment.generator_of_reached hreached]
  refine ⟨_, Generator.render_enterAll_new Java.java_descends moment.stack model, ?_⟩
  intro expected actual hmismatch
  exact Java.not_complains_mismatch expected actual (Java.complains_of_text_eq_error hmismatch)

namespace Foreign

def field : Model := Model.root 0 (.field (.plain "id" .void))

/-- The class view, called directly on a field. -/
def driver : Program Rendered := (ViewM.call (.view .classDecl field)).run

def momentAfter (steps : Nat) : Moment Rendered := (Moment.start Registry.java driver).after steps

end Foreign

/-- The class view is about to refuse the field; rendering the field still goes to
the field view. -/
theorem guards_never_fail_inside_foreign_view :
    RegistryBuilder.java.build = .ok Registry.java ∧
      Moment.Reached Registry.java Foreign.driver (Foreign.momentAfter 1) ∧
      (Foreign.momentAfter 1).activations = [⟨.classDecl, Foreign.field, false⟩] ∧
      Foreign.momentAfter 2 =
        .outside (.done (.error (.mismatch .classDecl .field))) (Generator.new Registry.java) ∧
      (Foreign.momentAfter 1).Guarded .java ∧
      ∃ rendered, (Foreign.momentAfter 1).generator.render Foreign.field =
          some (rendered, (Foreign.momentAfter 1).generator) ∧
        ∀ expected actual, rendered ≠ .error (.mismatch expected actual) := by
  have hreached : Moment.Reached Registry.java Foreign.driver (Foreign.momentAfter 1) :=
    Moment.leads_after _ 1
  obtain ⟨hguarded, hjava⟩ :=
    guards_never_fail RegistryBuilder.build_java Foreign.driver hreached
  exact ⟨RegistryBuilder.build_java, hreached, rfl, rfl, hguarded, hjava rfl Foreign.field⟩

end TableScribe
