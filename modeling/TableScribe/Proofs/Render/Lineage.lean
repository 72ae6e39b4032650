/-
Runs that render one tree with views that descend.  Every view in progress
belongs to a model of the tree and was called by the view of the model above
it; what it returns is the text of its model.
-/
import TableScribe.Proofs.Render.Descent

namespace TableScribe

/-- A model lies in the tree below a root, inside these models, innermost
first.  The way down leads through parts that are written. -/
inductive Lineage (writes : List Model → Model → Part → Prop) (root : Model) :
    List Model → Model → Prop
  | root : Lineage writes root [] root
  | child {above : List Model} {owner model : Model} {part : Part}
      (howner : Lineage writes root above owner) (hpart : writes above owner part)
      (hmodel : model ∈ owner.children part) : Lineage writes root (owner :: above) model

theorem Lineage.child_at {writes : List Model → Model → Part → Prop} {root : Model}
    {above : List Model} {owner : Model} (howner : Lineage writes root above owner) (part : Part)
    (position : Nat) {node : Node} (hpart : writes above owner part)
    (hnode : (owner.node.children part)[position]? = some node) :
    Lineage writes root (owner :: above) (owner.child part position node) :=
  .child howner hpart (Model.child_mem_children hnode)

theorem Lineage.exists_child {writes : List Model → Model → Part → Prop} {root : Model}
    {above : List Model} {owner : Model} (howner : Lineage writes root above owner) {part : Part}
    (hpart : writes above owner part) {node : Node} (hnode : node ∈ owner.node.children part) :
    ∃ model ∈ owner.children part, model.node = node ∧
      Lineage writes root (owner :: above) model := by
  obtain ⟨position, hposition⟩ := List.getElem?_of_mem hnode
  exact ⟨owner.child part position node, Model.child_mem_children hposition, rfl,
    howner.child_at part position hpart hposition⟩

/-- The root is around all other models. -/
theorem Lineage.root_mem {writes : List Model → Model → Part → Prop} {root model : Model}
    {above : List Model} (hlineage : Lineage writes root above model) (hne : model ≠ root) :
    root ∈ above := by
  induction hlineage with
  | root => exact absurd rfl hne
  | @child above owner model part howner hpart hmodel ih =>
      by_cases hroot : owner = root
      · exact hroot ▸ List.mem_cons_self
      · exact List.mem_cons_of_mem owner (ih hroot)

theorem Lineage.mono {writes others : List Model → Model → Part → Prop}
    (hwrites : ∀ above model part, writes above model part → others above model part)
    {root model : Model} {above : List Model} (hlineage : Lineage writes root above model) :
    Lineage others root above model := by
  induction hlineage with
  | root => exact .root
  | child _ hpart hmodel ih => exact .child ih (hwrites _ _ _ hpart) hmodel

/-- What stands around a place of a tree lies in the tree. -/
theorem Lineage.exists_of_mem {writes : List Model → Model → Part → Prop} {root model outer : Model}
    {above : List Model} (hlineage : Lineage writes root above model) (houter : outer ∈ above) :
    ∃ further, Lineage writes root further outer := by
  induction hlineage with
  | root => exact absurd houter List.not_mem_nil
  | @child above owner model part howner hpart hmodel ih =>
      rcases List.mem_cons.mp houter with rfl | hfurther
      · exact ⟨above, howner⟩
      · exact ih hfurther

section

variable (registry : Registry) (writes : List Model → Model → Part → Prop) (root : Model)

/-- A view in progress, with what is left of it to do, stands inside these
models of the tree and will come to the text of its model. -/
structure Activation.Faithful (activation : Activation) (program : Program Rendered)
    (above : List Model) : Prop where
  renders : activation.renders = true
  lineage : Lineage writes root above activation.model
  requests : program.Requests (answersIn (activation.model :: above)) fun call =>
    call.Below (writes above activation.model) activation.model
  eval : program.eval (answersIn (activation.model :: above))
    (registry.reply (activation.model :: above)) = registry.text above activation.model

/-- Everything that waits will go on as it should once it is handed a text. -/
def Waiting.Faithful : Waiting Rendered → Rendered → Prop
  | caller next, rendered => next rendered = .done rendered
  | view activation next below, rendered =>
    activation.Faithful registry writes root (next rendered) below.stack ∧
      below.Faithful (registry.text below.stack activation.model)

/-- The moment belongs to a run that renders the root. -/
def Moment.Faithful : Moment Rendered → Prop
  | outside program _ => program = (ViewM.render root).run ∨ ∃ rendered, program = .done rendered
  | inside activation program waiting _ =>
    activation.Faithful registry writes root program waiting.stack ∧
      waiting.Faithful registry writes root (registry.text waiting.stack activation.model)

end

variable {registry : Registry} {writes : List Model → Model → Part → Prop} {root : Model}

/-- A view that was just called to render a model of the tree. -/
theorem Activation.faithful_of_lineage (hdescends : registry.Descends writes)
    {above : List Model} {model : Model} {view : View}
    (hview : registry.get? model.kind = some view) (hlineage : Lineage writes root above model) :
    (⟨model.kind, model, true⟩ : Activation).Faithful registry writes root (view model).run
      above where
  renders := rfl
  lineage := hlineage
  requests := hdescends above model view hview
  eval := (Registry.text_eq hdescends hview).symm

namespace Moment

theorem faithful_resume {waiting : Waiting Rendered} {rendered : Rendered} (generator : Generator)
    (hwaiting : waiting.Faithful registry writes root rendered) :
    (waiting.resume rendered generator).Faithful registry writes root := by
  cases waiting with
  | caller next => exact Or.inr ⟨rendered, hwaiting⟩
  | view activation next below => exact hwaiting

theorem faithful_request (hdescends : registry.Descends writes) {waiting : Waiting Rendered}
    {generator : Generator} {model : Model} (hregistry : generator.registry = registry)
    (hlineage : Lineage writes root waiting.stack model)
    (hwaiting : waiting.Faithful registry writes root (registry.text waiting.stack model)) :
    (request waiting generator (.render model)).Faithful registry writes root := by
  obtain ⟨view, hview⟩ := registry.exists_get?_eq_some model.kind
  simp only [request, hregistry, hview]
  exact ⟨Activation.faithful_of_lineage hdescends hview hlineage, hwaiting⟩

/-- A step goes down to a child that is written, or hands over the text of a
model. -/
theorem faithful_of_step (hdescends : registry.Descends writes) {first second : Moment Rendered}
    (hstep : Step first second) (hrests : first.Rests (Generator.new registry))
    (hfaithful : first.Faithful registry writes root) :
    second.Faithful registry writes root := by
  have hregistry : first.generator.registry = registry := by
    rw [hrests]
    exact Generator.registry_enterAll_new registry first.stack
  cases turns_of_step hstep with
  | askOutside query next generator =>
      rcases hfaithful with hprogram | ⟨rendered, hprogram⟩ <;> cases hprogram
  | callOutside call next generator =>
      rcases hfaithful with hprogram | ⟨rendered, hprogram⟩ <;> cases hprogram
      exact faithful_request hdescends hregistry .root rfl
  | doneInside activation rendered waiting generator =>
      obtain ⟨hactivation, hwaiting⟩ := hfaithful
      have heval : rendered = registry.text waiting.stack activation.model := hactivation.eval
      rw [heval]
      exact faithful_resume _ hwaiting
  | askInside activation query next waiting generator =>
      obtain ⟨hactivation, hwaiting⟩ := hfaithful
      have hgenerator : generator =
          (Generator.new registry).enterAll (activation.model :: waiting.stack) := by
        simpa [Rests, stack, Activation.opened, hactivation.renders, Moment.generator] using hrests
      have hanswer : generator.answer = answersIn (activation.model :: waiting.stack) := by
        rw [hgenerator]
        exact Generator.answer_enterAll_new registry _
      rw [hanswer]
      exact ⟨⟨hactivation.renders, hactivation.lineage, hactivation.requests,
        hactivation.eval⟩, hwaiting⟩
  | callInside activation call next waiting generator =>
      obtain ⟨hactivation, hwaiting⟩ := hfaithful
      obtain ⟨hcall, hnext⟩ := hactivation.requests
      cases call with
      | view kind model => exact absurd hcall id
      | render child =>
          obtain ⟨part, hpart, hchild⟩ := hcall
          have hstack : (Waiting.view activation next waiting).stack =
              activation.model :: waiting.stack := by
            simp [Waiting.stack, Activation.opened, hactivation.renders]
          refine faithful_request hdescends hregistry ?_ ?_
          · rw [hstack]
            exact .child hactivation.lineage hpart hchild
          · rw [hstack]
            exact ⟨⟨hactivation.renders, hactivation.lineage, hnext _, hactivation.eval⟩, hwaiting⟩

/-- Every moment of the run that renders a root belongs to it. -/
theorem faithful_of_leads (hdescends : registry.Descends writes) {moment : Moment Rendered}
    (hleads : Leads (start registry (ViewM.render root).run) moment) :
    moment.Faithful registry writes root := by
  induction hleads with
  | refl => exact Or.inl rfl
  | tail hleads hstep ih => exact faithful_of_step hdescends hstep (rests_of_leads hleads rfl) ih

/-- A view in progress belongs to a model of the tree, and if it is done, then
with the text of that model. -/
theorem text_of_leads (hdescends : registry.Descends writes) {activation : Activation}
    {rendered : Rendered} {waiting : Waiting Rendered} {generator : Generator}
    (hleads : Leads (start registry (ViewM.render root).run)
      (inside activation (.done rendered) waiting generator)) :
    Lineage writes root waiting.stack activation.model ∧
      rendered = registry.text waiting.stack activation.model := by
  obtain ⟨hactivation, -⟩ := faithful_of_leads hdescends hleads
  exact ⟨hactivation.lineage, hactivation.eval⟩

end Moment

end TableScribe
