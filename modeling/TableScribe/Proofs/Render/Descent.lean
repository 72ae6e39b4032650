/-
Registries whose views have nothing rendered but children of their own model.
With such a registry the text of a model is a function of the model and of the
models around it, and the engine computes that function.
-/
import Mathlib.Logic.Relation
import TableScribe.Proofs.Model.Height
import TableScribe.Proofs.Render.Needs

namespace TableScribe

/-- A model lies in the tree below another one, at any depth, or is that one. -/
def Model.Contains : Model → Model → Prop :=
  Relation.ReflTransGen fun owner child => ∃ part, child ∈ owner.children part

theorem Model.Contains.of_mem_children {model child inner : Model} {part : Part}
    (hchild : child ∈ model.children part) (hinner : child.Contains inner) :
    model.Contains inner :=
  Relation.ReflTransGen.head ⟨part, hchild⟩ hinner

namespace Registry

variable {registry : Registry} {writes : List Model → Model → Part → Prop}

theorem exists_get?_eq_some (registry : Registry) (kind : Kind) :
    ∃ view, registry.get? kind = some view := by
  have hindex : kind.index.val < registry.views.length := by
    rw [registry.complete]
    exact kind.index.isLt
  exact ⟨_, List.getElem?_eq_getElem hindex⟩

/-- Inside given models, every view requests only the children of its model in
the parts that are written there. -/
def Descends (registry : Registry) (writes : List Model → Model → Part → Prop) : Prop :=
  ∀ above model view, registry.get? model.kind = some view →
    (view model).Requests (answersIn (model :: above)) fun call =>
      call.Below (writes above model) model

/-- The text of a model inside given ones, following children less than
`limit` deep. -/
def textWithin (registry : Registry) : Nat → List Model → Model → Rendered
  | 0, _, model => .error (.dispatch model.kind)
  | limit + 1, above, model =>
    match registry.get? model.kind with
    | none => .error (.dispatch model.kind)
    | some view =>
      (view model).eval (answersIn (model :: above)) fun call =>
        match call with
        | .render child => registry.textWithin limit (model :: above) child
        | .view kind _ => .error (.dispatch kind)

/-- The text of a model, or the error in its place, inside the models that are
being rendered around it. -/
def text (registry : Registry) (above : List Model) (model : Model) : Rendered :=
  registry.textWithin model.node.height above model

/-- The reply to a request made inside given models. -/
def reply (registry : Registry) (stack : List Model) : Call → Rendered
  | .render child => registry.text stack child
  | .view kind _ => .error (.dispatch kind)

/-- The bound does not matter as long as it is no less than the height of the tree. -/
theorem textWithin_eq_of_le (hdescends : registry.Descends writes) {first second : Nat}
    {above : List Model} {model : Model} (hfirst : model.node.height ≤ first)
    (hsecond : model.node.height ≤ second) :
    registry.textWithin first above model = registry.textWithin second above model := by
  induction first generalizing second above model with
  | zero =>
      have hpos := model.node.height_pos
      omega
  | succ first ih =>
      cases second with
      | zero =>
          have hpos := model.node.height_pos
          omega
      | succ second =>
          obtain ⟨view, hview⟩ := registry.exists_get?_eq_some model.kind
          simp only [textWithin, hview]
          apply Program.Requests.eval_congr (hdescends above model view hview)
          intro call hcall
          cases call with
          | render child =>
              obtain ⟨part, -, hchild⟩ := hcall
              have hlt := Model.height_lt_of_mem_children hchild
              exact ih (by omega) (by omega)
          | view kind model => exact absurd hcall id

/-- The text of a model is what its view comes to, with the texts of the
children as replies. -/
theorem text_eq (hdescends : registry.Descends writes) {above : List Model} {model : Model}
    {view : View} (hview : registry.get? model.kind = some view) :
    registry.text above model =
      (view model).eval (answersIn (model :: above)) (registry.reply (model :: above)) := by
  obtain ⟨height, hheight⟩ := Nat.exists_eq_succ_of_ne_zero (Nat.ne_of_gt model.node.height_pos)
  unfold text
  rw [hheight]
  simp only [textWithin, hview]
  apply Program.Requests.eval_congr (hdescends above model view hview)
  intro call hcall
  cases call with
  | render child =>
      obtain ⟨part, -, hchild⟩ := hcall
      have hlt := Model.height_lt_of_mem_children hchild
      exact textWithin_eq_of_le hdescends (by omega) (Nat.le_refl _)
  | view kind model => exact absurd hcall id

end Registry

namespace Generator

variable {registry : Registry} {writes : List Model → Model → Part → Prop}

theorem registry_enterAll_new (registry : Registry) (stack : List Model) :
    ((new registry).enterAll stack).registry = registry := by
  induction stack with
  | nil => rfl
  | cons model outer ih => exact ih

/-- A view comes to the text of its model, if the requests for the children are
carried out as they should be.  The generator may have another registry. -/
theorem run_view {reference : Registry} (hdescends : reference.Descends writes)
    {carryOut : Call → Generator → Option (Rendered × Generator)} {above : List Model}
    {model : Model} {view : View} (hview : reference.get? model.kind = some view)
    (hcarry : ∀ part, ∀ child ∈ model.children part,
      carryOut (.render child) ((new registry).enterAll (model :: above)) =
        some (reference.text (model :: above) child,
          (new registry).enterAll (model :: above))) :
    (view model).run.run carryOut ((new registry).enterAll (model :: above)) =
      some (reference.text above model, (new registry).enterAll (model :: above)) := by
  have hanswer := answer_enterAll_new registry (model :: above)
  have hrequests := hdescends above model view hview
  rw [← hanswer] at hrequests
  have hrun : (view model).run.run carryOut ((new registry).enterAll (model :: above)) =
      some ((view model).eval ((new registry).enterAll (model :: above)).answer
        (reference.reply (model :: above)), (new registry).enterAll (model :: above)) := by
    apply hrequests.run_eq
    intro call hcall
    cases call with
    | render child =>
        obtain ⟨part, -, hchild⟩ := hcall
        exact hcarry part child hchild
    | view kind model => exact absurd hcall id
  rw [hanswer, ← Registry.text_eq hdescends hview] at hrun
  exact hrun

/-- The engine comes to the text of a model over any registry that has the same
views for the kinds in its tree. -/
theorem carryOut_render_of_agree {reference : Registry} (hdescends : reference.Descends writes)
    {limit : Nat} (above : List Model) {model : Model} (hlimit : model.node.height ≤ limit)
    (hagree : ∀ inner, model.Contains inner →
      registry.get? inner.kind = reference.get? inner.kind) :
    carryOut limit (.render model) ((new registry).enterAll above) =
      some (reference.text above model, (new registry).enterAll above) := by
  induction limit generalizing above model with
  | zero =>
      have hpos := model.node.height_pos
      omega
  | succ limit ih =>
      obtain ⟨view, hview⟩ := reference.exists_get?_eq_some model.kind
      have hrun : (view model).run.run (carryOut limit)
          ((new registry).enterAll (model :: above)) =
            some (reference.text above model, (new registry).enterAll (model :: above)) := by
        apply run_view hdescends hview
        intro part child hchild
        have hlt := Model.height_lt_of_mem_children hchild
        exact ih _ (by omega) fun inner hinner => hagree inner (.of_mem_children hchild hinner)
      have hsame := hagree model .refl
      simp only [carryOut, registry_enterAll_new, hsame, hview]
      rw [← enterAll_cons, hrun]
      simp

/-- The engine comes to the text of a model. -/
theorem carryOut_render (hdescends : registry.Descends writes) {limit : Nat}
    (above : List Model) {model : Model} (hlimit : model.node.height ≤ limit) :
    carryOut limit (.render model) ((new registry).enterAll above) =
      some (registry.text above model, (new registry).enterAll above) :=
  carryOut_render_of_agree hdescends above hlimit fun _ _ => rfl

/-- A model is rendered as a request for it is carried out, however deep the
requests below it may nest. -/
theorem render_of_carryOut {generator : Generator} {model : Model} {result : Rendered × Generator}
    (hcarry : ∀ limit, model.node.height ≤ limit →
      carryOut limit (.render model) generator = some result) :
    generator.render model = some result := by
  have hlimit : model.node.height ≤
      maxHeight ([model].map fun model => model.node.height) + headroom :=
    Nat.le_trans (le_maxHeight_of_mem List.mem_cons_self) (Nat.le_add_right _ _)
  unfold render perform
  generalize maxHeight ([model].map fun model => model.node.height) + headroom = limit at hlimit
  change (Program.call (.render model) .done).run (carryOut limit) generator = _
  simp only [Program.run, hcarry limit hlimit]

/-- A view that neither asks nor requests anything is done with its model at once,
whatever is being rendered around it. -/
theorem render_of_run_eq_done {generator : Generator} {model : Model} {view : View}
    (hview : generator.registry.get? model.kind = some view) {rendered : Rendered}
    (hdone : (view model).run = .done rendered) :
    generator.render model = some (rendered, generator) := by
  apply render_of_carryOut
  intro limit hlimit
  obtain ⟨below, rfl⟩ : ∃ below, limit = below + 1 :=
    Nat.exists_eq_add_one.mpr (Nat.lt_of_lt_of_le model.node.height_pos hlimit)
  simp [carryOut, hview, hdone, Program.run]

/-- A new generator renders a model as the text that another registry with the
same views for the kinds in its tree gives it. -/
theorem render_new_of_agree {reference : Registry} (hdescends : reference.Descends writes)
    {model : Model} (hagree : ∀ inner, model.Contains inner →
      registry.get? inner.kind = reference.get? inner.kind) :
    (new registry).render model = some (reference.text [] model, new registry) :=
  render_of_carryOut fun _ hlimit => carryOut_render_of_agree hdescends [] hlimit hagree

/-- Inside given models, a model is rendered as its text there. -/
theorem render_enterAll_new (hdescends : registry.Descends writes) (stack : List Model)
    (model : Model) :
    ((new registry).enterAll stack).render model =
      some (registry.text stack model, (new registry).enterAll stack) :=
  render_of_carryOut fun _ hlimit => carryOut_render hdescends stack hlimit

/-- Inside given models, a program that has only some models rendered comes to what it
comes to with their texts as replies. -/
theorem perform_enterAll_new {α : Type} (hdescends : registry.Descends writes)
    {stack models : List Model} {program : ViewM α}
    (hrequests : program.Requests (answersIn stack) fun call =>
      ∃ model ∈ models, call = .render model) :
    ((new registry).enterAll stack).perform models program =
      some (program.eval (answersIn stack) (registry.reply stack),
        (new registry).enterAll stack) := by
  unfold ViewM.Requests at hrequests
  rw [← answer_enterAll_new registry stack] at hrequests
  unfold ViewM.eval
  rw [← answer_enterAll_new registry stack]
  apply hrequests.run_eq
  rintro call ⟨model, hmodel, rfl⟩
  apply carryOut_render hdescends stack
  have hheight : model.node.height ≤ maxHeight (models.map fun model => model.node.height) :=
    le_maxHeight_of_mem (List.mem_map_of_mem hmodel)
  omega

/-- A new generator renders a model as its text. -/
theorem render_new (hdescends : registry.Descends writes) (model : Model) :
    (new registry).render model = some (registry.text [] model, new registry) :=
  render_new_of_agree hdescends fun _ _ => rfl

end Generator

end TableScribe
