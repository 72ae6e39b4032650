/-
Runs that render one tree to the end.  If every view needs the texts of the
children in the written parts, then a run that comes to a text has passed
through the view of every model that is reached through such parts.
-/
import Mathlib.Logic.Function.Basic
import TableScribe.Proofs.Render.Lineage

namespace TableScribe

/-- Inside given models, a view that returns a text was given one for every
child in the parts that are written there. -/
def Registry.Covers (registry : Registry) (writes : List Model → Model → Part → Prop) : Prop :=
  ∀ above model view reply text, registry.get? model.kind = some view →
    (view model).eval (answersIn (model :: above)) reply = .ok text →
      ∀ part, writes above model part → ∀ child ∈ model.children part,
        ∃ inner, reply (.render child) = .ok inner

variable {registry : Registry} {writes : List Model → Model → Part → Prop} {root : Model}

namespace Moment

/-- A view makes a request, or the reply to it does not matter to its text. -/
theorem leads_call_or_eval_eq {activation : Activation} {waiting : Waiting Rendered}
    {generator : Generator} {allowed : Call → Prop} {reply other : Call → Rendered} (call : Call)
    (hother : ∀ next, next ≠ call → other next = reply next)
    (hcarry : ∀ next, allowed next →
      ∃ limit, Generator.carryOut limit next generator = some (reply next, generator))
    {program : Program Rendered} (hrequests : program.Requests generator.answer allowed) :
    (∃ next, Leads (inside activation program waiting generator)
      (inside activation (.call call next) waiting generator)) ∨
      program.eval generator.answer other = program.eval generator.answer reply := by
  induction program with
  | done rendered => exact Or.inr rfl
  | ask query next ih =>
      rcases ih _ hrequests with ⟨rest, hleads⟩ | heval
      · exact Or.inl ⟨rest, Leads.head rfl hleads⟩
      · exact Or.inr heval
  | call first next ih =>
      by_cases hfirst : first = call
      · subst hfirst
        exact Or.inl ⟨next, Relation.ReflTransGen.refl⟩
      · obtain ⟨limit, hlimit⟩ := hcarry first hrequests.1
        have hresume := leads_resume (.view activation next waiting) hlimit
        rcases ih (reply first) (hrequests.2 _) with ⟨rest, hleads⟩ | heval
        · exact Or.inl ⟨rest, Leads.head rfl (hresume.trans hleads)⟩
        · apply Or.inr
          simp only [Program.eval, hother first hfirst]
          exact heval

/-- If a root comes to a text, so does every model in a written part below it,
and its view is called on the way. -/
theorem leads_view (hdescends : registry.Descends writes) (hcovers : registry.Covers writes)
    {whole : String} (hwhole : registry.text [] root = .ok whole) {above : List Model}
    {model : Model} (hlineage : Lineage writes root above model) {view : View}
    (hview : registry.get? model.kind = some view) :
    (∃ text, registry.text above model = .ok text) ∧
      ∃ waiting, waiting.stack = above ∧ Leads (start registry (ViewM.render root).run)
        (inside ⟨model.kind, model, true⟩ (view model).run waiting
          ((Generator.new registry).enterAll (model :: above))) := by
  induction hlineage generalizing view with
  | root =>
      refine ⟨⟨whole, hwhole⟩, .caller .done, rfl, ?_⟩
      apply Relation.ReflTransGen.single
      change some (request (.caller .done) (Generator.new registry) (.render root)) = _
      simp only [request, Generator.new, hview]
      rfl
  | @child above owner model part howner hpart hmodel ih =>
      obtain ⟨outer, houter⟩ := registry.exists_get?_eq_some owner.kind
      obtain ⟨⟨text, htext⟩, waiting, hstack, hleads⟩ := ih houter
      have hanswer := Generator.answer_enterAll_new registry (owner :: above)
      rw [Registry.text_eq hdescends houter] at htext
      obtain ⟨inner, hinner⟩ :=
        hcovers above owner outer _ text houter htext part hpart model hmodel
      refine ⟨⟨inner, hinner⟩, ?_⟩
      have hrequests := hdescends above owner outer houter
      have hcarry : ∀ call : Call, call.Below (writes above owner) owner → ∃ limit,
          Generator.carryOut limit call ((Generator.new registry).enterAll (owner :: above)) =
            some (registry.reply (owner :: above) call,
              (Generator.new registry).enterAll (owner :: above)) := by
        intro call hcall
        cases call with
        | render child =>
            exact ⟨_, Generator.carryOut_render hdescends (owner :: above) (Nat.le_refl _)⟩
        | view kind model => exact absurd hcall id
      classical
      let other := Function.update (registry.reply (owner :: above)) (.render model)
        (.error (.dispatch model.kind))
      have hother : ∀ next, next ≠ .render model →
          other next = registry.reply (owner :: above) next := by
        intro next hnext
        exact Function.update_of_ne hnext _ _
      rw [← hanswer] at hrequests
      rcases leads_call_or_eval_eq (.render model) hother hcarry hrequests with
        ⟨next, hcall⟩ | heval
      · refine ⟨.view ⟨owner.kind, owner, true⟩ next waiting, ?_, ?_⟩
        · simp [Waiting.stack, Activation.opened, hstack]
        · refine (hleads.trans hcall).tail ?_
          change some (request _ _ (.render model)) = _
          simp only [request, Generator.registry_enterAll_new, hview]
          rfl
      · rw [hanswer] at heval
        obtain ⟨wrong, hwrong⟩ := hcovers above owner outer other text houter (heval.trans htext)
          part hpart model hmodel
        simp [other] at hwrong

/-- If a root comes to a text, then the run has passed through the moment at
which the view of any model in a written part is done with its text. -/
theorem leads_text (hdescends : registry.Descends writes) (hcovers : registry.Covers writes)
    {whole : String} (hwhole : registry.text [] root = .ok whole) {above : List Model}
    {model : Model} (hlineage : Lineage writes root above model) :
    ∃ text waiting, waiting.stack = above ∧ registry.text above model = .ok text ∧
      Leads (start registry (ViewM.render root).run)
        (inside ⟨model.kind, model, true⟩ (.done (.ok text)) waiting
          ((Generator.new registry).enterAll (model :: above))) := by
  obtain ⟨view, hview⟩ := registry.exists_get?_eq_some model.kind
  obtain ⟨⟨text, htext⟩, waiting, hstack, hleads⟩ :=
    leads_view hdescends hcovers hwhole hlineage hview
  have hrun : (view model).run.run (Generator.carryOut model.node.height)
      ((Generator.new registry).enterAll (model :: above)) =
        some (.ok text, (Generator.new registry).enterAll (model :: above)) := by
    rw [← htext]
    apply Generator.run_view hdescends hview
    intro part child hchild
    have hlt := Model.height_lt_of_mem_children hchild
    exact Generator.carryOut_render hdescends (model :: above) (Nat.le_of_lt hlt)
  exact ⟨text, waiting, hstack, htext, hleads.trans
    (leads_done_inside (fun _ _ _ _ waiting hcall => leads_resume waiting hcall) _ _ _ hrun)⟩

end Moment

end TableScribe
