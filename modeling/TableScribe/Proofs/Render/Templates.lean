/-
Templates installed over the Java views.  A view may have its own model rendered
again, but if it does so only up to a depth, requests nest no deeper than the
tree is high, as many times over, so that every rendering ends.  Templates are
such views unless they call registered views.
-/
import TableScribe.Proofs.Java.Overrides
import TableScribe.Render.Template

namespace TableScribe

/-- A request that a view may make for its model inside given ones: the text of
a child, or that of the model once more while fewer than so many renderings of
its kind are in progress. -/
def Call.Nests (bound : Nat) (above : List Model) (model : Model) : Call → Prop
  | .render other => (∃ part, other ∈ model.children part) ∨
      other = model ∧ ((model :: above).countP fun outer => outer.kind = model.kind) < bound
  | .view _ _ => False

theorem Call.Nests.of_below {bound : Nat} {above : List Model} {model : Model}
    {parts : Part → Prop} {call : Call} (hcall : call.Below parts model) :
    call.Nests bound above model := by
  cases call with
  | render child =>
      obtain ⟨part, -, hchild⟩ := hcall
      exact Or.inl ⟨part, hchild⟩
  | view kind model => exact hcall

/-- All views make such requests only. -/
def Registry.NestsWithin (registry : Registry) (bound : Nat) : Prop :=
  ∀ above model view, registry.get? model.kind = some view →
    (view model).Requests (answersIn (model :: above)) fun call => call.Nests bound above model

/-- A program comes to a result if its requests are carried out. -/
theorem Program.Requests.exists_run {α : Type} {allowed : Call → Prop}
    {carryOut : Call → Generator → Option (Rendered × Generator)} {generator : Generator}
    {program : Program α} (hprogram : program.Requests generator.answer allowed)
    (hcarry : ∀ call, allowed call →
      ∃ rendered, carryOut call generator = some (rendered, generator)) :
    ∃ result, program.run carryOut generator = some (result, generator) := by
  induction program with
  | done result => exact ⟨result, rfl⟩
  | ask query next ih => exact ih _ hprogram
  | call call next ih =>
      obtain ⟨rendered, hrendered⟩ := hcarry call hprogram.1
      simp only [run, hrendered]
      exact ih rendered (hprogram.2 rendered)

namespace Generator

variable {registry : Registry} {bound : Nat}

/-- Requests below a model of some height nest so deep at most, with so many
renderings of the kind of the model in progress. -/
theorem exists_carryOut_render (hnests : registry.NestsWithin bound) {limit : Nat}
    (above : List Model) {model : Model}
    (hlimit : (model.node.height - 1) * (bound + 1) +
      (bound - above.countP fun outer => outer.kind = model.kind) + 1 ≤ limit) :
    ∃ rendered, carryOut limit (.render model) ((new registry).enterAll above) =
      some (rendered, (new registry).enterAll above) := by
  induction limit generalizing above model with
  | zero => omega
  | succ limit ih =>
      obtain ⟨view, hview⟩ := registry.exists_get?_eq_some model.kind
      have hcarry : ∀ call : Call, call.Nests bound above model →
          ∃ rendered, carryOut limit call ((new registry).enterAll (model :: above)) =
            some (rendered, (new registry).enterAll (model :: above)) := by
        intro call hcall
        cases call with
        | view kind model => exact absurd hcall id
        | render other =>
            rcases hcall with ⟨part, hchild⟩ | ⟨rfl, hcount⟩
            · have hlt := Model.height_lt_of_mem_children hchild
              have hpos := other.node.height_pos
              -- The whole bound is there again for the kind of the child, one level down.
              have hdown : (other.node.height - 1 + 1) * (bound + 1) ≤
                  (model.node.height - 1) * (bound + 1) :=
                Nat.mul_le_mul_right _ (by omega)
              rw [Nat.succ_mul] at hdown
              exact ih _ (by omega)
            · rw [List.countP_cons_of_pos (by simp)] at hcount
              refine ih _ ?_
              rw [List.countP_cons_of_pos (by simp)]
              omega
      have hrequests := hnests above model view hview
      rw [← answer_enterAll_new registry (model :: above)] at hrequests
      obtain ⟨rendered, hrun⟩ := hrequests.exists_run hcarry
      refine ⟨rendered, ?_⟩
      simp only [carryOut, registry_enterAll_new, hview]
      rw [← enterAll_cons, hrun]
      simp

/-- With a new generator the height of the model alone counts. -/
theorem exists_carryOut_render_new (hnests : registry.NestsWithin bound) {limit : Nat}
    {model : Model} (hlimit : model.node.height * (bound + 1) ≤ limit) :
    ∃ rendered, carryOut limit (.render model) (new registry) = some (rendered, new registry) := by
  have hpos := model.node.height_pos
  have hlevels : (model.node.height - 1 + 1) * (bound + 1) = model.node.height * (bound + 1) := by
    rw [Nat.sub_add_cancel hpos]
  rw [Nat.succ_mul] at hlevels
  exact exists_carryOut_render hnests [] (by simp only [List.countP_nil]; omega)

end Generator

namespace ViewM.Requests

variable {α : Type} {answer : (query : Query) → query.Answer} {allowed : Call → Prop}

theorem tryCatch {program : ViewM α} {handler : RenderError → ViewM α}
    (hprogram : program.Requests answer allowed)
    (hhandler : ∀ error, (handler error).Requests answer allowed) :
    (MonadExcept.tryCatch program handler).Requests answer allowed := by
  apply Program.Requests.bind hprogram
  intro result
  cases result with
  | error error => exact hhandler error
  | ok result => exact trivial

theorem last (kind : Kind) : (ViewM.last kind).Requests answer allowed := by
  apply ask_bind
  cases answer (.last kind) <;> exact trivial

theorem lastChecked (kind : Kind) : (ViewM.lastChecked kind).Requests answer allowed := by
  refine bind (last kind) fun model => ?_
  split <;> exact trivial

theorem lastOfAny (kinds : List Kind) : (ViewM.lastOfAny kinds).Requests answer allowed := by
  apply ask_bind
  cases answer (.lastOfAny kinds) <;> exact trivial

end ViewM.Requests

/-- The Java view of another kind refuses a model before it asks or requests
anything. -/
theorem Java.run_view_of_ne {wanted : Kind} {model : Model} (hkind : wanted ≠ model.kind) :
    (view wanted model).run = .done (.error (.mismatch wanted model.kind)) := by
  obtain ⟨node, place⟩ := model
  cases node with
  | declaration node => cases node <;> cases wanted <;> first | rfl | exact absurd rfl hkind
  | _ => cases wanted <;> first | rfl | exact absurd rfl hkind

theorem Java.nestsWithin_view (bound : Nat) (above : List Model) (wanted : Kind) (model : Model) :
    (view wanted model).Requests (answersIn (model :: above)) fun call =>
      call.Nests bound above model := by
  by_cases hkind : wanted = model.kind
  · subst hkind
    exact (java_descends above model _ (get?_java model.kind)).mono fun _ => .of_below
  · rw [ViewM.Requests, run_view_of_ne hkind]
    exact trivial

/-- The snippet calls no registered view, and has its own model rendered again
only while fewer than so many renderings of the kind are in progress. -/
def Snippet.IsBounded (bound : Nat) : Snippet → Prop
  | registered _ => False
  | again limit => limit ≤ bound
  | _ => True

/-- All snippets of the template are such ones. -/
def Template.IsBounded (bound : Nat) : Template → Prop
  | done => True
  | snippet first rest => first.IsBounded bound ∧ rest.IsBounded bound
  | attempt body otherwise rest =>
    body.IsBounded bound ∧ otherwise.IsBounded bound ∧ rest.IsBounded bound

section

variable {bound : Nat} (above : List Model) (model : Model)

theorem Snippet.requests_view {snippet : Snippet} (hbounded : snippet.IsBounded bound) :
    (snippet.view model).Requests (answersIn (model :: above)) fun call =>
      call.Nests bound above model := by
  cases snippet with
  | text | name | kind => exact .pure _
  | fail => exact .throw _
  | each part separator =>
      refine .bind (.mapM_render ?_) fun _ => .pure _
      intro child hchild
      exact Or.inl ⟨part, hchild⟩
  | depth | idle => exact .ask_bind (.pure _)
  | last | same => exact .bind (.last _) fun _ => .pure _
  | lastChecked => exact .bind (.lastChecked _) fun _ => .pure _
  | lastOfAny => exact .bind (.lastOfAny _) fun _ => .pure _
  | require wanted =>
      rw [view]
      split <;> exact trivial
  | java wanted => exact Java.nestsWithin_view bound above wanted model
  | registered => exact absurd hbounded id
  | again limit =>
      refine .ask_bind ?_
      split
      case isTrue hcount => exact .render (Or.inr ⟨rfl, Nat.lt_of_lt_of_le hcount hbounded⟩)
      case isFalse => exact .pure _
  | dialect dialectName =>
      rw [view]
      split <;> exact trivial

theorem Template.requests_append {template : Template} (hbounded : template.IsBounded bound)
    (text : String) :
    (template.append model text).Requests (answersIn (model :: above)) fun call =>
      call.Nests bound above model := by
  induction template generalizing text with
  | done => exact .pure text
  | snippet first rest ih =>
      exact .bind (first.requests_view above model hbounded.1) fun _ => ih hbounded.2 _
  | attempt body otherwise rest hbody hotherwise hrest =>
      obtain ⟨hbodyBounded, hotherwiseBounded, hrestBounded⟩ := hbounded
      exact .bind (.tryCatch (hbody hbodyBounded _) fun _ => hotherwise hotherwiseBounded _)
        fun _ => hrest hrestBounded _

end

/-- A kind has the view of the last template installed for it, or else its Java
view, and either of them nests within the bound. -/
theorem Registry.nestsWithin_of_templates {installs : List (Kind × Template)} {bound : Nat}
    (hbounded : ∀ entry ∈ installs, entry.2.IsBounded bound) {registry : Registry}
    (hbuild : (RegistryBuilder.java.installAll
      (installs.map fun entry => (entry.1, entry.2.view))).build = .ok registry) :
    registry.NestsWithin bound := by
  intro above model view hview
  rw [RegistryBuilder.get?_of_build hbuild, RegistryBuilder.get_installAll,
    RegistryBuilder.get_java] at hview
  cases hlast : lastInstalled? (installs.map fun entry => (entry.1, entry.2.view)) model.kind with
  | none =>
      rw [hlast] at hview
      obtain rfl := Option.some.inj hview
      exact Java.nestsWithin_view bound above model.kind model
  | some other =>
      rw [hlast] at hview
      obtain rfl := Option.some.inj hview
      obtain ⟨entry, hentry, heq⟩ := List.mem_map.mp (mem_of_lastInstalled?_eq_some hlast)
      obtain rfl : entry.2.view = other := congrArg Prod.snd heq
      exact Template.requests_append above model (hbounded entry hentry) ""

/-- Whatever templates that call no registered view are installed over the Java
views, rendering a model comes to an end, with a text or an error, and leaves
the generator as it was. -/
theorem templates_end {installs : List (Kind × Template)} {bound : Nat}
    (hbounded : ∀ entry ∈ installs, entry.2.IsBounded bound) :
    ∃ registry, (RegistryBuilder.java.installAll
        (installs.map fun entry => (entry.1, entry.2.view))).build = .ok registry ∧
      ∀ model : Model, ∃ rendered,
        Moment.Leads (Moment.start registry (ViewM.render model).run)
          (.outside (.done rendered) (Generator.new registry)) ∧
        (model.node.height * (bound + 1) ≤ model.node.height + Generator.headroom →
          (Generator.new registry).render model = some (rendered, Generator.new registry)) := by
  obtain ⟨registry, hbuild⟩ := RegistryBuilder.exists_build_installAll_java
    (installs.map fun entry => (entry.1, entry.2.view))
  refine ⟨registry, hbuild, fun model => ?_⟩
  have hnests := Registry.nestsWithin_of_templates hbounded hbuild
  obtain ⟨rendered, hcall⟩ :=
    Generator.exists_carryOut_render_new hnests (Nat.le_refl (model.node.height * (bound + 1)))
  have hrun {limit : Nat} (hlimit : model.node.height * (bound + 1) ≤ limit) :
      (ViewM.render model).run.run (Generator.carryOut limit) (Generator.new registry) =
        some (rendered, Generator.new registry) := by
    change (Program.call (.render model) .done).run (Generator.carryOut limit) _ = _
    simp only [Program.run, Generator.carryOut_mono hlimit hcall]
  refine ⟨rendered, Moment.run_iff_leads.mp ⟨_, hrun (Nat.le_refl _)⟩, fun hsize => hrun ?_⟩
  simpa [maxHeight] using hsize

end TableScribe
