/-
What views come to.  A property of the results of a view follows from those of
its steps, and the texts of children bring the properties that the replies to a
view have.
-/
import Mathlib.Data.List.Forall2
import TableScribe.Proofs.Attempts
import TableScribe.Proofs.Render.Evaluation

namespace TableScribe

variable {α β : Type}

/-- With given answers and replies, a program has results of one sort only. -/
def ViewM.Ensures (answer : (query : Query) → query.Answer) (reply : Call → Rendered)
    (program : ViewM α) (post : α → Prop) : Prop :=
  ∀ result, program.eval answer reply = .ok result → post result

theorem Model.map_node_children (model : Model) (part : Part) :
    (model.children part).map Model.node = model.node.children part := by
  apply List.ext_getElem <;> simp [children, child]

namespace ViewM.Ensures

variable {answer : (query : Query) → query.Answer} {reply : Call → Rendered} {model : Model}
  {post : β → Prop}

theorem pure {result : β} (hresult : post result) :
    (Pure.pure result : ViewM β).Ensures answer reply post := by
  rintro other ⟨⟩
  exact hresult

theorem throw (error : RenderError) :
    (MonadExcept.throw error : ViewM β).Ensures answer reply post :=
  fun _ hresult => nomatch hresult

theorem ofExcept {result : Except RenderError β}
    (hresult : ∀ value, result = .ok value → post value) :
    (ViewM.ofExcept result).Ensures answer reply post := hresult

theorem bind {middle : α → Prop} {program : ViewM α} {next : α → ViewM β}
    (hprogram : program.Ensures answer reply middle)
    (hnext : ∀ result, middle result → (next result).Ensures answer reply post) :
    (program >>= next).Ensures answer reply post := by
  intro result hresult
  rw [eval_bind, Except.bind_eq_ok_iff] at hresult
  obtain ⟨first, hfirst, hrest⟩ := hresult
  exact hnext first (hprogram first hfirst) result hrest

/-- A step whose results do not matter. -/
theorem andThen {program : ViewM α} {next : α → ViewM β}
    (hnext : ∀ result, (next result).Ensures answer reply post) :
    (program >>= next).Ensures answer reply post := by
  have hprogram : program.Ensures answer reply fun _ => True := fun _ _ => trivial
  exact bind hprogram fun result _ => hnext result

theorem expect_bind {kind : Kind} {pick : Node → Option α} {next : α → ViewM β} {node : Node}
    {picked : α} (hnode : model.node = node) (hpick : pick node = some picked)
    (hnext : (next picked).Ensures answer reply post) :
    (ViewM.expect kind pick model >>= next).Ensures answer reply post := by
  have hexpect : ViewM.expect kind pick model = Pure.pure picked := by
    simp [ViewM.expect, hnode, hpick]
  rw [hexpect, pure_bind]
  exact hnext

theorem ite {condition : Prop} [Decidable condition] {first second : ViewM β}
    (hfirst : condition → first.Ensures answer reply post)
    (hsecond : ¬ condition → second.Ensures answer reply post) :
    (if condition then first else second).Ensures answer reply post := by
  by_cases hcondition : condition
  · rw [if_pos hcondition]
    exact hfirst hcondition
  · rw [if_neg hcondition]
    exact hsecond hcondition

/-- The texts of children are of the sorts that the replies are of. -/
theorem children {sort : String → α → Prop} {f : Node → α} {part : Part}
    (hreply : ∀ child ∈ model.children part, ∀ text, reply (.render child) = .ok text →
      sort text (f child.node)) :
    ((model.children part).mapM ViewM.render).Ensures answer reply fun texts =>
      List.Forall₂ sort texts ((model.node.children part).map f) := by
  intro texts htexts
  rw [eval_mapM, mapM_eq_ok_iff] at htexts
  rw [← Model.map_node_children, List.map_map, List.forall₂_map_right_iff]
  have hall := (List.forall₂_and_left _ _).mpr ⟨fun child hchild => hchild, htexts⟩
  exact (hall.imp fun child text hchild => hreply child hchild.1 text hchild.2).flip

/-- Children rendered in a list come to the replies, joined. -/
theorem renderAll (part : Part) (separator : String) :
    (ViewM.renderAll (model.children part) separator).Ensures answer reply fun text =>
      ∃ texts, (model.children part).mapM (fun child => reply (.render child)) = .ok texts ∧
        text = joinNonEmpty separator texts := by
  intro text htext
  rw [eval_renderAll] at htext
  obtain ⟨texts, htexts, rfl⟩ := Except.map_eq_ok_iff.mp htext
  exact ⟨texts, htexts, rfl⟩

end ViewM.Ensures

end TableScribe
