/-
What a view needs.  The views have children rendered part by part; such a view
succeeds exactly if its model is in order and every one of these children has a
text, and it requests nothing else.
-/
import TableScribe.Proofs.Attempts
import TableScribe.Proofs.Render.Evaluation

namespace TableScribe

variable {α β : Type}

/-- The request is for the text of a child in one of some parts of a model. -/
def Call.Below (call : Call) (parts : Part → Prop) (model : Model) : Prop :=
  match call with
  | .render child => ∃ part, parts part ∧ child ∈ model.children part
  | .view _ _ => False

theorem Call.Below.mono {parts others : Part → Prop} (hparts : ∀ part, parts part → others part)
    {model : Model} {call : Call} (hcall : call.Below parts model) : call.Below others model := by
  cases call with
  | render child =>
      obtain ⟨part, hpart, hchild⟩ := hcall
      exact ⟨part, hparts part hpart, hchild⟩
  | view kind model => exact hcall

/-- With given answers, a program requests only the children of a model in some
parts, and it succeeds exactly if a condition holds and all of them have texts. -/
structure ViewM.Needs (answer : (query : Query) → query.Answer) (model : Model)
    (condition : Prop) (parts : List Part) (program : ViewM α) : Prop where
  requests : program.Requests answer fun call => call.Below (· ∈ parts) model
  succeeds : ∀ reply, (∃ result, program.eval answer reply = .ok result) ↔
    condition ∧ ∀ part ∈ parts, ∀ child ∈ model.children part,
      ∃ text, reply (.render child) = .ok text

namespace ViewM.Needs

variable {answer : (query : Query) → query.Answer} {model : Model} {condition more : Prop}
  {parts others : List Part}

theorem pure (result : α) : (Pure.pure result : ViewM α).Needs answer model True [] where
  requests := .pure result
  succeeds := by simp

theorem throw (error : RenderError) :
    (MonadExcept.throw error : ViewM α).Needs answer model False [] where
  requests := .throw error
  succeeds := by simp

theorem ofExcept (result : Except RenderError α) :
    (ViewM.ofExcept result).Needs answer model (∃ value, result = .ok value) [] where
  requests := .ofExcept result
  succeeds := by simp

theorem children (part : Part) :
    ((model.children part).mapM ViewM.render).Needs answer model True [part] where
  requests := .mapM_render fun _ hchild => ⟨part, List.mem_singleton_self part, hchild⟩
  succeeds := by simp [exists_mapM_eq_ok_iff]

/-- One program after another needs what both of them do, if the second needs
the same whatever the first comes to. -/
theorem bind {program : ViewM α} {next : α → ViewM β}
    (hprogram : program.Needs answer model condition parts)
    (hnext : ∀ result, (next result).Needs answer model more others) :
    (program >>= next).Needs answer model (condition ∧ more) (parts ++ others) where
  requests := by
    refine .bind (hprogram.requests.mono ?_) fun result => (hnext result).requests.mono ?_
    · intro call hcall
      exact hcall.mono fun _ => List.mem_append_left others
    · intro call hcall
      exact hcall.mono fun _ => List.mem_append_right parts
  succeeds := by
    intro reply
    simp only [eval_bind, Except.bind_eq_ok_iff, List.forall_mem_append]
    constructor
    · rintro ⟨result, value, hvalue, hresult⟩
      obtain ⟨hcondition, hparts⟩ := (hprogram.succeeds reply).mp ⟨value, hvalue⟩
      obtain ⟨hmore, hothers⟩ := ((hnext value).succeeds reply).mp ⟨result, hresult⟩
      exact ⟨⟨hcondition, hmore⟩, hparts, hothers⟩
    · rintro ⟨⟨hcondition, hmore⟩, hparts, hothers⟩
      obtain ⟨value, hvalue⟩ := (hprogram.succeeds reply).mpr ⟨hcondition, hparts⟩
      obtain ⟨result, hresult⟩ := ((hnext value).succeeds reply).mpr ⟨hmore, hothers⟩
      exact ⟨result, value, hvalue, hresult⟩

/-- A first step that only asks is passed with its answer. -/
theorem ask_bind {query : Query} {next : query.Answer → ViewM β}
    (hnext : (next (answer query)).Needs answer model condition parts) :
    (ViewM.ask query >>= next).Needs answer model condition parts where
  requests := .ask_bind hnext.requests
  succeeds := hnext.succeeds

theorem expect_bind {kind : Kind} {pick : Node → Option α} {next : α → ViewM β} {node : Node}
    {picked : α} (hnode : model.node = node) (hpick : pick node = some picked)
    (hnext : (next picked).Needs answer model condition parts) :
    (ViewM.expect kind pick model >>= next).Needs answer model condition parts := by
  have hexpect : ViewM.expect kind pick model = Pure.pure picked := by
    simp [ViewM.expect, hnode, hpick]
  rw [hexpect, pure_bind]
  exact hnext

/-- A guard adds its condition to what the program behind it needs. -/
theorem guard {bad : Prop} [Decidable bad] {error : RenderError} {program : ViewM α}
    (hprogram : program.Needs answer model condition parts) :
    (if bad then MonadExcept.throw error else program).Needs answer model (¬ bad ∧ condition)
      parts := by
  by_cases hbad : bad
  · constructor
    · simp only [hbad, if_true]
      exact .throw error
    · simp [hbad]
  · simpa [hbad] using hprogram

theorem of_iff {program : ViewM α} (hprogram : program.Needs answer model condition parts)
    (hcondition : condition ↔ more) : program.Needs answer model more parts where
  requests := hprogram.requests
  succeeds := by
    intro reply
    rw [hprogram.succeeds, hcondition]

theorem renderAll (part : Part) (separator : String) :
    (ViewM.renderAll (model.children part) separator).Needs answer model True [part] :=
  ((children part).bind fun _ => pure _).of_iff (by simp)

end ViewM.Needs

end TableScribe
