/-
How views fail.  A view either throws an error of its own or hands on the error
of a child, so the causes for which views fail are known from what each of them
throws.
-/
import TableScribe.Proofs.Render.Needs

namespace TableScribe

variable {α β : Type}

/-- With given answers, a program fails for these causes only, provided that the
children of a model do. -/
def ViewM.FailsBy (answer : (query : Query) → query.Answer) (model : Model)
    (cause : RenderError → Prop) (program : ViewM α) : Prop :=
  ∀ reply : Call → Rendered,
    (∀ part, ∀ child ∈ model.children part, ∀ error, reply (.render child) = .error error →
      cause error) →
    ∀ error, program.eval answer reply = .error error → cause error

namespace ViewM.FailsBy

variable {answer : (query : Query) → query.Answer} {model : Model} {cause : RenderError → Prop}

theorem pure (result : α) : (Pure.pure result : ViewM α).FailsBy answer model cause :=
  fun _ _ _ herror => nomatch herror

theorem throw {error : RenderError} (hcause : cause error) :
    (MonadExcept.throw error : ViewM α).FailsBy answer model cause := by
  intro reply hreply other herror
  rw [eval_throw] at herror
  exact Except.error.inj herror ▸ hcause

theorem ofExcept {result : Except RenderError α}
    (hresult : ∀ error, result = .error error → cause error) :
    (ViewM.ofExcept result).FailsBy answer model cause :=
  fun _ _ => hresult

theorem ask (query : Query) : (ViewM.ask query).FailsBy answer model cause :=
  fun _ _ _ herror => nomatch herror

theorem bind {program : ViewM α} {next : α → ViewM β}
    (hprogram : program.FailsBy answer model cause)
    (hnext : ∀ result, (next result).FailsBy answer model cause) :
    (program >>= next).FailsBy answer model cause := by
  intro reply hreply error herror
  rw [eval_bind] at herror
  cases hfirst : program.eval answer reply with
  | error reason =>
      rw [hfirst] at herror
      exact Except.error.inj herror ▸ hprogram reply hreply reason hfirst
  | ok result =>
      rw [hfirst] at herror
      exact hnext result reply hreply error herror

/-- To have children rendered adds no error to theirs. -/
theorem children (part : Part) :
    ((model.children part).mapM ViewM.render).FailsBy answer model cause := by
  intro reply hreply error herror
  rw [eval_mapM] at herror
  obtain ⟨before, child, after, hchildren, -, hchild⟩ := mapM_eq_error_iff.mp herror
  exact hreply part child (by simp [hchildren]) error hchild

theorem renderAll (part : Part) (separator : String) :
    (ViewM.renderAll (model.children part) separator).FailsBy answer model cause :=
  (children part).bind fun _ => pure _

theorem expect_bind {kind : Kind} {pick : Node → Option α} {next : α → ViewM β} {picked : α}
    (hpick : pick model.node = some picked)
    (hnext : (next picked).FailsBy answer model cause) :
    (ViewM.expect kind pick model >>= next).FailsBy answer model cause := by
  have hexpect : ViewM.expect kind pick model = Pure.pure picked := by
    simp [ViewM.expect, hpick]
  rw [hexpect, pure_bind]
  exact hnext

theorem ite {condition : Prop} [Decidable condition] {first second : ViewM α}
    (hfirst : first.FailsBy answer model cause) (hsecond : second.FailsBy answer model cause) :
    (if condition then first else second).FailsBy answer model cause := by
  split
  · exact hfirst
  · exact hsecond

end ViewM.FailsBy

end TableScribe
