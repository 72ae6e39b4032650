/-
Views as functions.  Once the answers to its questions and the replies to its
requests are given, a program comes to one result; evaluation is a morphism of
monads, so the text of a view is read off its definition.
-/
import TableScribe.Proofs.Render.Contexts

namespace TableScribe

variable {α β : Type}

/-- The answers to a view's questions, given the models being rendered,
innermost first. -/
def answersIn (stack : List Model) : (query : Query) → query.Answer
  | .last kind => stack.find? fun model => model.kind = kind
  | .lastOfAny kinds => stack.find? fun model => kinds.contains model.kind
  | .depth kind => stack.countP fun model => model.kind = kind
  | .idle => stack.isEmpty

/-- A generator answers from its contexts what can be read off the stack. -/
theorem Generator.answer_enterAll_new (registry : Registry) (stack : List Model) :
    ((Generator.new registry).enterAll stack).answer = answersIn stack := by
  funext query
  cases query with
  | last kind => exact answer_last_enterAll_new registry stack kind
  | lastOfAny kinds => exact answer_lastOfAny_enterAll_new registry stack kinds
  | depth kind => exact Generator.depth_enterAll_new registry stack kind
  | idle =>
      have hidle := Generator.isIdle_enterAll_new registry stack
      change ((Generator.new registry).enterAll stack).isIdle = stack.isEmpty
      rw [Bool.eq_iff_iff, hidle, List.isEmpty_iff]

namespace Program

variable (answer : (query : Query) → query.Answer) (reply : Call → Rendered)

/-- What a program comes to with given answers and replies. -/
def eval : Program α → α
  | done result => result
  | ask query next => (next (answer query)).eval
  | call request next => (next (reply request)).eval

/-- With given answers and whatever replies, a program makes no other requests
than these. -/
def Requests (allowed : Call → Prop) : Program α → Prop
  | done _ => True
  | ask query next => (next (answer query)).Requests allowed
  | call request next => allowed request ∧ ∀ rendered, (next rendered).Requests allowed

theorem eval_bind (program : Program α) (next : α → Program β) :
    (program.bind next).eval answer reply =
      (next (program.eval answer reply)).eval answer reply := by
  induction program with
  | done result => rfl
  | ask query answers ih => exact ih _
  | call request replies ih => exact ih _

variable {answer} {reply}

theorem Requests.bind {allowed : Call → Prop} {program : Program α} {next : α → Program β}
    (hprogram : program.Requests answer allowed)
    (hnext : ∀ result, (next result).Requests answer allowed) :
    (program.bind next).Requests answer allowed := by
  induction program with
  | done result => exact hnext result
  | ask query answers ih => exact ih _ hprogram
  | call request replies ih => exact ⟨hprogram.1, fun rendered => ih _ (hprogram.2 rendered)⟩

theorem Requests.mono {allowed more : Call → Prop} (hmore : ∀ call, allowed call → more call)
    {program : Program α} (hprogram : program.Requests answer allowed) :
    program.Requests answer more := by
  induction program with
  | done result => exact trivial
  | ask query answers ih => exact ih _ hprogram
  | call request replies ih =>
      exact ⟨hmore _ hprogram.1, fun rendered => ih _ (hprogram.2 rendered)⟩

/-- Only the replies to its requests matter to a program. -/
theorem Requests.eval_congr {allowed : Call → Prop} {other : Call → Rendered}
    {program : Program α} (hprogram : program.Requests answer allowed)
    (hreply : ∀ call, allowed call → reply call = other call) :
    program.eval answer reply = program.eval answer other := by
  induction program with
  | done result => rfl
  | ask query answers ih => exact ih _ hprogram
  | call request replies ih =>
      simp only [eval, hreply request hprogram.1]
      exact ih _ (hprogram.2 _)

/-- A program is carried out as it is evaluated, if its requests are. -/
theorem Requests.run_eq {allowed : Call → Prop}
    {carryOut : Call → Generator → Option (Rendered × Generator)} {generator : Generator}
    {program : Program α} (hprogram : program.Requests generator.answer allowed)
    (hcarry : ∀ call, allowed call →
      carryOut call generator = some (reply call, generator)) :
    program.run carryOut generator =
      some (program.eval generator.answer reply, generator) := by
  induction program with
  | done result => rfl
  | ask query answers ih => exact ih _ hprogram
  | call request replies ih =>
      simp only [run, eval, hcarry request hprogram.1]
      exact ih _ (hprogram.2 _)

theorem bind_done (program : Program α) : program.bind done = program := by
  induction program with
  | done result => rfl
  | ask query answers ih => exact congrArg (ask query) (funext ih)
  | call request replies ih => exact congrArg (call request) (funext ih)

theorem bind_assoc {γ : Type} (program : Program α) (first : α → Program β)
    (second : β → Program γ) :
    (program.bind first).bind second = program.bind fun result => (first result).bind second := by
  induction program with
  | done result => rfl
  | ask query answers ih => exact congrArg (ask query) (funext ih)
  | call request replies ih => exact congrArg (call request) (funext ih)

instance : LawfulMonad Program :=
  LawfulMonad.mk' Program bind_done (fun _ _ => rfl) bind_assoc

end Program

namespace ViewM

/-- What a view comes to with given answers and replies. -/
def eval (answer : (query : Query) → query.Answer) (reply : Call → Rendered) (program : ViewM α) :
    Except RenderError α :=
  program.run.eval answer reply

def Requests (answer : (query : Query) → query.Answer) (allowed : Call → Prop)
    (program : ViewM α) : Prop :=
  program.run.Requests answer allowed

@[simp] theorem ok_bind (result : α) (next : α → Except RenderError β) :
    Except.ok result >>= next = next result := rfl

section

variable (answer : (query : Query) → query.Answer) (reply : Call → Rendered)

@[simp] theorem eval_pure (result : α) :
    (pure result : ViewM α).eval answer reply = .ok result := rfl

@[simp] theorem eval_throw (error : RenderError) :
    (throw error : ViewM α).eval answer reply = .error error := rfl

@[simp] theorem eval_ask (query : Query) :
    (ask query).eval answer reply = .ok (answer query) := rfl

@[simp] theorem eval_render (model : Model) :
    (render model).eval answer reply = reply (.render model) := rfl

@[simp] theorem eval_ofExcept (result : Except RenderError α) :
    (ofExcept result).eval answer reply = result := rfl

@[simp] theorem eval_bind (program : ViewM α) (next : α → ViewM β) :
    (program >>= next).eval answer reply =
      program.eval answer reply >>= fun result => (next result).eval answer reply := by
  change (program.run.bind (ExceptT.bindCont next)).eval answer reply = _
  rw [Program.eval_bind]
  unfold eval
  cases program.run.eval answer reply <;> rfl

@[simp] theorem eval_map (f : α → β) (program : ViewM α) :
    (f <$> program).eval answer reply = f <$> program.eval answer reply := by
  rw [map_eq_pure_bind, eval_bind, map_eq_pure_bind]
  rfl

@[simp] theorem eval_mapM (items : List α) (f : α → ViewM β) :
    (items.mapM f).eval answer reply = items.mapM fun item => (f item).eval answer reply := by
  induction items with
  | nil => rfl
  | cons head rest ih => simp [List.mapM_cons, ih]

@[simp] theorem eval_ite (condition : Prop) [Decidable condition] (first second : ViewM α) :
    (if condition then first else second).eval answer reply =
      if condition then first.eval answer reply else second.eval answer reply := by
  split <;> rfl

@[simp] theorem eval_expect (kind : Kind) (pick : Node → Option α) (model : Model) :
    (expect kind pick model).eval answer reply =
      (pick model.node).elim (.error (.mismatch kind model.kind)) .ok := by
  unfold expect
  cases pick model.node <;> rfl

@[simp] theorem eval_lastOfAny (kinds : List Kind) :
    (lastOfAny kinds).eval answer reply =
      (answer (.lastOfAny kinds)).elim (.error (.noAncestorOfAny kinds)) .ok := by
  rw [lastOfAny, eval_bind, eval_ask, ok_bind]
  cases answer (.lastOfAny kinds) <;> rfl

@[simp] theorem eval_renderAll (models : List Model) (separator : String) :
    (renderAll models separator).eval answer reply =
      joinNonEmpty separator <$> models.mapM fun model => reply (.render model) := by
  simp [renderAll]

end

namespace Requests

variable {answer : (query : Query) → query.Answer} {allowed : Call → Prop}

theorem pure (result : α) : (Pure.pure result : ViewM α).Requests answer allowed := trivial

theorem throw (error : RenderError) :
    (MonadExcept.throw error : ViewM α).Requests answer allowed := trivial

theorem ofExcept (result : Except RenderError α) :
    (ViewM.ofExcept result).Requests answer allowed := trivial

theorem render {model : Model} (hallowed : allowed (.render model)) :
    (ViewM.render model).Requests answer allowed :=
  ⟨hallowed, fun _ => trivial⟩

theorem bind {program : ViewM α} {next : α → ViewM β}
    (hprogram : program.Requests answer allowed)
    (hnext : ∀ result, (next result).Requests answer allowed) :
    (program >>= next).Requests answer allowed := by
  apply Program.Requests.bind hprogram
  intro result
  cases result with
  | error error => exact trivial
  | ok result => exact hnext result

theorem ask_bind {query : Query} {next : query.Answer → ViewM β}
    (hnext : (next (answer query)).Requests answer allowed) :
    (ViewM.ask query >>= next).Requests answer allowed := hnext

theorem mapM_render {models : List Model}
    (hmodels : ∀ model ∈ models, allowed (.render model)) :
    (models.mapM ViewM.render).Requests answer allowed := by
  induction models with
  | nil => exact trivial
  | cons head rest ih =>
      rw [List.mapM_cons]
      refine bind (render (hmodels head List.mem_cons_self)) fun _ => bind (ih ?_) fun _ => pure _
      intro model hmodel
      exact hmodels model (List.mem_cons_of_mem _ hmodel)

end Requests

end ViewM

end TableScribe
