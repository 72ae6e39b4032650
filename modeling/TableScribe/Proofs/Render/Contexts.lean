/-
The contexts of the kinds as projections of the one stack of renderings, and
the answers to a view's questions as searches in that stack.
-/
import TableScribe.Proofs.Render.CallStack
import TableScribe.Proofs.Render.Passage

namespace TableScribe

variable {α : Type}

/-- The renderings of a stack, each with its height above the bottom. -/
def ranked : List Model → List Entry
  | [] => []
  | model :: outer => ⟨model, outer.length + 1⟩ :: ranked outer

theorem ranked_map_model (stack : List Model) : (ranked stack).map Entry.model = stack := by
  induction stack with
  | nil => rfl
  | cons model outer ih => simp [ranked, ih]

theorem depth_le_length_of_mem_ranked {stack : List Model} {entry : Entry}
    (hentry : entry ∈ ranked stack) : entry.depth ≤ stack.length := by
  induction stack with
  | nil => simp [ranked] at hentry
  | cons model outer ih =>
      simp only [ranked, List.mem_cons] at hentry
      rcases hentry with rfl | hentry
      · simp
      · exact Nat.le_succ_of_le (ih hentry)

theorem find?_ranked (stack : List Model) (wanted : Model → Bool) :
    ((ranked stack).find? fun entry => wanted entry.model).map Entry.model =
      stack.find? wanted := by
  induction stack with
  | nil => rfl
  | cons model outer ih =>
      cases hwanted : wanted model with
      | true => simp [ranked, hwanted]
      | false => simpa [ranked, hwanted] using ih

theorem find?_or_of_eq_none {entries : List Entry} (first : Entry → Bool)
    {second : Entry → Bool} (hnone : entries.find? second = none) :
    entries.find? first = entries.find? fun entry => first entry || second entry := by
  induction entries with
  | nil => rfl
  | cons head rest ih =>
      simp only [List.find?_eq_none, List.mem_cons, forall_eq_or_imp] at hnone
      have hrest := ih (List.find?_eq_none.mpr hnone.2)
      cases hfirst : first head with
      | true => simp [hfirst]
      | false => simpa [hfirst, hnone.1] using hrest

namespace Generator

/-- The later one of two entries found in a ranked stack is the first that
either search finds. -/
theorem laterOf_find?_ranked (stack : List Model) (first second : Entry → Bool) {entry : Entry}
    (hentry : (ranked stack).find? second = some entry) :
    laterOf ((ranked stack).find? first) entry =
      (ranked stack).find? fun other => first other || second other := by
  induction stack with
  | nil => simp [ranked] at hentry
  | cons model outer ih =>
      cases hfirst : first ⟨model, outer.length + 1⟩ with
      | true =>
          cases hsecond : second ⟨model, outer.length + 1⟩ with
          | true =>
              simp only [ranked, List.find?_cons, hsecond, Option.some.injEq] at hentry
              subst hentry
              simp [ranked, laterOf, hfirst]
          | false =>
              simp only [ranked, List.find?_cons, hsecond] at hentry
              have hdepth := depth_le_length_of_mem_ranked (List.mem_of_find?_eq_some hentry)
              have hlater : ¬ outer.length + 1 ≤ entry.depth := by omega
              simp [ranked, laterOf, hfirst, hlater]
      | false =>
          cases hsecond : second ⟨model, outer.length + 1⟩ with
          | true =>
              simp only [ranked, List.find?_cons, hsecond, Option.some.injEq] at hentry
              subst hentry
              cases hfound : (ranked outer).find? first with
              | none => simp [ranked, laterOf, hfirst, hsecond, hfound]
              | some other =>
                  have hdepth := depth_le_length_of_mem_ranked (List.mem_of_find?_eq_some hfound)
                  have hlater : other.depth ≤ outer.length + 1 := by omega
                  simp [ranked, laterOf, hfirst, hsecond, hfound, hlater]
          | false =>
              simp only [ranked, List.find?_cons, hsecond] at hentry
              simpa [ranked, hfirst, hsecond] using ih hentry

theorem get_enter (generator : Generator) (model : Model) (kind : Kind) :
    ((generator.enter model).contexts.get kind).entries =
      if model.kind = kind then
        ⟨model, generator.active + 1⟩ :: (generator.contexts.get kind).entries
      else (generator.contexts.get kind).entries := by
  by_cases hkind : model.kind = kind
  · subst hkind
    simp [enter, PerKind.get_set, Context.push]
  · simp [enter, PerKind.get_set, hkind]

section New

variable (registry : Registry) (stack : List Model)

theorem active_enterAll_new : ((new registry).enterAll stack).active = stack.length := by
  induction stack with
  | nil => rfl
  | cons model outer ih => simp [enter, ih]

/-- The context of a kind is what the stack has of that kind. -/
theorem entries_enterAll_new (kind : Kind) :
    (((new registry).enterAll stack).contexts.get kind).entries =
      (ranked stack).filter fun entry => entry.model.kind = kind := by
  induction stack with
  | nil => simp [new, ranked, Context.empty]
  | cons model outer ih =>
      rw [enterAll_cons, get_enter, ih, active_enterAll_new]
      by_cases hkind : model.kind = kind
      · simp [ranked, hkind]
      · simp [ranked, hkind]

theorem top?_enterAll_new (kind : Kind) :
    ((new registry).enterAll stack).top? kind =
      (ranked stack).find? fun entry => entry.model.kind = kind := by
  rw [top?, Context.top?, entries_enterAll_new, List.head?_filter]

theorem depth_enterAll_new (kind : Kind) :
    ((new registry).enterAll stack).depth kind = stack.countP fun model => model.kind = kind := by
  have hmodels := congrArg (List.countP fun model => model.kind = kind) (ranked_map_model stack)
  rw [List.countP_map] at hmodels
  rw [depth, Context.size_eq, entries_enterAll_new, ← List.countP_eq_length_filter]
  exact hmodels

/-- A generator is idle exactly if no rendering has begun. -/
theorem isIdle_enterAll_new :
    ((new registry).enterAll stack).isIdle = true ↔ stack = [] := by
  constructor
  · intro hidle
    cases stack with
    | nil => rfl
    | cons model outer =>
        have hkind : model.kind ∈ Kind.all := by
          cases model.kind <;> decide
        have hempty := List.all_eq_true.mp hidle _ hkind
        rw [Context.isEmpty, entries_enterAll_new] at hempty
        simp [ranked] at hempty
  · rintro rfl
    apply List.all_eq_true.mpr
    intro kind _
    rw [Context.isEmpty, entries_enterAll_new]
    rfl

/-- The contexts of several kinds are compared by the heights of their tops,
which are those in the stack. -/
theorem topOfAny?_enterAll_new (kinds : List Kind) :
    ((new registry).enterAll stack).topOfAny? kinds =
      (ranked stack).find? fun entry => kinds.contains entry.model.kind := by
  have hfold : ∀ (kinds : List Kind) (seen : Entry → Bool),
      (kinds.filterMap ((new registry).enterAll stack).top?).foldl laterOf
          ((ranked stack).find? seen) =
        (ranked stack).find? fun entry => seen entry || kinds.contains entry.model.kind := by
    intro kinds
    induction kinds with
    | nil => simp
    | cons kind rest ih =>
        intro seen
        have htop := top?_enterAll_new registry stack kind
        cases hfound : (ranked stack).find? fun entry => entry.model.kind = kind with
        | none =>
            rw [hfound] at htop
            rw [List.filterMap_cons_none htop, find?_or_of_eq_none seen hfound, ih]
            congr 1
            funext other
            simp [Bool.or_assoc, eq_comm]
        | some entry =>
            rw [hfound] at htop
            rw [List.filterMap_cons_some htop, List.foldl_cons,
              laterOf_find?_ranked stack seen _ hfound, ih]
            congr 1
            funext other
            simp [Bool.or_assoc, eq_comm]
  have hnone : (ranked stack).find? (fun _ => false) = none := by simp
  have hall := hfold kinds fun _ => false
  rw [hnone] at hall
  simpa [topOfAny?] using hall

end New

end Generator

namespace ViewM

theorem run_ask_bind {α : Type} (carryOut : Call → Generator → Option (Rendered × Generator))
    (generator : Generator) (query : Query) (next : query.Answer → ViewM α) :
    (ask query >>= next).run.run carryOut generator =
      (next (generator.answer query)).run.run carryOut generator := rfl

theorem run_last (carryOut : Call → Generator → Option (Rendered × Generator))
    (generator : Generator) (kind : Kind) :
    (last kind).run.run carryOut generator =
      some ((generator.answer (.last kind)).elim (.error (.noAncestor kind)) .ok, generator) := by
  rw [last, run_ask_bind]
  cases generator.answer (.last kind) <;> rfl

theorem run_lastOfAny (carryOut : Call → Generator → Option (Rendered × Generator))
    (generator : Generator) (kinds : List Kind) :
    (lastOfAny kinds).run.run carryOut generator =
      some ((generator.answer (.lastOfAny kinds)).elim (.error (.noAncestorOfAny kinds)) .ok,
        generator) := by
  rw [lastOfAny, run_ask_bind]
  cases generator.answer (.lastOfAny kinds) <;> rfl

end ViewM

/-- The contexts of a generator are the projections of one stack of models, and
every question about them is a search in that stack.  The generator that
`Generator.render` hands to the views is always so,
`Generator.projects_throughout_render`. -/
structure Generator.Projects (generator : Generator) (stack : List Model) : Prop where
  /-- A context holds the models of its kind, each with its height in the stack. -/
  entries : ∀ kind, (generator.contexts.get kind).entries =
    (ranked stack).filter fun entry => entry.model.kind = kind
  active : generator.active = stack.length
  depth : ∀ kind, generator.depth kind = stack.countP fun model => model.kind = kind
  isIdle : generator.isIdle = true ↔ stack = []
  /-- The innermost model of a kind is the one nearest the top. -/
  last : ∀ kind carryOut, (ViewM.last kind).run.run carryOut generator =
    some ((stack.find? fun model => model.kind = kind).elim (.error (.noAncestor kind)) .ok,
      generator)
  /-- The innermost model of several kinds is the one nearest the top, in
  whatever order and how often the kinds are listed. -/
  lastOfAny : ∀ kinds carryOut, (ViewM.lastOfAny kinds).run.run carryOut generator =
    some ((stack.find? fun model => kinds.contains model.kind).elim
      (.error (.noAncestorOfAny kinds)) .ok, generator)
  lastOfAny_fails : ∀ kinds carryOut,
    (ViewM.lastOfAny kinds).run.run carryOut generator =
        some (.error (.noAncestorOfAny kinds), generator) ↔
      ∀ model ∈ stack, model.kind ∉ kinds

theorem Generator.answer_last_enterAll_new (registry : Registry) (stack : List Model)
    (kind : Kind) : ((Generator.new registry).enterAll stack).answer (.last kind) =
      stack.find? fun model => model.kind = kind := by
  change (((Generator.new registry).enterAll stack).top? kind).map Entry.model = _
  rw [Generator.top?_enterAll_new]
  exact find?_ranked stack fun model => model.kind = kind

theorem Generator.answer_lastOfAny_enterAll_new (registry : Registry) (stack : List Model)
    (kinds : List Kind) : ((Generator.new registry).enterAll stack).answer (.lastOfAny kinds) =
      stack.find? fun model => kinds.contains model.kind := by
  change (((Generator.new registry).enterAll stack).topOfAny? kinds).map Entry.model = _
  rw [Generator.topOfAny?_enterAll_new]
  exact find?_ranked stack fun model => kinds.contains model.kind

/-- A new generator with renderings begun projects their stack. -/
theorem Generator.projects_enterAll_new (registry : Registry) (stack : List Model) :
    ((Generator.new registry).enterAll stack).Projects stack := by
  refine ⟨Generator.entries_enterAll_new registry stack,
    Generator.active_enterAll_new registry stack,
    Generator.depth_enterAll_new registry stack,
    Generator.isIdle_enterAll_new registry stack, ?_, ?_, ?_⟩
  · intro kind carryOut
    rw [ViewM.run_last, Generator.answer_last_enterAll_new]
  · intro kinds carryOut
    rw [ViewM.run_lastOfAny, Generator.answer_lastOfAny_enterAll_new]
  · intro kinds carryOut
    rw [ViewM.run_lastOfAny, Generator.answer_lastOfAny_enterAll_new]
    cases hfound : stack.find? fun model => kinds.contains model.kind with
    | none =>
        simp only [Option.elim_none, true_iff]
        simpa using List.find?_eq_none.mp hfound
    | some model =>
        have hmem := List.mem_of_find?_eq_some hfound
        have hkind := List.find?_some hfound
        simp only [List.contains_eq_mem, decide_eq_true_eq] at hkind
        simp only [Option.elim_some, Option.some.injEq, Prod.mk.injEq, reduceCtorEq, and_true,
          false_iff]
        exact fun hnone => hnone model hmem hkind

theorem Moment.projects_of_reached {registry : Registry} {driver : Program α} {moment : Moment α}
    (hreached : Reached registry driver moment) : moment.generator.Projects moment.stack := by
  rw [generator_of_reached hreached]
  exact Generator.projects_enterAll_new registry moment.stack

/-- So it is all the way through a rendering, from the model to its text. -/
theorem Generator.projects_throughout_render {registry : Registry} {model : Model}
    {rendered : Rendered} {after : Generator}
    (hrender : (new registry).render model = some (rendered, after)) :
    ∃ moments, Moment.Passage (Moment.start registry (ViewM.render model).run) moments
        (.outside (.done rendered) after) ∧
      ∀ moment ∈ moments, moment.generator.Projects moment.stack :=
  exists_passage_of_render hrender fun _ => Moment.projects_of_reached

/-- An idle generator of a run is a new one. -/
theorem Moment.generator_eq_new {registry : Registry} {driver : Program α} {moment : Moment α}
    (hreached : Reached registry driver moment) (hidle : moment.generator.isIdle = true) :
    moment.generator = Generator.new registry := by
  have hgenerator := generator_of_reached hreached
  rw [hgenerator] at hidle
  rw [hgenerator, (Generator.isIdle_enterAll_new registry moment.stack).mp hidle]
  rfl

namespace Recovery

/-- A view that fails on fields.  Elsewhere it renders a field, and if that
fails it goes on with the message of the error. -/
def view : View := fun model =>
  if model.kind = .field then throw (.invalidModel .field "unsupported")
  else tryCatch (ViewM.render (model.child .fields 0 (.field (.plain "id" .void))))
    fun error => return error.message

def registry : Registry := ⟨Kind.all.map fun _ => view, rfl⟩

def owner : Model := Model.root 0 (.declaration (.ofClass (.named "User") []))

def field : Model := owner.child .fields 0 (.field (.plain "id" .void))

/-- The run in which the class is rendered, after some steps. -/
def momentAfter (steps : Nat) : Moment Rendered :=
  (Moment.start registry (ViewM.render owner).run).after steps

end Recovery

/-- At every moment of a run, inside or outside a view, the contexts are the
projections of the stack of the renderings in progress. -/
theorem contexts_project_call_stack (registry : Registry) (driver : Program α)
    {moment : Moment α} (hreached : Moment.Reached registry driver moment) :
    moment.generator.Projects moment.stack :=
  Moment.projects_of_reached hreached

theorem contexts_project_nested_rendering :
    Moment.Reached Recovery.registry (ViewM.render Recovery.owner).run (Recovery.momentAfter 2) ∧
      (Recovery.momentAfter 2).stack = [Recovery.field, Recovery.owner] ∧
      (Recovery.momentAfter 2).generator.Projects [Recovery.field, Recovery.owner] :=
  ⟨Moment.leads_after _ 2, rfl,
    contexts_project_call_stack Recovery.registry _ (Moment.leads_after _ 2)⟩

end TableScribe
