/-
Builders over whole runs.  What a builder holds is known from the views
installed since it was made: of each kind the last one counts, and a kind is
listed as replaced each time that it had come before.  A registry, once built,
is not touched by what the builder does later.
-/
import Mathlib.Data.List.Induction
import TableScribe.Java.Views
import TableScribe.Proofs.Render.Building

namespace TableScribe

/-- The kinds of a list that have come before in it, in order. -/
def repeated (kinds : List Kind) : List Kind :=
  (kinds.zipIdx.filter fun entry => entry.1 ∈ kinds.take entry.2).map Prod.fst

/-- The view that was installed last for a kind. -/
def lastInstalled? (history : List (Kind × View)) (kind : Kind) : Option View :=
  (history.filter fun entry => entry.1 = kind).getLast?.map Prod.snd

theorem repeated_append_singleton (kinds : List Kind) (kind : Kind) :
    repeated (kinds ++ [kind]) = repeated kinds ++ if kind ∈ kinds then [kind] else [] := by
  have hearlier : (kinds.zipIdx.filter fun entry => entry.1 ∈ (kinds ++ [kind]).take entry.2) =
      kinds.zipIdx.filter fun entry => entry.1 ∈ kinds.take entry.2 := by
    apply List.filter_congr
    intro entry hentry
    have hle : entry.2 ≤ kinds.length := Nat.le_of_lt (List.snd_lt_of_mem_zipIdx hentry)
    rw [List.take_append_of_le_length hle]
  unfold repeated
  rw [List.zipIdx_append, List.filter_append, List.map_append, hearlier]
  congr 1
  by_cases hkind : kind ∈ kinds <;> simp [hkind]

theorem lastInstalled?_append_singleton (history : List (Kind × View)) (kind other : Kind)
    (view : View) : lastInstalled? (history ++ [(kind, view)]) other =
      if kind = other then some view else lastInstalled? history other := by
  by_cases hkind : kind = other <;> simp [lastInstalled?, hkind]

theorem isSome_lastInstalled?_iff {history : List (Kind × View)} {kind : Kind} :
    (lastInstalled? history kind).isSome = true ↔ kind ∈ history.map Prod.fst := by
  simp [lastInstalled?]

theorem mem_of_lastInstalled?_eq_some {history : List (Kind × View)} {kind : Kind} {view : View}
    (hlast : lastInstalled? history kind = some view) : (kind, view) ∈ history := by
  obtain ⟨entry, hentry, rfl⟩ := Option.map_eq_some_iff.mp hlast
  obtain ⟨hmem, hkind⟩ := List.mem_filter.mp (List.mem_of_getLast? hentry)
  obtain rfl : entry.1 = kind := by simpa using hkind
  exact hmem

namespace RegistryBuilder

theorem installAll_append (builder : RegistryBuilder) (first second : List (Kind × View)) :
    builder.installAll (first ++ second) = (builder.installAll first).installAll second :=
  List.foldl_append

/-- Of each kind the view installed last counts. -/
theorem get_installAll (builder : RegistryBuilder) (history : List (Kind × View)) (kind : Kind) :
    (builder.installAll history).views.get kind =
      (lastInstalled? history kind).or (builder.views.get kind) := by
  induction history using List.reverseRecOn with
  | nil => rfl
  | append_singleton history entry ih =>
      rw [installAll_append]
      change ((builder.installAll history).install entry.1 entry.2).views.get kind = _
      rw [install, PerKind.get_set, lastInstalled?_append_singleton, ih]
      split <;> rfl

theorem isInstalled_installAll_empty {history : List (Kind × View)} {kind : Kind} :
    (empty.installAll history).isInstalled kind = true ↔ kind ∈ history.map Prod.fst := by
  rw [isInstalled, get_installAll, ← isSome_lastInstalled?_iff]
  simp [empty]

/-- A kind is listed as replaced each time that it had come before. -/
theorem overridden_installAll_empty (history : List (Kind × View)) :
    (empty.installAll history).overridden = repeated (history.map Prod.fst) := by
  induction history using List.reverseRecOn with
  | nil => rfl
  | append_singleton history entry ih =>
      rw [installAll_append, List.map_append, List.map_singleton, repeated_append_singleton, ← ih]
      change (if (empty.installAll history).isInstalled entry.1 = true then _ else _) = _
      simp only [isInstalled_installAll_empty]
      split
      · rfl
      · rw [List.append_nil]

theorem missing_installAll_empty (history : List (Kind × View)) :
    (empty.installAll history).missing =
      Kind.all.filter fun kind => kind ∉ history.map Prod.fst := by
  apply List.filter_congr
  intro kind _
  rw [Bool.eq_iff_iff, Bool.not_eq_true', ← Bool.not_eq_true, isInstalled_installAll_empty,
    decide_eq_true_iff]

theorem get_java (kind : Kind) : java.views.get kind = some (Java.view kind) := by
  cases kind <;> rfl

end RegistryBuilder

/-- A call to a builder.  A view is a function already, so there is one way to
install a view. -/
inductive BuilderCall
  | install (kind : Kind) (view : View)
  /-- Install the Java view of every kind. -/
  | installDefaults
  | build

/-- What is installed by a call, in order. -/
def BuilderCall.installs : BuilderCall → List (Kind × View)
  | install kind view => [(kind, view)]
  | installDefaults => Kind.all.map fun kind => (kind, Java.view kind)
  | build => []

/-- A builder during a run, and what the builds so far have come to. -/
structure BuilderRun where
  builder : RegistryBuilder
  outcomes : List (Except RegistryError Registry)

/-- A run with one more call. -/
def BuilderRun.step (run : BuilderRun) : BuilderCall → BuilderRun
  | .install kind view => { run with builder := run.builder.install kind view }
  | .installDefaults => { run with builder := run.builder.installDefaults }
  | .build => { run with outcomes := run.outcomes ++ [run.builder.build] }

/-- How a builder is made. -/
inductive BuilderOrigin
  | empty
  /-- With the Java view of every kind. -/
  | java

namespace BuilderOrigin

def builder : BuilderOrigin → RegistryBuilder
  | empty => .empty
  | java => .java

/-- What is installed when the builder is made. -/
def installs : BuilderOrigin → List (Kind × View)
  | empty => []
  | java => Kind.all.map fun kind => (kind, Java.view kind)

/-- A run of some calls to a new builder. -/
def run (origin : BuilderOrigin) (calls : List BuilderCall) : BuilderRun :=
  calls.foldl BuilderRun.step ⟨origin.builder, []⟩

/-- All that is installed in a run, from the creation of the builder on. -/
def history (origin : BuilderOrigin) (calls : List BuilderCall) : List (Kind × View) :=
  origin.installs ++ calls.flatMap BuilderCall.installs

variable {origin : BuilderOrigin}

theorem run_append_singleton (calls : List BuilderCall) (call : BuilderCall) :
    origin.run (calls ++ [call]) = (origin.run calls).step call := by
  simp [run]

/-- A call changes the builder by what it installs, and nothing else. -/
theorem builder_step (run : BuilderRun) (call : BuilderCall) :
    (run.step call).builder = run.builder.installAll call.installs := by
  cases call <;> rfl

/-- The builder of a run is known from what was installed. -/
theorem builder_run (calls : List BuilderCall) :
    (origin.run calls).builder = RegistryBuilder.empty.installAll (origin.history calls) := by
  induction calls using List.reverseRecOn with
  | nil => cases origin <;> rfl
  | append_singleton calls call ih =>
      rw [run_append_singleton, builder_step, ih, ← RegistryBuilder.installAll_append]
      simp [history]

/-- A call leaves the outcomes of earlier builds as they are. -/
theorem isPrefix_outcomes_step (run : BuilderRun) (call : BuilderCall) :
    run.outcomes <+: (run.step call).outcomes := by
  cases call with
  | build => exact List.prefix_append _ _
  | install kind view => exact List.prefix_rfl
  | installDefaults => exact List.prefix_rfl

/-- Later calls leave the outcomes of earlier builds as they are. -/
theorem isPrefix_outcomes_run (calls later : List BuilderCall) :
    (origin.run calls).outcomes <+: (origin.run (calls ++ later)).outcomes := by
  induction later using List.reverseRecOn with
  | nil => simp
  | append_singleton later call ih =>
      rw [← List.append_assoc, run_append_singleton]
      exact ih.trans (isPrefix_outcomes_step _ call)

/-- A build at any point of a run comes to what the builder yields at that
point, and that stays among the outcomes whatever is called later. -/
theorem getElem?_outcomes_run (calls later : List BuilderCall) :
    (origin.run (calls ++ .build :: later)).outcomes[(origin.run calls).outcomes.length]? =
      some (origin.run calls).builder.build := by
  have hbuild : (origin.run (calls ++ [.build])).outcomes =
      (origin.run calls).outcomes ++ [(origin.run calls).builder.build] := by
    rw [run_append_singleton]
    rfl
  obtain ⟨others, hothers⟩ := @isPrefix_outcomes_run origin (calls ++ [.build]) later
  rw [List.append_assoc, List.singleton_append, hbuild] at hothers
  simp [← hothers]

/-- A run of a builder, whatever the calls are.  The kinds replaced are those
that had a view when they were installed, counted from the creation of the
builder.  A build succeeds exactly if every kind was installed, and otherwise
names those that were not, in the order of the kinds.  The registry has for each
kind the view that was installed last before the build.  A build does not change
the builder, and nothing that follows changes what it came to. -/
theorem run_follows_installs (origin : BuilderOrigin) (calls : List BuilderCall) :
    let history := origin.history calls
    let kinds := history.map Prod.fst
    let outcome := (origin.run calls).builder.build
    (origin.run calls).builder.overridden = repeated kinds ∧
      ((∃ registry, outcome = .ok registry) ↔ ∀ kind, kind ∈ kinds) ∧
      (∀ error, outcome = .error error →
        error = .missingViews (Kind.all.filter fun kind => kind ∉ kinds)) ∧
      (∀ registry, outcome = .ok registry → ∀ kind, ∃ view,
        lastInstalled? history kind = some view ∧ registry.get? kind = some view) ∧
      (origin.run (calls ++ [.build])).builder = (origin.run calls).builder ∧
      ∀ later, (origin.run (calls ++ .build :: later)).outcomes[
        (origin.run calls).outcomes.length]? = some outcome := by
  intro history kinds outcome
  have hbuilder : (origin.run calls).builder = RegistryBuilder.empty.installAll history :=
    builder_run calls
  have hget (kind : Kind) :
      (origin.run calls).builder.views.get kind = lastInstalled? history kind := by
    rw [hbuilder, RegistryBuilder.get_installAll]
    simp [RegistryBuilder.empty]
  refine ⟨?_, ?_, ?_, ?_, ?_, getElem?_outcomes_run calls⟩
  · rw [hbuilder, RegistryBuilder.overridden_installAll_empty]
  · rw [RegistryBuilder.exists_build_iff]
    simp only [hget, isSome_lastInstalled?_iff, kinds]
  · intro error herror
    rw [← RegistryBuilder.missing_installAll_empty, ← hbuilder]
    simp only [outcome, RegistryBuilder.build] at herror
    split at herror
    · simp at herror
    · exact (Except.error.inj herror).symm
  · intro registry hregistry kind
    have hcovered := RegistryBuilder.exists_build_iff.mp ⟨registry, hregistry⟩ kind
    obtain ⟨view, hview⟩ := Option.isSome_iff_exists.mp hcovered
    refine ⟨view, (hget kind).symm.trans hview, ?_⟩
    rw [RegistryBuilder.get?_of_build hregistry, hview]
  · rw [run_append_singleton]
    rfl

end BuilderOrigin

end TableScribe
