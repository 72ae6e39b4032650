/-
The options of the entity generator, set one after the other.  Whether an option
is accepted depends on nothing but itself.  An accepted one is the value of its
key from then on, and a rejected one ends the setting and changes nothing; so the
last option with a key decides, and a dialect that was set is a known one.
-/
import TableScribe.Proofs.Entity.Generation

namespace TableScribe

namespace EntitySettings

/-- Sets one option in place.  What is changed before a failure stays changed. -/
def assign (key value : String) : ExceptT CodegenError (StateM EntitySettings) Unit := do
  if key = "package" then
    if value.isEmpty then throw (.invalidOption key "package must not be empty")
    modify fun settings => { settings with package := some value }
  else if key = "dialect" then
    match NamingConvention.ofDialect value with
    | .ok _ => modify fun settings => { settings with dialect := some value }
    | .error error => throw (.invalidOption key error.message)
  else if key = "accessors" then
    if value = "true" then modify fun settings => { settings with accessors := true }
    else if value = "false" then modify fun settings => { settings with accessors := false }
    else throw (.invalidOption key ("expected true or false, got '" ++ value ++ "'"))
  else
    throw (.invalidOption key "unknown option, expected one of: package, dialect, accessors")

/-- Sets options in place, up to the first that is rejected. -/
def assignAll : List (String × String) → ExceptT CodegenError (StateM EntitySettings) Unit
  | [] => pure ()
  | (key, value) :: rest => do
    assign key value
    assignAll rest

def flagText (flag : Bool) : String := if flag then "true" else "false"

/-- The options that are accepted: a package that is not empty, a known dialect, a
truth value for the accessors. -/
inductive Accepted : String → String → Prop
  | package {value : String} (hvalue : value.isEmpty = false) : Accepted "package" value
  | dialect {value : String} {naming : NamingConvention}
      (hnaming : NamingConvention.ofDialect value = .ok naming) : Accepted "dialect" value
  | accessors (flag : Bool) : Accepted "accessors" (flagText flag)

/-- The text that a key is set to. -/
def value? (settings : EntitySettings) (key : String) : Option String :=
  if key = "package" then settings.package
  else if key = "dialect" then settings.dialect
  else if key = "accessors" then some (flagText settings.accessors)
  else none

/-- The values of the options with a key, in their order. -/
def valuesOf (key : String) (options : List (String × String)) : List String :=
  (options.filter fun option => option.1 == key).map Prod.snd

/-- Every option is accepted, and the last one with a key is its value; a key
without an option keeps the value that it had. -/
structure LastWins (settings : EntitySettings) (options : List (String × String))
    (left : EntitySettings) : Prop where
  accepted : ∀ option ∈ options, Accepted option.1 option.2
  value?_eq (key : String) :
    left.value? key = ((valuesOf key options).getLast?).or (settings.value? key)

/-- An option is rejected with an error for its key, and what the options before
it have set is left. -/
def StopsAt (settings : EntitySettings) (options : List (String × String)) (error : CodegenError)
    (left : EntitySettings) : Prop :=
  ∃ before key value after reason, options = before ++ (key, value) :: after ∧
    LastWins settings before left ∧ ¬ Accepted key value ∧
    left.set key value = .error error ∧ error = .invalidOption key reason

section

variable {settings left : EntitySettings} {options : List (String × String)}
  {key value : String}

theorem flagText_injective : Function.Injective flagText := by
  unfold Function.Injective
  decide

/-- Settings are known from the values of their keys. -/
theorem ext_value? {other : EntitySettings}
    (hvalues : ∀ key, settings.value? key = other.value? key) : settings = other := by
  obtain ⟨package, dialect, accessors⟩ := settings
  obtain ⟨package', dialect', accessors'⟩ := other
  obtain rfl : package = package' := hvalues "package"
  obtain rfl : dialect = dialect' := hvalues "dialect"
  obtain rfl : accessors = accessors' := flagText_injective (Option.some.inj (hvalues "accessors"))
  rfl

/-- An accepted option is the value of its key afterwards, and no other key changes. -/
theorem exists_set_of_accepted (haccepted : Accepted key value) (settings : EntitySettings) :
    ∃ after, settings.set key value = .ok after ∧
      ∀ other, after.value? other = if other = key then some value else settings.value? other := by
  cases haccepted with
  | package hvalue =>
      refine ⟨{ settings with package := some value }, by simp [set, hvalue], ?_⟩
      intro other
      by_cases hother : other = "package" <;> simp [value?, hother]
  | dialect hnaming =>
      refine ⟨{ settings with dialect := some value }, by simp [set, hnaming], ?_⟩
      intro other
      by_cases hother : other = "dialect" <;> simp [value?, hother]
  | accessors flag =>
      refine ⟨{ settings with accessors := flag }, by cases flag <;> simp [set, flagText], ?_⟩
      intro other
      by_cases hother : other = "accessors" <;> simp [value?, hother]

/-- An option that is not accepted is rejected whatever the settings are. -/
theorem exists_reason_of_not_accepted (hrejected : ¬ Accepted key value) :
    ∃ reason, ∀ settings : EntitySettings,
      settings.set key value = .error (.invalidOption key reason) := by
  -- Each key has its own test of a value, which the hypothesis fails.
  by_cases hpackage : key = "package"
  · subst hpackage
    cases hvalue : value.isEmpty with
    | true => exact ⟨"package must not be empty", fun settings => by simp [set, hvalue]⟩
    | false => exact absurd (.package hvalue) hrejected
  by_cases hdialect : key = "dialect"
  · subst hdialect
    cases hnaming : NamingConvention.ofDialect value with
    | error error => exact ⟨error.message, fun settings => by simp [set, hnaming]⟩
    | ok naming => exact absurd (.dialect hnaming) hrejected
  by_cases haccessors : key = "accessors"
  · subst haccessors
    have htrue : value ≠ "true" := by
      rintro rfl
      exact hrejected (.accessors true)
    have hfalse : value ≠ "false" := by
      rintro rfl
      exact hrejected (.accessors false)
    exact ⟨"expected true or false, got '" ++ value ++ "'", fun settings => by
      simp [set, htrue, hfalse]⟩
  · exact ⟨"unknown option, expected one of: package, dialect, accessors", fun settings => by
      simp [set, hpackage, hdialect, haccessors]⟩

theorem Accepted.exists_naming (haccepted : Accepted key value) (hkey : key = "dialect") :
    ∃ naming, NamingConvention.ofDialect value = .ok naming := by
  cases haccepted with
  | package hvalue => simp at hkey
  | @dialect value naming hnaming => exact ⟨naming, hnaming⟩
  | accessors flag => simp at hkey

theorem accepted_of_set_eq_ok {after : EntitySettings} (hset : settings.set key value = .ok after) :
    Accepted key value := by
  by_contra hrejected
  obtain ⟨reason, herror⟩ := exists_reason_of_not_accepted hrejected
  exact nomatch (herror settings).symm.trans hset

theorem not_accepted_of_set_eq_error {error : CodegenError}
    (hset : settings.set key value = .error error) :
    ¬ Accepted key value := by
  intro haccepted
  obtain ⟨after, hafter, -⟩ := exists_set_of_accepted haccepted settings
  exact nomatch hafter.symm.trans hset

theorem setAll_cons (settings : EntitySettings) (key value : String)
    (rest : List (String × String)) :
    settings.setAll ((key, value) :: rest) =
      settings.set key value >>= fun after => after.setAll rest := rfl

/-- Setting an option in place comes to the same, and a rejected one changes nothing. -/
theorem run_assign (key value : String) (settings : EntitySettings) :
    (assign key value).run.run settings =
      match settings.set key value with
      | .ok after => (.ok (), after)
      | .error error => (.error error, settings) := by
  unfold assign set
  split_ifs
  · rfl
  · rfl
  · cases NamingConvention.ofDialect value <;> rfl
  all_goals rfl

/-- What is left by a failure is forgotten when the settings are taken together. -/
theorem setAll_eq (settings : EntitySettings) (options : List (String × String)) :
    settings.setAll options =
      match (assignAll options).run.run settings with
      | (.ok (), left) => .ok left
      | (.error error, _) => .error error := by
  induction options generalizing settings with
  | nil => rfl
  | cons option rest ih =>
      obtain ⟨key, value⟩ := option
      rw [setAll_cons, assignAll, run_bind_eq, run_assign]
      cases settings.set key value with
      | error error => rfl
      | ok after => exact ih after

theorem run_assignAll_eq_ok_iff :
    (assignAll options).run.run settings = (.ok (), left) ↔ settings.setAll options = .ok left := by
  rw [setAll_eq]
  rcases (assignAll options).run.run settings with ⟨error | ⟨⟨⟩⟩, last⟩
  · exact ⟨nofun, nofun⟩
  · constructor
    · rintro ⟨⟩
      rfl
    · rintro ⟨⟩
      rfl

theorem valuesOf_cons (key first value : String) (rest : List (String × String)) :
    valuesOf key ((first, value) :: rest) =
      if key = first then value :: valuesOf key rest else valuesOf key rest := by
  by_cases hkey : key = first
  · simp [valuesOf, hkey]
  · simp [valuesOf, hkey, Ne.symm hkey]

theorem mem_valuesOf_iff : value ∈ valuesOf key options ↔ (key, value) ∈ options := by
  simp [valuesOf]

theorem LastWins.nil (settings : EntitySettings) : LastWins settings [] settings :=
  ⟨nofun, fun _ => rfl⟩

theorem LastWins.cons {after : EntitySettings} {rest : List (String × String)}
    (hset : settings.set key value = .ok after) (hrest : LastWins after rest left) :
    LastWins settings ((key, value) :: rest) left := by
  have haccepted := accepted_of_set_eq_ok hset
  refine ⟨List.forall_mem_cons.mpr ⟨haccepted, hrest.accepted⟩, ?_⟩
  intro other
  obtain ⟨same, hsame, hvalues⟩ := exists_set_of_accepted haccepted settings
  obtain rfl := Except.ok.inj (hset.symm.trans hsame)
  rw [hrest.value?_eq, hvalues, valuesOf_cons]
  by_cases hother : other = key
  · rw [if_pos hother, if_pos hother, List.getLast?_cons]
    cases (valuesOf other rest).getLast? <;> rfl
  · rw [if_neg hother, if_neg hother]

theorem lastWins_of_setAll_eq_ok (hsetAll : settings.setAll options = .ok left) :
    LastWins settings options left := by
  induction options generalizing settings with
  | nil =>
      obtain rfl := Except.ok.inj hsetAll
      exact .nil settings
  | cons option rest ih =>
      rw [setAll_cons, Except.bind_eq_ok_iff] at hsetAll
      obtain ⟨after, hset, hrest⟩ := hsetAll
      exact .cons hset (ih hrest)

theorem exists_setAll_of_accepted (haccepted : ∀ option ∈ options, Accepted option.1 option.2)
    (settings : EntitySettings) : ∃ left, settings.setAll options = .ok left := by
  induction options generalizing settings with
  | nil => exact ⟨settings, rfl⟩
  | cons option rest ih =>
      obtain ⟨hfirst, hrest⟩ := List.forall_mem_cons.mp haccepted
      obtain ⟨after, hset, -⟩ := exists_set_of_accepted hfirst settings
      obtain ⟨left, hleft⟩ := ih hrest after
      exact ⟨left, Except.bind_eq_ok_iff.mpr ⟨after, hset, hleft⟩⟩

/-- Options are all accepted, and leave given settings, exactly if these have the last value of
each key. -/
theorem setAll_eq_ok_iff : settings.setAll options = .ok left ↔ LastWins settings options left := by
  constructor
  · exact lastWins_of_setAll_eq_ok
  · intro hleft
    obtain ⟨last, hlast⟩ := exists_setAll_of_accepted hleft.accepted settings
    have hsame : last = left := ext_value? fun key =>
      ((lastWins_of_setAll_eq_ok hlast).value?_eq key).trans (hleft.value?_eq key).symm
    rw [hlast, hsame]

theorem assignAll_append (before rest : List (String × String)) :
    assignAll (before ++ rest) = assignAll before >>= fun _ => assignAll rest := by
  induction before with
  | nil => rfl
  | cons option before ih =>
      rw [List.cons_append, assignAll, assignAll, ih, bind_assoc]

/-- Options are set one by one up to the first that is rejected. -/
theorem run_assignAll_eq_error_iff {error : CodegenError} :
    (assignAll options).run.run settings = (.error error, left) ↔
      StopsAt settings options error left := by
  constructor
  · intro hrun
    -- The settings vary: the rest starts from what the first option has left.
    induction options generalizing settings with
    | nil => cases hrun
    | cons option rest ih =>
        obtain ⟨key, value⟩ := option
        rw [assignAll, run_bind_eq, run_assign] at hrun
        cases hset : settings.set key value with
        | error cause =>
            have hrejected := not_accepted_of_set_eq_error hset
            obtain ⟨reason, hreason⟩ := exists_reason_of_not_accepted hrejected
            rw [hset] at hrun
            obtain ⟨hcause, rfl⟩ := Prod.mk.inj hrun
            obtain rfl := Except.error.inj hcause
            exact ⟨[], key, value, rest, reason, rfl, .nil settings, hrejected, hset,
              Except.error.inj (hset.symm.trans (hreason settings))⟩
        | ok after =>
            rw [hset] at hrun
            obtain ⟨before, last, text, others, reason, rfl, hbefore, hstop⟩ := ih hrun
            exact ⟨(key, value) :: before, last, text, others, reason, rfl, .cons hset hbefore,
              hstop⟩
  · rintro ⟨before, key, value, after, reason, rfl, hbefore, -, hset, -⟩
    rw [assignAll_append, assignAll, run_bind_eq,
      run_assignAll_eq_ok_iff.mpr (setAll_eq_ok_iff.mpr hbefore)]
    dsimp only
    rw [run_bind_eq, run_assign, hset]

example : (assignAll [("package", "a"), ("dialect", "oracle"), ("package", "b")]).run.run .initial =
    (.error (.invalidOption "dialect" "unknown database dialect: oracle"),
      ⟨some "a", none, true⟩) := rfl

/-- Only the order of the options with one key matters. -/
theorem lastWins_congr {others : List (String × String)}
    (hvalues : ∀ key, valuesOf key others = valuesOf key options) :
    LastWins settings others left ↔ LastWins settings options left := by
  have hmem (option : String × String) : option ∈ others ↔ option ∈ options := by
    rw [← mem_valuesOf_iff, hvalues, mem_valuesOf_iff]
  constructor
  · rintro ⟨haccepted, hvalue⟩
    exact ⟨fun option hoption => haccepted option ((hmem option).mpr hoption),
      fun key => hvalues key ▸ hvalue key⟩
  · rintro ⟨haccepted, hvalue⟩
    exact ⟨fun option hoption => haccepted option ((hmem option).mp hoption),
      fun key => (hvalues key).symm ▸ hvalue key⟩

/-- A dialect that has been set by an option is a known one. -/
theorem LastWins.exists_dialect (hleft : LastWins settings options left)
    (hdialect : ("dialect", value) ∈ options) :
    ∃ name naming, left.dialect = some name ∧ NamingConvention.ofDialect name = .ok naming := by
  have hne : valuesOf "dialect" options ≠ [] :=
    List.ne_nil_of_mem (mem_valuesOf_iff.mpr hdialect)
  have hlast := List.getLast?_eq_some_getLast hne
  have hname := hleft.value?_eq "dialect"
  rw [hlast] at hname
  have haccepted := hleft.accepted _ (mem_valuesOf_iff.mp (List.getLast_mem hne))
  obtain ⟨naming, hnaming⟩ := haccepted.exists_naming rfl
  exact ⟨_, naming, hname, hnaming⟩

end

end EntitySettings

namespace EntityGenerator

theorem renderedFile_ne_schema (file : File) (outcome : Option (Rendered × Generator))
    (cause : SchemaError) : renderedFile file outcome ≠ .error (.schema cause) := by
  rcases outcome with _ | ⟨error | content, after⟩ <;> exact nofun

/-- Rendering fails for a reason of the views, not of the project. -/
theorem renderFiles_ne_schema (generator : Generator) (files : List File) (cause : SchemaError) :
    renderFiles generator files ≠ .error (.schema cause) := by
  induction files generalizing generator with
  | nil =>
      intro hnone
      cases hnone
  | cons file rest ih =>
      intro herror
      rw [renderFiles, Except.bind_eq_error_iff] at herror
      rcases herror with hfile | ⟨⟨generated, after⟩, -, hrest⟩
      · exact renderedFile_ne_schema file _ cause hfile
      · rcases Except.bind_eq_error_iff.mp hrest with hothers | ⟨others, -, hnone⟩
        · exact ih after hothers
        · cases hnone

/-- Whatever the views are, a dialect that is known is not reported as unknown. -/
theorem generate_ne_unknownDialect {settings : EntitySettings} {dialect : String}
    {naming : NamingConvention} (hdialect : settings.dialect = some dialect)
    (hnaming : NamingConvention.ofDialect dialect = .ok naming) (registry : Registry)
    (project : Project) (name : String) :
    generate ⟨settings, registry⟩ project ≠ .error (.schema (.unknownDialect name)) := by
  intro herror
  rw [generate, entities_eq] at herror
  cases hfound : found settings project with
  | error fault =>
      rw [hfound] at herror
      obtain rfl := CodegenError.schema.inj (Except.error.inj herror)
      obtain ⟨before, site, after, -, -, hfault⟩ := found_eq_error_iff.mp hfound
      cases hfault with
      | dialect hnone =>
          have hsite : site.dialect settings = dialect := by
            rw [TableSite.dialect, hdialect]
            rfl
          rw [← hsite, ← TableSite.naming?_eq_some_iff, hnone] at hnaming
          cases hnaming
  | ok entities =>
      rw [hfound] at herror
      exact renderFiles_ne_schema _ _ _ herror

end EntityGenerator

namespace EntitySettings

/-- Options are set up to the first that is rejected, which changes nothing and is
named by the error.  If all are accepted, the last one with a key is its value; so
only the order of the options with one key matters, and a dialect set in this way
is known to every generation. -/
theorem last_accepted_option_wins (settings : EntitySettings) (options : List (String × String)) :
    (∀ left, (assignAll options).run.run settings = (.ok (), left) ↔
      LastWins settings options left) ∧
    (∀ error left, (assignAll options).run.run settings = (.error error, left) ↔
      StopsAt settings options error left) ∧
    (settings.setAll options = match (assignAll options).run.run settings with
      | (.ok (), left) => .ok left
      | (.error error, _) => .error error) ∧
    (∀ others, (∀ key, valuesOf key others = valuesOf key options) →
      (settings.setAll others).toOption = (settings.setAll options).toOption) ∧
    ∀ left, LastWins settings options left → (∃ value, ("dialect", value) ∈ options) →
      ∀ registry project name,
        EntityGenerator.generate ⟨left, registry⟩ project ≠
          .error (.schema (.unknownDialect name)) := by
  refine ⟨?_, ?_, setAll_eq settings options, ?_, ?_⟩
  · intro left
    rw [run_assignAll_eq_ok_iff, setAll_eq_ok_iff]
  · intro error left
    exact run_assignAll_eq_error_iff
  · intro others hvalues
    have hsame (left : EntitySettings) :
        settings.setAll others = .ok left ↔ settings.setAll options = .ok left := by
      rw [setAll_eq_ok_iff, setAll_eq_ok_iff, lastWins_congr hvalues]
    cases hoptions : settings.setAll options with
    | ok left => rw [(hsame left).mpr hoptions]
    | error error =>
        cases hothers : settings.setAll others with
        | error cause => rfl
        | ok left => exact nomatch hoptions.symm.trans ((hsame left).mp hothers)
  · rintro left hleft ⟨value, hdialect⟩ registry project name
    obtain ⟨dialect, naming, hleftDialect, hnaming⟩ := hleft.exists_dialect hdialect
    exact EntityGenerator.generate_ne_unknownDialect hleftDialect hnaming registry project name

namespace Mixed

/-- Settings with a dialect that there is none of. -/
def settings : EntitySettings := ⟨none, some "oracle", true⟩

/-- Options of all keys, with two of one key. -/
def options : List (String × String) :=
  [("package", "a"), ("dialect", "MySQL"), ("accessors", "false"), ("package", "b")]

/-- The same options, where those of different keys have changed places. -/
def moved : List (String × String) :=
  [("dialect", "MySQL"), ("package", "a"), ("package", "b"), ("accessors", "false")]

theorem valuesOf_moved (key : String) : valuesOf key moved = valuesOf key options := by
  simp only [moved, options, valuesOf_cons]
  split_ifs <;> simp_all

end Mixed

theorem last_package_wins :
    LastWins Mixed.settings Mixed.options ⟨some "b", some "MySQL", false⟩ ∧
      (Mixed.settings.setAll Mixed.moved).toOption = some ⟨some "b", some "MySQL", false⟩ ∧
      ∀ registry project name,
        EntityGenerator.generate ⟨⟨some "b", some "MySQL", false⟩, registry⟩ project ≠
          .error (.schema (.unknownDialect name)) := by
  obtain ⟨hok, -, hsetAll, hmoved, hdialect⟩ :=
    last_accepted_option_wins Mixed.settings Mixed.options
  have hrun : (assignAll Mixed.options).run.run Mixed.settings =
      (.ok (), ⟨some "b", some "MySQL", false⟩) := rfl
  have hleft := (hok _).mp hrun
  refine ⟨hleft, ?_, hdialect _ hleft ⟨"MySQL", by decide⟩⟩
  rw [hmoved Mixed.moved Mixed.valuesOf_moved, hsetAll, hrun]
  rfl

end EntitySettings

end TableScribe
