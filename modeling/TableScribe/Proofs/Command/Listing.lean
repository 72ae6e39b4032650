/-
The list of tables that a check prints.  Checking goes through the same tables
as generating and asks for the same dialects, so the lines on tables that are
not skipped stand for the generated files.
-/
import Mathlib.Data.List.TakeWhile
import TableScribe.Command.Run
import TableScribe.Proofs.Entity.Generation

namespace TableScribe

namespace Command

def skippedLine (fullName : String) : String :=
  "    table " ++ fullName ++ " (system schema, skipped)"

def columnsLine (fullName : String) (count : Nat) : String :=
  "    table " ++ fullName ++ " (" ++ toString count ++ " columns)"

end Command

namespace TableSite

variable {site : TableSite}

/-- The line on a table in the list of a check. -/
def line (site : TableSite) : String :=
  if site.isExcluded .initial then Command.skippedLine site.fullName
  else Command.columnsLine site.fullName site.columns.length

theorem tableLine_path (project : Project) :
    Command.tableLine (site.path project) = do
      let naming ← NamingConvention.ofDialect (site.dialect .initial)
      if naming.isExcluded site.schema.name then return some (Command.skippedLine site.fullName)
      else return some (Command.columnsLine site.fullName site.columns.length) := rfl

theorem tableLine_of_naming?_eq_some {naming : NamingConvention}
    (hnaming : site.naming? .initial = some naming) (project : Project) :
    Command.tableLine (site.path project) = .ok (some site.line) := by
  rw [tableLine_path, naming?_eq_some_iff.mp hnaming, line, isExcluded_of_naming?_eq_some hnaming]
  change (if naming.isExcluded site.schema.name then pure _ else pure _) = _
  cases naming.isExcluded site.schema.name <;> rfl

theorem tableLine_of_naming?_eq_none (hnaming : site.naming? .initial = none) (project : Project) :
    Command.tableLine (site.path project) = .error (.unknownDialect (site.dialect .initial)) := by
  rw [tableLine_path, ofDialect_of_naming?_eq_none hnaming]
  rfl

def hasDialect (site : TableSite) : Bool := (site.naming? .initial).isSome

end TableSite

namespace Command

/-- The tables are listed up to the first one of an unknown dialect. -/
theorem tableLines_map_path (project : Project) (sites : List TableSite) :
    tableLines (sites.map (TableSite.path project)) =
      ((sites.takeWhile TableSite.hasDialect).map TableSite.line,
        (sites.find? fun site => !site.hasDialect).map fun site =>
          .unknownDialect (site.dialect .initial)) := by
  induction sites with
  | nil => rfl
  | cons site rest ih =>
      rw [List.map_cons, tableLines]
      cases hnaming : site.naming? .initial with
      | none =>
          rw [TableSite.tableLine_of_naming?_eq_none hnaming]
          simp [TableSite.hasDialect, hnaming]
      | some naming =>
          rw [TableSite.tableLine_of_naming?_eq_some hnaming, ih]
          simp [TableSite.hasDialect, hnaming]

/-- A check succeeds exactly if all dialects are known. -/
theorem failure_checkProject_eq_none_iff {input : String} {project : Project} :
    (checkProject input project).failure = none ↔
      ∀ site ∈ project.enabledSites, site.hasDialect = true := by
  simp [checkProject, Project.enabledTables_eq_map, tableLines_map_path]

/-- Loading a project changes nothing. -/
theorem run_load (files : FileSystem) (input : String) :
    (load FileSystem.disk input).run files =
      (match files.read input with
        | .error error => .error (.file error)
        | .ok bytes => Project.ofBytes bytes, files) := by
  change StateT.run (match files.read input with
    | .error error => pure (.error (.file error))
    | .ok bytes => pure (Project.ofBytes bytes)) files = _
  cases files.read input <;> rfl

theorem run_check_of_load {files : FileSystem} {input : String} {project : Project}
    (hload : (load FileSystem.disk input).run files = (.ok project, files)) :
    (check FileSystem.disk input).run files = (checkProject input project, files) := by
  rw [check, StateT.run_bind, hload]
  rfl

namespace Shop

/-- A project with a table of its own and one of a system schema. -/
def project : Project where
  name := "shop"
  javaAlias := none
  enabled := true
  package := none
  dbmses := [⟨"main", none, true, "MySQL", [
    ⟨"shop", none, true, [
      ⟨"user", none, true, [⟨"id", none, true, "BIGINT", false, true⟩], [⟨"id", none, true⟩]⟩]⟩,
    ⟨"sys", none, true, [⟨"host", none, true, [], []⟩]⟩]⟩]

end Shop

end Command

end TableScribe
