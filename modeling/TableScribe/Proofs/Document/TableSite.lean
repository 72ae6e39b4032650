/-
The enabled tables of a project, level by level: the walk over the whole project
finds the enabled tables of the enabled schemas of the enabled database systems.
-/
import Mathlib.Data.List.Basic
import TableScribe.Proofs.Document.Traversal

namespace TableScribe

/-- A table with the documents above it. -/
structure TableSite where
  dbms : Dbms
  schema : Schema
  table : Table

namespace TableSite

def path (project : Project) (site : TableSite) : DocumentPath :=
  ⟨[.project project, .dbms site.dbms, .schema site.schema], .table site.table⟩

end TableSite

/-- The tables that are enabled together with all above them, in document
order. -/
def Project.enabledSites (project : Project) : List TableSite :=
  if project.enabled then
    (project.dbmses.filter Dbms.enabled).flatMap fun dbms =>
      (dbms.schemas.filter Schema.enabled).flatMap fun schema =>
        (schema.tables.filter Table.enabled).map fun table => ⟨dbms, schema, table⟩
  else
    []

/-- The project cut down to one table and the documents above it. -/
def Project.only (project : Project) (site : TableSite) : Project :=
  { project with dbmses := [{ site.dbms with
    schemas := [{ site.schema with tables := [site.table] }] }] }

/-- The table among the documents that are left when its project is cut down. -/
def TableSite.alone (site : TableSite) : TableSite where
  dbms := { site.dbms with schemas := [{ site.schema with tables := [site.table] }] }
  schema := { site.schema with tables := [site.table] }
  table := site.table

theorem Project.enabledSites_only {project : Project} {site : TableSite}
    (hsite : site ∈ project.enabledSites) : (project.only site).enabledSites = [site.alone] := by
  unfold enabledSites at hsite
  split at hsite
  case isTrue hproject =>
    simp only [List.mem_flatMap, List.mem_map, List.mem_filter] at hsite
    obtain ⟨dbms, ⟨-, hdbms⟩, schema, ⟨-, hschema⟩, table, ⟨-, htable⟩, rfl⟩ := hsite
    simp [enabledSites, only, TableSite.alone, hproject, hdbms, hschema, htable]
  case isFalse => exact absurd hsite List.not_mem_nil

theorem TableSite.mem_of_mem_enabledSites {project : Project} {site : TableSite}
    (hsite : site ∈ project.enabledSites) : site.dbms ∈ project.dbmses ∧
      site.schema ∈ site.dbms.schemas ∧ site.table ∈ site.schema.tables := by
  unfold Project.enabledSites at hsite
  split at hsite
  case isTrue =>
    simp only [List.mem_flatMap, List.mem_map, List.mem_filter] at hsite
    obtain ⟨dbms, ⟨hdbms, -⟩, schema, ⟨hschema, -⟩, table, ⟨htable, -⟩, rfl⟩ := hsite
    exact ⟨hdbms, hschema, htable⟩
  case isFalse => exact absurd hsite List.not_mem_nil

namespace DocumentPath

/-- Whether a path is that of an enabled table. -/
def isEnabledTable (path : DocumentPath) : Bool :=
  path.document.level == .table && path.isEnabled

theorem isEnabled_child (path : DocumentPath) (child : Document) :
    (path.child child).isEnabled = (child.enabled && path.isEnabled) := by
  simp [DocumentPath.isEnabled, DocumentPath.child, Bool.and_comm]

theorem isEnabled_child_of_enabled {path : DocumentPath} {child : Document}
    (hpath : path.isEnabled = true) (hchild : child.enabled = true) :
    (path.child child).isEnabled = true := by
  simp [isEnabled_child, hpath, hchild]

/-- Nothing is enabled below what is disabled. -/
theorem filter_walk_of_disabled {path : DocumentPath} (hdisabled : path.isEnabled = false) :
    path.walk.filter isEnabledTable = [] := by
  induction path using walk.induct with
  | case1 path ih =>
      have hpath : path.isEnabledTable = false := by simp [isEnabledTable, hdisabled]
      rw [walk_eq, List.filter_cons_of_neg (by simp [hpath]), List.filter_flatMap,
        List.flatMap_eq_nil_iff]
      intro below hbelow
      obtain ⟨child, hchild, rfl⟩ := List.mem_map.mp hbelow
      exact ih ⟨child, hchild⟩ (by simp [isEnabled_child, hdisabled])

/-- Above the tables, the walk finds the enabled ones in the walks below. -/
theorem filter_walk_eq_flatMap {path : DocumentPath} (hlevel : path.document.level ≠ .table) :
    path.walk.filter isEnabledTable =
      path.children.flatMap fun below => below.walk.filter isEnabledTable := by
  have hpath : path.isEnabledTable = false := by simp [isEnabledTable, hlevel]
  rw [walk_eq, List.filter_cons_of_neg (by simp [hpath]), List.filter_flatMap]

theorem filter_walk_of_level_ne {path : DocumentPath} (hlevel : path.document.level ≠ .table) :
    path.walk.filter isEnabledTable =
      (path.document.children.filter Document.enabled).flatMap fun child =>
        (path.child child).walk.filter isEnabledTable := by
  rw [filter_walk_eq_flatMap hlevel, children, List.flatMap_map]
  induction path.document.children with
  | nil => rfl
  | cons child rest ih =>
      cases hchild : child.enabled with
      | true => simp [hchild, ih]
      | false =>
          have hbelow : (path.child child).isEnabled = false := by
            simp [isEnabled_child, hchild]
          simp [hchild, ih, filter_walk_of_disabled hbelow]

theorem filter_walk_table {path : DocumentPath} {table : Table}
    (henabled : path.isEnabled = true) (htable : path.document = .table table) :
    path.walk.filter isEnabledTable = [path] := by
  have hpath : path.isEnabledTable = true := by
    simp [isEnabledTable, henabled, htable, Document.level]
  rw [walk_eq, List.filter_cons_of_pos hpath, List.filter_flatMap]
  congr 1
  rw [List.flatMap_eq_nil_iff]
  intro below hbelow
  obtain ⟨child, hchild, rfl⟩ := List.mem_map.mp hbelow
  rw [htable] at hchild
  have hleaf : child.children = [] ∧ child.level ≠ .table := by
    rcases List.mem_append.mp hchild with hcolumn | hkey
    · obtain ⟨column, -, rfl⟩ := List.mem_map.mp hcolumn
      exact ⟨rfl, by simp [Document.level]⟩
    · obtain ⟨key, -, rfl⟩ := List.mem_map.mp hkey
      exact ⟨rfl, by simp [Document.level]⟩
  rw [walk_eq]
  simp [children, DocumentPath.child, hleaf, isEnabledTable]

theorem filter_walk_schema {path : DocumentPath} {schema : Schema}
    (henabled : path.isEnabled = true) (hschema : path.document = .schema schema) :
    path.walk.filter isEnabledTable =
      (schema.tables.filter Table.enabled).map fun table => path.child (.table table) := by
  rw [filter_walk_of_level_ne (by simp [hschema, Document.level]), hschema, Document.children,
    List.filter_map, List.flatMap_map, List.map_eq_flatMap]
  refine List.flatMap_congr fun table htable => ?_
  exact filter_walk_table (isEnabled_child_of_enabled henabled (List.mem_filter.mp htable).2) rfl

theorem filter_walk_dbms {path : DocumentPath} {dbms : Dbms} (henabled : path.isEnabled = true)
    (hdbms : path.document = .dbms dbms) :
    path.walk.filter isEnabledTable =
      (dbms.schemas.filter Schema.enabled).flatMap fun schema =>
        (schema.tables.filter Table.enabled).map fun table =>
          (path.child (.schema schema)).child (.table table) := by
  rw [filter_walk_of_level_ne (by simp [hdbms, Document.level]), hdbms, Document.children,
    List.filter_map, List.flatMap_map]
  refine List.flatMap_congr fun schema hschema => ?_
  exact filter_walk_schema (isEnabled_child_of_enabled henabled (List.mem_filter.mp hschema).2) rfl

end DocumentPath

open DocumentPath in
/-- The enabled tables are found in document order. -/
theorem Project.enabledTables_eq_map (project : Project) :
    project.enabledTables = project.enabledSites.map (TableSite.path project) := by
  change (traverse project).filter isEnabledTable = _
  rw [traverse_eq_walk]
  cases hproject : project.enabled with
  | false =>
      have hroot : (root project).isEnabled = false := by
        simp [DocumentPath.isEnabled, root, Document.enabled, hproject]
      simp [filter_walk_of_disabled hroot, enabledSites, hproject]
  | true =>
      have hroot : (root project).isEnabled = true := by
        simp [DocumentPath.isEnabled, root, Document.enabled, hproject]
      simp only [enabledSites, hproject, if_true, List.map_flatMap, List.map_map]
      rw [filter_walk_of_level_ne (by simp [root, Document.level]), root, Document.children,
        List.filter_map, List.flatMap_map]
      refine List.flatMap_congr fun dbms hdbms => ?_
      exact filter_walk_dbms (isEnabled_child_of_enabled hroot (List.mem_filter.mp hdbms).2) rfl

end TableScribe
