/-
Disabled documents leave no trace.  Without them a project has the same enabled
tables, and the entity of each of these is formed from enabled columns and from
the columns that its primary key uses.
-/
import TableScribe.Proofs.Document.Pruning
import TableScribe.Proofs.Entity.Generation

namespace TableScribe

namespace TableSite

variable {settings : EntitySettings} {base : String} {site : TableSite}

/-- A table keeps its entity when what the entity is formed from is kept. -/
theorem entity?_mapTables {change : Table → Table}
    (hclass : Entity.className (change site.table) = Entity.className site.table)
    (hname : (change site.table).name = site.table.name)
    (hcolumns : (change site.table).columns.filter Column.enabled =
      site.table.columns.filter Column.enabled)
    (hkey : (change site.table).primaryKey = site.table.primaryKey) :
    (site.mapTables change).entity? settings base = site.entity? settings base := by
  have hentity (naming : NamingConvention) (key : List Column) :
      (site.mapTables change).entity settings base naming key =
        site.entity settings base naming key := by
    simp only [entity, head, frame, columns, fullName, mapTables, hclass, hname, hcolumns]
    rfl
  simp only [entity?, hentity]
  simp only [mapTables, hkey]
  rfl

end TableSite

namespace EntityGenerator

theorem generate_enabledOnly (generator : EntityGenerator) (project : Project) :
    generator.generate project.enabledOnly = generator.generate project :=
  generate_congr generator rfl project.enabledSites_enabledOnly fun _ _ _ => rfl

theorem generate_mapTables_withoutUnusedColumns (generator : EntityGenerator) (project : Project) :
    generator.generate (project.mapTables Table.withoutUnusedColumns) =
      generator.generate project := by
  have henabled : ∀ table : Table, table.withoutUnusedColumns.enabled = table.enabled :=
    fun _ => rfl
  refine generate_congr generator rfl (Project.enabledSites_mapTables henabled project) ?_
  intro site _ base
  exact TableSite.entity?_mapTables rfl rfl site.table.columns_filter_withoutUnusedColumns
    site.table.primaryKey_withoutUnusedColumns

/-- Deleting what is disabled changes neither the files of a project nor the
error of a generation that fails. -/
theorem generate_withoutDisabled (generator : EntityGenerator) (project : Project) :
    generator.generate project.withoutDisabled = generator.generate project := by
  rw [Project.withoutDisabled, generate_mapTables_withoutUnusedColumns, generate_enabledOnly]

end EntityGenerator

end TableScribe
