/-
Projects with documents left out or tables changed.  The enabled tables of such
a project are those of the project itself, with the documents above each of
them changed along with it.
-/
import TableScribe.Proofs.Document.PrimaryKey
import TableScribe.Proofs.Document.TableSite

namespace TableScribe

/-- A schema without its disabled tables. -/
def Schema.enabledOnly (schema : Schema) : Schema :=
  { schema with tables := schema.tables.filter Table.enabled }

/-- A database system without its disabled schemas and their disabled tables. -/
def Dbms.enabledOnly (dbms : Dbms) : Dbms :=
  { dbms with schemas := (dbms.schemas.filter Schema.enabled).map Schema.enabledOnly }

/-- A project without its disabled database systems, schemas and tables. -/
def Project.enabledOnly (project : Project) : Project :=
  { project with dbmses := (project.dbmses.filter Dbms.enabled).map Dbms.enabledOnly }

def Schema.mapTables (change : Table → Table) (schema : Schema) : Schema :=
  { schema with tables := schema.tables.map change }

def Dbms.mapTables (change : Table → Table) (dbms : Dbms) : Dbms :=
  { dbms with schemas := dbms.schemas.map (Schema.mapTables change) }

def Project.mapTables (change : Table → Table) (project : Project) : Project :=
  { project with dbmses := project.dbmses.map (Dbms.mapTables change) }

/-- A table without the disabled columns whose name the primary key does not
use. -/
def Table.withoutUnusedColumns (table : Table) : Table :=
  { table with
    columns := table.columns.filter fun column => column.enabled || table.isPrimaryKey column }

/-- A project without what is disabled: its disabled database systems, schemas
and tables, and the disabled columns whose name no primary key uses. -/
def Project.withoutDisabled (project : Project) : Project :=
  project.enabledOnly.mapTables Table.withoutUnusedColumns

/-- A table without the disabled references of its primary key. -/
def Table.withoutDisabledKeys (table : Table) : Table :=
  { table with keyColumns := table.keyColumns.filter KeyColumn.enabled }

/-- A project without the disabled references of its primary keys. -/
def Project.withoutDisabledKeys (project : Project) : Project :=
  project.mapTables Table.withoutDisabledKeys

namespace TableSite

/-- A table below documents without what is disabled. -/
def enabledOnly (site : TableSite) : TableSite :=
  ⟨site.dbms.enabledOnly, site.schema.enabledOnly, site.table⟩

/-- A table changed along with all tables beside it. -/
def mapTables (change : Table → Table) (site : TableSite) : TableSite :=
  ⟨site.dbms.mapTables change, site.schema.mapTables change, change site.table⟩

end TableSite

/-- What is kept stays kept after a change that keeps whether it is. -/
theorem filter_map_of_keeps {α : Type} {keep : α → Bool} {change : α → α}
    (hchange : ∀ item, keep (change item) = keep item) {items : List α} :
    (items.map change).filter keep = (items.filter keep).map change := by
  have hkeep : keep ∘ change = keep := funext hchange
  rw [List.filter_map, hkeep]

namespace Project

theorem enabledSites_enabledOnly (project : Project) :
    project.enabledOnly.enabledSites = project.enabledSites.map TableSite.enabledOnly := by
  have hdbmses : ∀ dbms : Dbms, dbms.enabledOnly.enabled = dbms.enabled := fun _ => rfl
  have hschemas : ∀ schema : Schema, schema.enabledOnly.enabled = schema.enabled := fun _ => rfl
  cases hproject : project.enabled with
  | false => simp [enabledSites, enabledOnly, hproject]
  | true =>
      simp only [enabledSites, enabledOnly, hproject, if_true, filter_map_of_keeps hdbmses,
        List.filter_filter, Bool.and_self, List.flatMap_map, List.map_flatMap, List.map_map]
      refine List.flatMap_congr fun dbms _ => ?_
      simp only [Dbms.enabledOnly, filter_map_of_keeps hschemas, List.filter_filter,
        Bool.and_self, List.flatMap_map]
      refine List.flatMap_congr fun schema _ => ?_
      simp only [Schema.enabledOnly, List.filter_filter, Bool.and_self]
      rfl

theorem enabledSites_mapTables {change : Table → Table}
    (hchange : ∀ table, (change table).enabled = table.enabled) (project : Project) :
    (project.mapTables change).enabledSites =
      project.enabledSites.map (TableSite.mapTables change) := by
  have hdbmses : ∀ dbms : Dbms, (dbms.mapTables change).enabled = dbms.enabled := fun _ => rfl
  have hschemas : ∀ schema : Schema, (schema.mapTables change).enabled = schema.enabled :=
    fun _ => rfl
  cases hproject : project.enabled with
  | false => simp [enabledSites, mapTables, hproject]
  | true =>
      simp only [enabledSites, mapTables, hproject, if_true, filter_map_of_keeps hdbmses,
        List.flatMap_map, List.map_flatMap, List.map_map]
      refine List.flatMap_congr fun dbms _ => ?_
      simp only [Dbms.mapTables, filter_map_of_keeps hschemas, List.flatMap_map]
      refine List.flatMap_congr fun schema _ => ?_
      simp only [Schema.mapTables, filter_map_of_keeps hchange, List.map_map]
      rfl

end Project

namespace Table

theorem columns_filter_withoutUnusedColumns (table : Table) :
    table.withoutUnusedColumns.columns.filter Column.enabled =
      table.columns.filter Column.enabled := by
  simp only [withoutUnusedColumns, List.filter_filter]
  refine List.filter_congr fun column _ => ?_
  cases column.enabled <;> simp

/-- A reference means the same column when columns are left out that no
reference names. -/
theorem resolve_withoutUnusedColumns {table : Table} {key : KeyColumn}
    (hkey : key ∈ table.keyColumns) :
    table.withoutUnusedColumns.resolve key = table.resolve key := by
  have hused : ∀ column : Column, (column.name == key.name) = true →
      table.isPrimaryKey column = true := by
    intro column hname
    rw [beq_iff_eq] at hname
    exact List.any_eq_true.mpr ⟨key, hkey, by simp [hname]⟩
  have hcolumn : table.withoutUnusedColumns.column? key.name = table.column? key.name := by
    simp only [column?, withoutUnusedColumns, List.find?_filter]
    congr 1
    funext column
    cases hname : column.name == key.name with
    | false => simp
    | true => simp [hused column hname]
  simp only [resolve, hcolumn]
  rfl

/-- The columns of the key are all in use, so the key stays. -/
theorem primaryKey_withoutUnusedColumns (table : Table) :
    table.withoutUnusedColumns.primaryKey = table.primaryKey :=
  mapM_congr fun _ hkey => resolve_withoutUnusedColumns hkey

variable {table : Table}

theorem isPrimaryKey_of_withoutDisabledKeys {column : Column}
    (hkey : table.withoutDisabledKeys.isPrimaryKey column = true) :
    table.isPrimaryKey column = true := by
  obtain ⟨key, hmem, hname⟩ := List.any_eq_true.mp hkey
  exact List.any_eq_true.mpr ⟨key, (List.mem_filter.mp hmem).1, hname⟩

theorem danglingKey?_withoutDisabledKeys {key : KeyColumn} (hkey : table.danglingKey? = some key)
    (henabled : key.enabled = true) : table.withoutDisabledKeys.danglingKey? = some key := by
  unfold danglingKey? at hkey ⊢
  obtain ⟨hdangling, before, after, hkeys, hbefore⟩ := List.find?_eq_some_iff_append.mp hkey
  refine List.find?_eq_some_iff_append.mpr
    ⟨hdangling, before.filter KeyColumn.enabled, after.filter KeyColumn.enabled, ?_, ?_⟩
  · simp [withoutDisabledKeys, hkeys, henabled]
  · exact fun earlier hearlier => hbefore earlier (List.mem_filter.mp hearlier).1

theorem exists_danglingKey?_of_withoutDisabledKeys {key : KeyColumn}
    (hkey : table.withoutDisabledKeys.danglingKey? = some key) :
    ∃ other, table.danglingKey? = some other := by
  have hmem := (List.mem_filter.mp (List.mem_of_find?_eq_some hkey)).1
  obtain ⟨hdangling, -⟩ := List.find?_eq_some_iff_append.mp hkey
  rw [← Option.isSome_iff_exists, danglingKey?, List.find?_isSome]
  exact ⟨key, hmem, hdangling⟩

end Table

end TableScribe
