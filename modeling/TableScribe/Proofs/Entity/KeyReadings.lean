/-
The readings of a primary key.  A key is looked up reference by reference, a column
is compared with the names of the references, and an entity compares its columns
with those that were looked up.  All three come to the same columns, by name.
-/
import TableScribe.Proofs.Document.PrimaryKey
import TableScribe.Proofs.Document.RelativeNames
import TableScribe.Proofs.Entity.Contents
import TableScribe.Proofs.Entity.Imports

namespace TableScribe.Entity

section

variable {frame : Frame} {columns : List Column}

theorem persistence_id_ne {type : String} (htype : type ∈ ["Entity", "Table", "Column",
    "GeneratedValue", "GenerationType"]) : persistence "Id" ≠ persistence type := by
  revert htype type
  decide

/-- The mark of a key stands on the fields of the columns that have the name of a key
column. -/
theorem exists_mark_iff_isKey (column : Column) :
    (∃ use ∈ frame.annotations column, use.name = persistence "Id") ↔
      frame.isKey column = true := by
  simp only [mem_annotations_iff]
  constructor
  · rintro ⟨use, ⟨hkey, -⟩ | ⟨-, rfl⟩ | huse, hname⟩
    · exact hkey
    · exact absurd hname.symm (persistence_id_ne (by decide))
    · have hcolumn : use.name = persistence "Column" := by
        rw [huse]
        cases column.nullable <;> rfl
      exact absurd (hname.symm.trans hcolumn) (persistence_id_ne (by decide))
  · intro hkey
    exact ⟨mark "Id", Or.inl ⟨hkey, rfl⟩, rfl⟩

/-- The mark of a key is imported exactly if there is a column to bear it. -/
theorem persistence_id_mem_neededNames_iff :
    persistence "Id" ∈ neededNames frame columns ↔
      ∃ column ∈ columns, frame.isKey column = true := by
  have hcommon : persistence "Id" ∉ commonImports := by decide
  have hvalue : persistence "Id" ≠ persistence "GeneratedValue" := persistence_id_ne (by decide)
  have hstrategy : persistence "Id" ≠ persistence "GenerationType" := persistence_id_ne (by decide)
  have htype (column : Column) : ¬ ((Java.columnType column.databaseType).needsImport = true ∧
      persistence "Id" = (Java.columnType column.databaseType).name) := by
    rintro ⟨hneeds, hname⟩
    have hmem := Java.name_columnType_mem hneeds
    rw [← hname] at hmem
    revert hmem
    decide
  simp [neededNames, hcommon, mem_importNames_iff, htype, hvalue, hstrategy]

end

/-- The primary key of a table is to be seen in a file: on the fields of the class, one
for each enabled column, and in the imports. -/
structure MarksKey (table : Table) (file : File) (head : ClassHead) : Prop where
  declares : file.declarations = [.ofClass head []]
  fields : List.Forall₂
    (fun column field => field.name = Frame.fieldName column ∧
      ((∃ use ∈ field.annotations, use.name = persistence "Id") ↔
        table.isPrimaryKey column = true))
    (table.columns.filter Column.enabled) head.fields
  imported_iff : persistence "Id" ∈ file.imports.map Import.path ↔
    (∃ column ∈ table.columns, column.enabled = true ∧ table.isPrimaryKey column = true) ∧
      head.name ≠ "Id"

section

variable {accessors : Bool} {path : DocumentPath} {base : String} {naming : NamingConvention}
  {file : File} {table : Table}

theorem exists_marksKey_of_file_eq_ok (hfile : Entity.file accessors path base naming = .ok file)
    (htable : path.document = .table table) :
    ∃ head, head.name = className table ∧ MarksKey table file head := by
  obtain ⟨key, head, hkey, hentity⟩ := exists_key_of_file_eq_ok hfile htable
  have hisKey (column : Column) : Frame.isKey ⟨className table, key, accessors⟩ column =
      table.isPrimaryKey column := Table.any_name_primaryKey hkey column
  refine ⟨head, hentity.name_head, ⟨hentity.declarations, ?_, ?_⟩⟩
  · obtain ⟨fullName, tableText, rfl⟩ := hentity.head
    refine List.forall₂_map_right_iff.mpr (List.forall₂_same.mpr fun column _ => ⟨rfl, ?_⟩)
    rw [← hisKey]
    exact exists_mark_iff_isKey column
  · have hsimple : simpleName (persistence "Id") = "Id" := by decide
    rw [hentity.imports, mem_map_path_importLines, persistence_id_mem_neededNames_iff, hsimple,
      hentity.name_head]
    simp only [hisKey, List.mem_filter, and_assoc, ne_eq]
    exact and_congr_right fun _ => not_congr eq_comm

/-- A table below a schema has no entity only if its primary key is not resolved. -/
theorem file_eq_error_iff {schema : Schema} (hschema : path.parent? = some (.schema schema))
    (htable : path.document = .table table) {error : SchemaError} :
    Entity.file accessors path base naming = .error error ↔ table.primaryKey = .error error := by
  have hancestor : path.ancestor? .schema = some (.schema schema) := by
    rw [DocumentPath.ancestor?, DocumentPath.eq_child_of_parent?_eq_some hschema]
    simp [DocumentPath.child, Document.level]
  have hfullName : path.fullTableName = .ok (schema.name ++ "." ++ path.document.name) := by
    simp [DocumentPath.fullTableName, DocumentPath.qualifiedName, hschema, Document.level,
      Document.name]
  unfold Entity.file
  rw [htable, hancestor]
  simp [Except.bind_eq_error_iff, hfullName, pure, Except.pure]

end

/-- The readings of a primary key agree: the columns looked up, the columns it is said to
name and the marked fields of the entity are the same. -/
theorem primaryKey_readings_agree (table : Table) : table.ResolvesKey ∧
    ∀ accessors path base naming, path.document = .table table →
      (∀ file, Entity.file accessors path base naming = .ok file →
        ∃ head, head.name = className table ∧ MarksKey table file head) ∧
      ∀ schema, path.parent? = some (.schema schema) → ∀ error,
        Entity.file accessors path base naming = .error error ↔
          table.primaryKey = .error error := by
  refine ⟨table.resolvesKey, fun accessors path base naming htable => ⟨?_, ?_⟩⟩
  · intro file hfile
    exact exists_marksKey_of_file_eq_ok hfile htable
  · intro schema hschema error
    exact file_eq_error_iff hschema htable

namespace Doubled

/-- Two columns of the name that a disabled reference and an enabled one use. -/
def table : Table where
  name := "lines"
  javaAlias := none
  enabled := true
  columns := [⟨"id", none, true, "INT", false, false⟩, ⟨"note", none, true, "TEXT", true, false⟩,
    ⟨"id", some "number", true, "BIGINT", false, false⟩]
  keyColumns := [⟨"id", none, false⟩, ⟨"id", none, true⟩]

def schema : Schema := ⟨"shop", none, true, [table]⟩

def path : DocumentPath := ⟨[.schema schema], .table table⟩

end Doubled

/-- The first of two columns of one name is looked up, and the fields of both are marked. -/
theorem doubled_name_marks_both_fields :
    ∃ file head, Entity.file false Doubled.path "org.demo" .mysql = .ok file ∧
      MarksKey Doubled.table file head ∧ persistence "Id" ∈ file.imports.map Import.path ∧
      ∃ first, Doubled.table.primaryKey = .ok [first, first] ∧
        Doubled.table.IsFirstNamed "id" first ∧ first.databaseType = "INT" := by
  obtain ⟨hresolves, hentity⟩ := primaryKey_readings_agree Doubled.table
  obtain ⟨hfile, -⟩ := hentity false Doubled.path "org.demo" .mysql rfl
  obtain ⟨file, hok⟩ : ∃ file, Entity.file false Doubled.path "org.demo" .mysql = .ok file :=
    ⟨_, rfl⟩
  obtain ⟨head, hname, hmarks⟩ := hfile file hok
  have hkey : Doubled.table.primaryKey = .ok [⟨"id", none, true, "INT", false, false⟩,
    ⟨"id", none, true, "INT", false, false⟩] := rfl
  refine ⟨file, head, hok, hmarks, ?_, _, hkey, ?_, rfl⟩
  · refine hmarks.imported_iff.mpr ⟨⟨_, List.mem_cons_self, rfl, by decide⟩, ?_⟩
    rw [hname]
    decide
  · exact (List.forall₂_cons.mp ((hresolves.ok_iff _).mp hkey)).1

end TableScribe.Entity
