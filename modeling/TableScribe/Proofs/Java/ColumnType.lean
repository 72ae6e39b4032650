/-
The Java types of columns come from a fixed list, none of them with type
arguments.
-/
import TableScribe.Java.ColumnType

namespace TableScribe.Java

/-- The Java types that columns can have. -/
def possibleTypes : List TypeRef := .named "java.lang.Object" :: columnTypes.map Prod.snd

theorem columnType_mem (databaseType : String) : columnType databaseType ∈ possibleTypes := by
  simp only [columnType]
  cases hrow : columnTypes.find? fun row => row.1.contains (baseType databaseType) with
  | none => exact List.mem_cons_self
  | some row =>
      exact List.mem_cons_of_mem _ (List.mem_map_of_mem (List.mem_of_find?_eq_some hrow))

theorem generics_columnType (databaseType : String) : (columnType databaseType).generics = [] := by
  have hall : ∀ type ∈ possibleTypes, type.generics.isEmpty = true := by decide
  exact List.isEmpty_iff.mp (hall _ (columnType_mem databaseType))

theorem name_columnType_ne_empty (databaseType : String) :
    (columnType databaseType).name ≠ "" := by
  have hall : ∀ type ∈ possibleTypes, type.name ≠ "" := by decide
  exact hall _ (columnType_mem databaseType)

/-- The names of column types that need an import. -/
def importedTypes : List String :=
  ["java.math.BigDecimal", "java.sql.Date", "java.sql.Time", "java.sql.Timestamp",
    "java.util.UUID"]

theorem name_columnType_mem {databaseType : String}
    (hneeds : (columnType databaseType).needsImport = true) :
    (columnType databaseType).name ∈ importedTypes := by
  have hall : ∀ type ∈ possibleTypes, type.needsImport = true → type.name ∈ importedTypes := by
    decide
  exact hall _ (columnType_mem databaseType) hneeds

end TableScribe.Java
