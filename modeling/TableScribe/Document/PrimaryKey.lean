/-
Primary keys.  A key names columns of its table; the first column of a name is
the one it means.
-/
import TableScribe.Document.Error
import TableScribe.Document.Project

namespace TableScribe.Table

/-- The first column with a name. -/
def column? (table : Table) (name : String) : Option Column :=
  table.columns.find? fun column => column.name == name

def isPrimaryKey (table : Table) (column : Column) : Bool :=
  table.keyColumns.any fun key => key.name == column.name

def resolve (table : Table) (key : KeyColumn) : Except SchemaError Column :=
  match table.column? key.name with
  | some column => .ok column
  | none => .error (.unknownColumn table.name key.name)

/-- The columns of the primary key, in key order. -/
def primaryKey (table : Table) : Except SchemaError (List Column) :=
  table.keyColumns.mapM table.resolve

end TableScribe.Table
