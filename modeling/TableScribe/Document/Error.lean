/-
Why a project is not loaded or a database name is not formed.
-/
import TableScribe.Json.Shape
import TableScribe.Storage.Error

namespace TableScribe

inductive SchemaError
  /-- The text is not a project document. -/
  | document (cause : Json.ReadError)
  /-- The file is not read. -/
  | file (cause : FileError)
  /-- A document lacks the parent that its full name takes. -/
  | noParent (document : String)
  /-- A primary key refers to a column that the table does not have. -/
  | unknownColumn (table column : String)
  /-- There is no dialect of a name. -/
  | unknownDialect (name : String)

def SchemaError.message : SchemaError → String
  | document cause => "invalid project document: " ++ cause.message
  | file cause => "io error: " ++ cause.message
  | noParent name =>
    "can't create full name of " ++ name ++ " since it doesn't have a parent"
  | unknownColumn table column =>
    "table '" ++ table ++ "' has a primary key on unknown column '" ++ column ++ "'"
  | unknownDialect name => "unknown database dialect: " ++ name

end TableScribe
