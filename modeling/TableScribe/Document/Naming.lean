/-
How database dialects write names.
-/
import TableScribe.Document.Error
import TableScribe.Document.Path
import TableScribe.Text.AsciiCase

namespace TableScribe

/-- The full name of the document of a path: its parent's name and its own,
where the parent has to be of a given level. -/
def DocumentPath.qualifiedName (path : DocumentPath) (parent : Level) :
    Except SchemaError String :=
  match path.parent? with
  | some above =>
    if above.level = parent then .ok (above.name ++ "." ++ path.document.name)
    else .error (.noParent path.document.describe)
  | none => .error (.noParent path.document.describe)

/-- `schema.table` -/
def DocumentPath.fullTableName (path : DocumentPath) : Except SchemaError String :=
  path.qualifiedName .schema

/-- `table.column` -/
def DocumentPath.fullColumnName (path : DocumentPath) : Except SchemaError String :=
  path.qualifiedName .table

/-- What a dialect puts around values and identifiers, and its system schemas. -/
structure NamingConvention where
  quoteStart : String
  quoteEnd : String
  encloserStart : String
  encloserEnd : String
  excludedSchemas : List String
deriving DecidableEq, Repr

namespace NamingConvention

/-- MySQL and MariaDB enclose identifiers in backticks. -/
def mysql : NamingConvention :=
  ⟨"'", "'", "`", "`", ["information_schema", "mysql", "performance_schema", "sys"]⟩

/-- PostgreSQL encloses identifiers in double quotes. -/
def postgres : NamingConvention :=
  ⟨"'", "'", "\"", "\"", ["information_schema", "pg_catalog", "pg_toast"]⟩

/-- The convention of a dialect, by its name in any ASCII case. -/
def ofDialect (name : String) : Except SchemaError NamingConvention :=
  let lower := Text.asciiLower name
  if lower = "mysql" ∨ lower = "mariadb" then .ok mysql
  else if lower = "postgres" ∨ lower = "postgresql" then .ok postgres
  else .error (.unknownDialect name)

/-- Whether a schema is a system schema, for which nothing is generated. -/
def isExcluded (convention : NamingConvention) (schema : String) : Bool :=
  convention.excludedSchemas.any fun excluded => Text.eqIgnoringAsciiCase excluded schema

def quoteField (convention : NamingConvention) (field : String) : String :=
  convention.quoteStart ++ field ++ convention.quoteEnd

def encloseField (convention : NamingConvention) (field : String) : String :=
  convention.encloserStart ++ field ++ convention.encloserEnd

/-- An encloser; a double quote is escaped inside a string literal. -/
def escapeIfQuote (item : String) (withinQuotes : Bool) : String :=
  if withinQuotes && item == "\"" then "\\" ++ item else item

def openEncloser (convention : NamingConvention) (withinQuotes : Bool) : String :=
  escapeIfQuote convention.encloserStart withinQuotes

def closeEncloser (convention : NamingConvention) (withinQuotes : Bool) : String :=
  escapeIfQuote convention.encloserEnd withinQuotes

end NamingConvention

end TableScribe
