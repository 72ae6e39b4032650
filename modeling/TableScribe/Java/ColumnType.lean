/-
The Java types that hold the values of SQL types.
-/
import TableScribe.Model.TypeRef
import TableScribe.Text.AsciiCase
import TableScribe.Text.Blank

namespace TableScribe.Java

/-- SQL type names and the Java type for them. -/
def columnTypes : List (List String × TypeRef) := [
  (["BIT", "BOOL", "BOOLEAN"], .named "java.lang.Boolean"),
  (["TINYINT"], .named "java.lang.Byte"),
  (["SMALLINT"], .named "java.lang.Short"),
  (["INT", "INTEGER", "MEDIUMINT", "SERIAL"], .named "java.lang.Integer"),
  (["BIGINT", "BIGSERIAL"], .named "java.lang.Long"),
  (["FLOAT", "REAL"], .named "java.lang.Float"),
  (["DOUBLE", "DOUBLE PRECISION"], .named "java.lang.Double"),
  (["DECIMAL", "NUMERIC"], .named "java.math.BigDecimal"),
  (["CHAR", "VARCHAR", "CHARACTER", "CHARACTER VARYING", "TINYTEXT", "TEXT", "MEDIUMTEXT",
    "LONGTEXT", "ENUM", "JSON"], .named "java.lang.String"),
  (["DATE"], .named "java.sql.Date"),
  (["TIME"], .named "java.sql.Time"),
  (["DATETIME", "TIMESTAMP"], .named "java.sql.Timestamp"),
  (["BINARY", "VARBINARY", "BLOB", "MEDIUMBLOB", "LONGBLOB", "BYTEA"],
    (TypeRef.named "byte").array),
  (["UUID"], .named "java.util.UUID")]

/-- A text without the copies of a word at its start. -/
def dropCopies (word : List Char) : Nat → List Char → List Char
  | 0, text => text
  | limit + 1, text =>
    if word.isPrefixOf text then dropCopies word limit (text.drop word.length) else text

def dropCopiesAtEnd (word text : List Char) : List Char :=
  (dropCopies word.reverse text.length text.reverse).reverse

/-- The name of an SQL type without case, without what starts at the first
parenthesis, and without `UNSIGNED` and white space around what is left. -/
def baseType (databaseType : String) : String :=
  let upper := (Text.asciiUpper databaseType).toList
  let base := upper.takeWhile fun c => c != '('
  String.ofList (Text.trim (dropCopiesAtEnd " UNSIGNED".toList base))

/-- The Java type for an SQL type; `Object` for one that is not known. -/
def columnType (databaseType : String) : TypeRef :=
  let base := baseType databaseType
  match columnTypes.find? fun row => row.1.contains base with
  | some row => row.2
  | none => .named "java.lang.Object"

end TableScribe.Java
