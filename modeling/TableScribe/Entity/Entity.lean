/-
The entity class of a table: one annotated field per enabled column, with a
getter and a fluent setter if asked for, in a file with the imports it needs.
-/
import TableScribe.Document.PrimaryKey
import TableScribe.Entity.Settings
import TableScribe.Java.ColumnType
import TableScribe.Model.File

namespace TableScribe.Entity

def persistence (name : String) : String := "javax.persistence." ++ name

def mark (name : String) : Annotation := .named (persistence name)

/-- Adds a name to an ascending list of names, unless it is there. -/
def insertName (name : String) : List String → List String
  | [] => [name]
  | first :: rest =>
    if name < first then name :: first :: rest
    else if name = first then first :: rest
    else first :: insertName name rest

/-- The names of a list, ascending and each once. -/
def nameSet (names : List String) : List String :=
  names.foldr insertName []

/-- What is the same for all columns of an entity. -/
structure Frame where
  className : String
  /-- The columns of the primary key. -/
  key : List Column
  accessors : Bool

namespace Frame

/-- Whether a column goes by the name of a key column. -/
def isKey (frame : Frame) (column : Column) : Bool :=
  frame.key.any fun other => other.name == column.name

/-- The source text of the identity strategy, qualified if the class has the
name of its type. -/
def identityStrategy (frame : Frame) : String :=
  if frame.className = "GenerationType" then persistence "GenerationType.IDENTITY"
  else "GenerationType.IDENTITY"

def fieldName (column : Column) : String := (Document.column column).javaName

def annotations (frame : Frame) (column : Column) : List Annotation :=
  let identity :=
    if frame.isKey column then [mark "Id"] else []
  let generated :=
    if column.autoIncrement then
      [(mark "GeneratedValue").withParam "strategy" (.verbatim frame.identityStrategy)]
    else []
  let named := (mark "Column").withParam "name" (.text column.name)
  let mapped := if column.nullable then named else named.withParam "nullable" (.bool false)
  identity ++ generated ++ [mapped]

def field (frame : Frame) (column : Column) : Field :=
  { Field.plain (fieldName column) (Java.columnType column.databaseType) with
    modifiers := [.isPrivate]
    annotations := frame.annotations column }

def accessorPair (frame : Frame) (column : Column) : List Method :=
  let name := fieldName column
  let property := Java.typeName name
  let type := Java.columnType column.databaseType
  let getter := (Method.plain ("get" ++ property) type).withLine ("return " ++ name ++ ";")
  let setter := (Method.plain ("set" ++ property) (.named frame.className)).withParam
    (Field.plain name type)
  [getter.withModifier .isPublic,
    ((setter.withModifier .isPublic).withLine ("this." ++ name ++ " = " ++ name ++ ";")).withLine
      "return this;"]

/-- The names that the field of a column takes from other packages. -/
def importNames (frame : Frame) (column : Column) : List String :=
  let types := (Java.columnType column.databaseType).referenced.filter TypeRef.needsImport
  let identity := if frame.isKey column then [persistence "Id"] else []
  let generated :=
    if column.autoIncrement then
      [persistence "GeneratedValue", persistence "GenerationType"]
    else []
  types.map TypeRef.name ++ identity ++ generated

end Frame

/-- The names that every entity takes from other packages. -/
def commonImports : List String := ["Entity", "Table", "Column"].map persistence

/-- The import lines of an entity.  A name that the class has itself is not
imported, since it is written qualified. -/
def importLines (frame : Frame) (columns : List Column) : List Import :=
  let names := nameSet (commonImports ++ columns.flatMap frame.importNames)
  (names.filter fun name => simpleName name != frame.className).map fun name => ⟨name, false⟩

def classHead (frame : Frame) (columns : List Column) (fullName tableText : String) : ClassHead :=
  { ClassHead.named frame.className with
    modifiers := [.isPublic]
    javadoc := some (.ofText ("Entity mapped to the " ++ fullName ++ " table."))
    annotations := [
      mark "Entity",
      (mark "Table").withParam "name" (.text tableText)]
    fields := columns.map frame.field
    methods := if frame.accessors then columns.flatMap frame.accessorPair else [] }

/-- The name of the class of a table: its alias, or its name as a type name. -/
def className (table : Table) : String :=
  (Document.table table).alias?.getD (Java.typeName table.name)

def packageName (base : String) (schema : Document) : String :=
  base ++ "." ++ Unicode.lowerText schema.javaName

def file (accessors : Bool) (path : DocumentPath) (base : String)
    (naming : NamingConvention) : Except SchemaError File :=
  match path.document, path.ancestor? .schema with
  | .table table, some schema => do
    let fullName ← path.fullTableName
    let key ← table.primaryKey
    let frame : Frame := ⟨className table, key, accessors⟩
    let columns := table.columns.filter Column.enabled
    let head := classHead frame columns fullName (naming.encloseField table.name)
    return {
      name := frame.className
      package := some (packageName base schema)
      javadoc := some (.ofText "Generated by ormgen. Do not edit.")
      imports := importLines frame columns
      declarations := [.ofClass head []] }
  | document, _ => .error (.noParent document.describe)

end TableScribe.Entity
