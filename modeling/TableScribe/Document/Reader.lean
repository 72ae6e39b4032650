/-
Project documents in JSON.  Keys are in camel case; `enabled` and `nullable`
are true where they are left out, `autoIncrement` is false, lists are empty and
`alias` and `package` are none.
-/
import TableScribe.Document.Error
import TableScribe.Document.Project
import TableScribe.Json.Record

namespace TableScribe.Document.Reader

open Json (FieldRule RecordRule Tree Read)

/-- A field that is read into one component of a draft. -/
def fieldRule {δ β : Type} (key : String) (required : Bool) (read : Tree → Read β)
    (get : δ → Option β) (put : δ → β → δ) : FieldRule δ where
  key := key
  required := required
  isSet draft := (get draft).isSome
  read tree draft := (read tree).map (put draft)

/-- What every document has, as far as it has been read. -/
structure Header where
  name : Option String := none
  javaAlias : Option (Option String) := none
  enabled : Option Bool := none

namespace Header

def nameRead (header : Header) : String := header.name.getD ""

def aliasRead (header : Header) : Option String := header.javaAlias.getD none

/-- The flag read, or true. -/
def enabledRead (header : Header) : Bool := header.enabled.getD true

end Header

/-- The rules of the fields that every document starts with. -/
def headerRules {δ : Type} (get : δ → Header) (put : δ → Header → δ) : List (FieldRule δ) := [
  fieldRule "name" true Tree.readString (fun draft => (get draft).name)
    fun draft name => put draft { get draft with name := some name },
  fieldRule "alias" false Tree.readOptionalString (fun draft => (get draft).javaAlias)
    fun draft javaAlias => put draft { get draft with javaAlias := some javaAlias },
  fieldRule "enabled" false Tree.readBool (fun draft => (get draft).enabled)
    fun draft enabled => put draft { get draft with enabled := some enabled }]

/-- A column, as far as it has been read. -/
structure ColumnDraft where
  header : Header := {}
  databaseType : Option String := none
  nullable : Option Bool := none
  autoIncrement : Option Bool := none

def column : RecordRule ColumnDraft Column where
  name := "Column"
  blank := {}
  fields :=
    headerRules ColumnDraft.header (fun draft header => { draft with header }) ++ [
      fieldRule "databaseType" true Tree.readString ColumnDraft.databaseType
        fun draft databaseType => { draft with databaseType := some databaseType },
      fieldRule "nullable" false Tree.readBool ColumnDraft.nullable
        fun draft nullable => { draft with nullable := some nullable },
      fieldRule "autoIncrement" false Tree.readBool ColumnDraft.autoIncrement
        fun draft autoIncrement => { draft with autoIncrement := some autoIncrement }]
  complete draft :=
    { name := draft.header.nameRead
      javaAlias := draft.header.aliasRead
      enabled := draft.header.enabledRead
      databaseType := draft.databaseType.getD ""
      nullable := draft.nullable.getD true
      autoIncrement := draft.autoIncrement.getD false }

def keyColumn : RecordRule Header KeyColumn where
  name := "PrimaryKeyColumn"
  blank := {}
  fields := headerRules id fun _ header => header
  complete header :=
    { name := header.nameRead, javaAlias := header.aliasRead, enabled := header.enabledRead }

structure TableDraft where
  header : Header := {}
  columns : Option (List Column) := none
  keyColumns : Option (List KeyColumn) := none

def table : RecordRule TableDraft Table where
  name := "Table"
  blank := {}
  fields :=
    headerRules TableDraft.header (fun draft header => { draft with header }) ++ [
      fieldRule "columns" false (Tree.readList column.read) TableDraft.columns
        fun draft columns => { draft with columns := some columns },
      fieldRule "primaryKeyColumns" false (Tree.readList keyColumn.read) TableDraft.keyColumns
        fun draft keyColumns => { draft with keyColumns := some keyColumns }]
  complete draft :=
    { name := draft.header.nameRead
      javaAlias := draft.header.aliasRead
      enabled := draft.header.enabledRead
      columns := draft.columns.getD []
      keyColumns := draft.keyColumns.getD [] }

structure SchemaDraft where
  header : Header := {}
  tables : Option (List Table) := none

def schema : RecordRule SchemaDraft Schema where
  name := "Schema"
  blank := {}
  fields :=
    headerRules SchemaDraft.header (fun draft header => { draft with header }) ++ [
      fieldRule "tables" false (Tree.readList table.read) SchemaDraft.tables
        fun draft tables => { draft with tables := some tables }]
  complete draft :=
    { name := draft.header.nameRead
      javaAlias := draft.header.aliasRead
      enabled := draft.header.enabledRead
      tables := draft.tables.getD [] }

structure DbmsDraft where
  header : Header := {}
  typeName : Option String := none
  schemas : Option (List Schema) := none

def dbms : RecordRule DbmsDraft Dbms where
  name := "Dbms"
  blank := {}
  fields :=
    headerRules DbmsDraft.header (fun draft header => { draft with header }) ++ [
      fieldRule "typeName" true Tree.readString DbmsDraft.typeName
        fun draft typeName => { draft with typeName := some typeName },
      fieldRule "schemas" false (Tree.readList schema.read) DbmsDraft.schemas
        fun draft schemas => { draft with schemas := some schemas }]
  complete draft :=
    { name := draft.header.nameRead
      javaAlias := draft.header.aliasRead
      enabled := draft.header.enabledRead
      typeName := draft.typeName.getD ""
      schemas := draft.schemas.getD [] }

structure ProjectDraft where
  header : Header := {}
  package : Option (Option String) := none
  dbmses : Option (List Dbms) := none

def project : RecordRule ProjectDraft Project where
  name := "Project"
  blank := {}
  fields :=
    headerRules ProjectDraft.header (fun draft header => { draft with header }) ++ [
      fieldRule "package" false Tree.readOptionalString ProjectDraft.package
        fun draft package => { draft with package := some package },
      fieldRule "dbmses" false (Tree.readList dbms.read) ProjectDraft.dbmses
        fun draft dbmses => { draft with dbmses := some dbmses }]
  complete draft :=
    { name := draft.header.nameRead
      javaAlias := draft.header.aliasRead
      enabled := draft.header.enabledRead
      package := draft.package.getD none
      dbmses := draft.dbmses.getD [] }

end TableScribe.Document.Reader

namespace TableScribe.Project

def ofJson (text : String) : Except SchemaError Project :=
  match Json.readText Document.Reader.project.read text with
  | .ok project => .ok project
  | .error cause => .error (.document cause)

def ofBytes (bytes : ByteArray) : Except SchemaError Project :=
  match String.fromUTF8? bytes with
  | some text => ofJson text
  | none => .error (.file .notText)

end TableScribe.Project
