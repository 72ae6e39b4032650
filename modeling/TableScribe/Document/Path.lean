/-
Documents of any level, and documents with the chain of documents above them.
-/
import TableScribe.Document.Project
import TableScribe.Java.Identifier

namespace TableScribe

inductive Level
  | project
  | dbms
  | schema
  | table
  | column
  | keyColumn
deriving DecidableEq, Repr, Inhabited

namespace Level

def all : List Level := [project, dbms, schema, table, column, keyColumn]

def name : Level → String
  | project => "project"
  | dbms => "dbms"
  | schema => "schema"
  | table => "table"
  | column => "column"
  | keyColumn => "primary key column"

def ofName? (text : String) : Option Level :=
  all.find? fun level => level.name == text

end Level

inductive Document
  | project (node : Project)
  | dbms (node : Dbms)
  | schema (node : Schema)
  | table (node : Table)
  | column (node : Column)
  | keyColumn (node : KeyColumn)
deriving DecidableEq, Repr

namespace Document

def level : Document → Level
  | project _ => .project
  | dbms _ => .dbms
  | schema _ => .schema
  | table _ => .table
  | column _ => .column
  | keyColumn _ => .keyColumn

/-- The database name. -/
def name : Document → String
  | project node => node.name
  | dbms node => node.name
  | schema node => node.name
  | table node => node.name
  | column node => node.name
  | keyColumn node => node.name

/-- The alias as written, which may be empty. -/
def writtenAlias : Document → Option String
  | project node => node.javaAlias
  | dbms node => node.javaAlias
  | schema node => node.javaAlias
  | table node => node.javaAlias
  | column node => node.javaAlias
  | keyColumn node => node.javaAlias

/-- The alias; an empty one is none. -/
def alias? (document : Document) : Option String :=
  document.writtenAlias.filter fun text => !text.isEmpty

/-- The alias, or else the database name as a Java identifier. -/
def javaName (document : Document) : String :=
  document.alias?.getD (Java.fieldName document.name)

def enabled : Document → Bool
  | project node => node.enabled
  | dbms node => node.enabled
  | schema node => node.enabled
  | table node => node.enabled
  | column node => node.enabled
  | keyColumn node => node.enabled

/-- The documents directly below, in order; the columns of a table come
before its key columns. -/
def children : Document → List Document
  | project node => node.dbmses.map dbms
  | dbms node => node.schemas.map schema
  | schema node => node.tables.map table
  | table node => node.columns.map column ++ node.keyColumns.map keyColumn
  | column _ => []
  | keyColumn _ => []

/-- How a document is named in a message. -/
def describe (document : Document) : String :=
  document.level.name ++ " '" ++ document.name ++ "'"

end Document

/-- A document with the chain of documents above it, the project first. -/
structure DocumentPath where
  ancestors : List Document
  document : Document
deriving DecidableEq, Repr

namespace DocumentPath

def root (project : Project) : DocumentPath := ⟨[], .project project⟩

def child (path : DocumentPath) (document : Document) : DocumentPath :=
  ⟨path.ancestors ++ [path.document], document⟩

def children (path : DocumentPath) : List DocumentPath :=
  path.document.children.map path.child

def parent? (path : DocumentPath) : Option Document := path.ancestors.getLast?

/-- The nearest document of a level above. -/
def ancestor? (path : DocumentPath) (level : Level) : Option Document :=
  path.ancestors.findRev? fun document => document.level == level

/-- Whether the document and all above it are enabled. -/
def isEnabled (path : DocumentPath) : Bool :=
  path.document.enabled && path.ancestors.all Document.enabled

end DocumentPath

end TableScribe
