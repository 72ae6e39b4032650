/-
Walking a project depth first, parents before children, with a stack of the
paths still to be visited.
-/
import TableScribe.Document.Path

namespace TableScribe

namespace Document

def total (sizes : List Nat) : Nat := sizes.foldr Nat.add 0

def sizeOfTable (table : Table) : Nat := 1 + table.columns.length + table.keyColumns.length

def sizeOfSchema (schema : Schema) : Nat := 1 + total (schema.tables.map sizeOfTable)

def sizeOfDbms (dbms : Dbms) : Nat := 1 + total (dbms.schemas.map sizeOfSchema)

def sizeOfProject (project : Project) : Nat := 1 + total (project.dbmses.map sizeOfDbms)

/-- The number of documents in the tree of a document. -/
def size : Document → Nat
  | project node => sizeOfProject node
  | dbms node => sizeOfDbms node
  | schema node => sizeOfSchema node
  | table node => sizeOfTable node
  | column _ => 1
  | keyColumn _ => 1

end Document

/-- Visits the path on top of a stack and puts the paths below it in its
place, a given number of times. -/
def visit : Nat → List DocumentPath → List DocumentPath
  | 0, _ => []
  | _ + 1, [] => []
  | steps + 1, path :: stack => path :: visit steps (path.children ++ stack)

/-- The paths of all documents of a project, each after its parent and before
the next sibling of its parent. -/
def traverse (project : Project) : List DocumentPath :=
  visit (Document.project project).size [DocumentPath.root project]

/-- The paths of the tables that are enabled together with all above them. -/
def Project.enabledTables (project : Project) : List DocumentPath :=
  (traverse project).filter fun path => path.document.level == .table && path.isEnabled

inductive NameStyle
  /-- The name in the database. -/
  | database
  /-- The alias, or the database name as a Java identifier. -/
  | java
deriving DecidableEq, Repr

def NameStyle.of : NameStyle → Document → String
  | database, document => document.name
  | java, document => document.javaName

/-- The names from the first ancestor of a level down to the document, mapped
and joined.  Without such an ancestor it is the document's name alone. -/
def DocumentPath.relativeName (path : DocumentPath) (level : Level) (style : NameStyle)
    (separator : String) (mapper : String → String) : String :=
  let above := path.ancestors.dropWhile fun document => document.level != level
  String.intercalate separator ((above ++ [path.document]).map fun d => mapper (style.of d))

end TableScribe
