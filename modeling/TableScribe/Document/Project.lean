/-
The documents that describe databases: a project of database systems, their
schemas, tables and columns.
-/
namespace TableScribe

structure Column where
  name : String
  javaAlias : Option String
  enabled : Bool
  /-- The SQL type, such as `VARCHAR(64)`. -/
  databaseType : String
  nullable : Bool
  autoIncrement : Bool
deriving DecidableEq, Repr, Inhabited

/-- A reference from the primary key of a table to one of its columns. -/
structure KeyColumn where
  /-- The name of the column. -/
  name : String
  javaAlias : Option String
  enabled : Bool
deriving DecidableEq, Repr, Inhabited

structure Table where
  name : String
  javaAlias : Option String
  enabled : Bool
  columns : List Column
  keyColumns : List KeyColumn
deriving DecidableEq, Repr, Inhabited

structure Schema where
  name : String
  javaAlias : Option String
  enabled : Bool
  tables : List Table
deriving DecidableEq, Repr, Inhabited

structure Dbms where
  name : String
  javaAlias : Option String
  enabled : Bool
  /-- The name of its dialect. -/
  typeName : String
  schemas : List Schema
deriving DecidableEq, Repr, Inhabited

structure Project where
  name : String
  javaAlias : Option String
  enabled : Bool
  /-- The base package of the generated code. -/
  package : Option String
  dbmses : List Dbms
deriving DecidableEq, Repr, Inhabited

end TableScribe
