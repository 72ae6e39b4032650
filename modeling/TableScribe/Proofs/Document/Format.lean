/-
The format of project documents.  A project may be written with the keys of each
object in any order, with other keys among them and with or without those that
have a default.
-/
import TableScribe.Document.Project
import TableScribe.Proofs.Json.Objects

namespace TableScribe

namespace Document

open Json (Tree Slot)

/-- A string with a given text. -/
def IsText (text : String) (tree : Tree) : Prop :=
  ∃ literal, tree = .string literal ∧ literal.Denotes text

/-- A string with a given text, or null if there is none. -/
def IsOptionalText : Option String → Tree → Prop
  | none, tree => tree = .null
  | some text, tree => IsText text tree

def IsFlag (flag : Bool) (tree : Tree) : Prop := tree = .bool flag

/-- An array of values, each of them written in some way. -/
def IsListOf {α : Type} (IsWritten : α → Tree → Prop) (values : List α) (tree : Tree) : Prop :=
  ∃ items trees, tree = .array items ∧ items.Lists trees ∧ List.Forall₂ IsWritten values trees

/-- A text has to be written. -/
def textSlot (key text : String) : Slot := ⟨key, IsText text, False⟩

/-- No text is written as null or not at all. -/
def optionalTextSlot (key : String) (text : Option String) : Slot :=
  ⟨key, IsOptionalText text, text = none⟩

/-- A flag may be left out if it has its default. -/
def flagSlot (key : String) (flag standard : Bool) : Slot := ⟨key, IsFlag flag, flag = standard⟩

/-- A list may be left out if it is empty. -/
def listSlot {α : Type} (key : String) (IsWritten : α → Tree → Prop) (values : List α) : Slot :=
  ⟨key, IsListOf IsWritten values, values = []⟩

def headerSlots (name : String) (javaAlias : Option String) (enabled : Bool) : List Slot :=
  [textSlot "name" name, optionalTextSlot "alias" javaAlias, flagSlot "enabled" enabled true]

end Document

open Json (Tree)
open Document

def Column.IsWrittenAs (column : Column) : Tree → Prop :=
  Tree.IsObjectOf (headerSlots column.name column.javaAlias column.enabled ++
    [textSlot "databaseType" column.databaseType, flagSlot "nullable" column.nullable true,
      flagSlot "autoIncrement" column.autoIncrement false])

def KeyColumn.IsWrittenAs (key : KeyColumn) : Tree → Prop :=
  Tree.IsObjectOf (headerSlots key.name key.javaAlias key.enabled)

def Table.IsWrittenAs (table : Table) : Tree → Prop :=
  Tree.IsObjectOf (headerSlots table.name table.javaAlias table.enabled ++
    [listSlot "columns" Column.IsWrittenAs table.columns,
      listSlot "primaryKeyColumns" KeyColumn.IsWrittenAs table.keyColumns])

def Schema.IsWrittenAs (schema : Schema) : Tree → Prop :=
  Tree.IsObjectOf (headerSlots schema.name schema.javaAlias schema.enabled ++
    [listSlot "tables" Table.IsWrittenAs schema.tables])

def Dbms.IsWrittenAs (dbms : Dbms) : Tree → Prop :=
  Tree.IsObjectOf (headerSlots dbms.name dbms.javaAlias dbms.enabled ++
    [textSlot "typeName" dbms.typeName, listSlot "schemas" Schema.IsWrittenAs dbms.schemas])

def Project.IsWrittenAs (project : Project) : Tree → Prop :=
  Tree.IsObjectOf (headerSlots project.name project.javaAlias project.enabled ++
    [optionalTextSlot "package" project.package,
      listSlot "dbmses" Dbms.IsWrittenAs project.dbmses])

/-- A JSON text writes a project. -/
def Project.IsWrittenIn (project : Project) (text : String) : Prop :=
  ∃ tree : Tree, tree.SpelledIn text ∧ project.IsWrittenAs tree

end TableScribe
