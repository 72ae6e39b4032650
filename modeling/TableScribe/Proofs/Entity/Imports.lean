/-
The imports of an entity.  They come from a fixed list of names no two of which
have the same last segment, so neither do any two imports.
-/
import Mathlib.Data.List.Nodup
import TableScribe.Proofs.Entity.NameSet
import TableScribe.Proofs.Java.ColumnType

namespace TableScribe.Entity

/-- The names that the class of an entity takes from other packages. -/
def neededNames (frame : Frame) (columns : List Column) : List String :=
  commonImports ++ columns.flatMap frame.importNames

/-- The types of the persistence package that a class of an entity can use. -/
def persistenceTypes : List String :=
  ["Entity", "Table", "Column", "Id", "GeneratedValue", "GenerationType"]

/-- The names that any class of an entity can take from other packages. -/
def importable : List String := persistenceTypes.map persistence ++ Java.importedTypes

theorem persistence_mem_importable {type : String} (htype : type ∈ persistenceTypes) :
    persistence type ∈ importable :=
  List.mem_append_left _ (List.mem_map_of_mem htype)

theorem eq_of_simpleName_eq {first second : String} (hfirst : first ∈ importable)
    (hsecond : second ∈ importable) (hsimple : simpleName first = simpleName second) :
    first = second := by
  have hall : ∀ first ∈ importable, ∀ second ∈ importable,
      simpleName first = simpleName second → first = second := by
    decide +kernel
  exact hall first hfirst second hsecond hsimple

theorem needsImport_of_mem_importable {name : String} (hname : name ∈ importable) :
    (TypeRef.named name).needsImport = true := by
  have hall : ∀ name ∈ importable, (TypeRef.named name).needsImport = true := by
    decide +kernel
  exact hall name hname

theorem ne_empty_of_mem_importable {name : String} (hname : name ∈ importable) :
    name ≠ "" ∧ simpleName name ≠ "" := by
  have hall : ∀ name ∈ importable, name ≠ "" ∧ simpleName name ≠ "" := by
    decide +kernel
  exact hall name hname

variable {frame : Frame} {columns : List Column} {name : String}

theorem mem_importNames_iff {column : Column} :
    name ∈ frame.importNames column ↔
      ((Java.columnType column.databaseType).needsImport = true ∧
        name = (Java.columnType column.databaseType).name) ∨
      (frame.isKey column = true ∧ name = persistence "Id") ∨
      (column.autoIncrement = true ∧
        (name = persistence "GeneratedValue" ∨ name = persistence "GenerationType")) := by
  have hreferenced : (Java.columnType column.databaseType).referenced =
      [Java.columnType column.databaseType] := by
    have hgenerics := Java.generics_columnType column.databaseType
    generalize Java.columnType column.databaseType = type at hgenerics ⊢
    cases type with
    | mk name generics dims =>
        simp only at hgenerics
        subst hgenerics
        rfl
  simp only [Frame.importNames, hreferenced, List.mem_append, or_assoc]
  refine or_congr ?_ (or_congr ?_ ?_)
  · cases hneeds : (Java.columnType column.databaseType).needsImport <;> simp [hneeds]
  · cases frame.isKey column <;> simp
  · cases column.autoIncrement <;> simp

theorem mem_importable (hname : name ∈ neededNames frame columns) : name ∈ importable := by
  rcases List.mem_append.mp hname with hcommon | hcolumn
  · obtain ⟨type, htype, rfl⟩ := List.mem_map.mp hcommon
    apply persistence_mem_importable
    simp only [List.mem_cons, List.not_mem_nil, or_false] at htype
    rcases htype with rfl | rfl | rfl <;> decide
  · obtain ⟨column, -, hmem⟩ := List.mem_flatMap.mp hcolumn
    rcases mem_importNames_iff.mp hmem with ⟨hneeds, htype⟩ | ⟨-, rfl⟩ | ⟨-, rfl | rfl⟩
    · rw [htype]
      exact List.mem_append_right _ (Java.name_columnType_mem hneeds)
    · exact persistence_mem_importable (by decide)
    · exact persistence_mem_importable (by decide)
    · exact persistence_mem_importable (by decide)

/-- Import lines are the names that are needed, in order, but for those named
like the class. -/
theorem map_path_importLines : (importLines frame columns).map Import.path =
    (nameSet (neededNames frame columns)).filter fun name =>
      simpleName name != frame.className := by
  simp [importLines, neededNames, Function.comp_def]

/-- What is imported is what is needed and is not named like the class. -/
theorem mem_map_path_importLines : name ∈ (importLines frame columns).map Import.path ↔
    name ∈ neededNames frame columns ∧ simpleName name ≠ frame.className := by
  simp [map_path_importLines, mem_nameSet]

theorem pairwise_map_path_importLines :
    ((importLines frame columns).map Import.path).Pairwise (· < ·) := by
  rw [map_path_importLines]
  exact (pairwise_nameSet _).filter _

/-- No two lines import types of one simple name. -/
theorem nodup_simpleName_importLines :
    (((importLines frame columns).map Import.path).map simpleName).Nodup := by
  refine List.Nodup.map_on ?_ ?_
  · intro first hfirst second hsecond
    exact eq_of_simpleName_eq (mem_importable (mem_map_path_importLines.mp hfirst).1)
      (mem_importable (mem_map_path_importLines.mp hsecond).1)
  · exact pairwise_map_path_importLines.imp String.ne_of_lt

theorem className_not_mem_simpleName_importLines :
    frame.className ∉ ((importLines frame columns).map Import.path).map simpleName := by
  intro hmem
  obtain ⟨name, hname, hsimple⟩ := List.mem_map.mp hmem
  exact (mem_map_path_importLines.mp hname).2 hsimple

theorem isStatic_importLines {line : Import} (hline : line ∈ importLines frame columns) :
    line.isStatic = false := by
  obtain ⟨name, -, rfl⟩ := List.mem_map.mp hline
  rfl

end TableScribe.Entity
