/-
The accessors of an entity.  They are named by the names of the fields, converted once more.  A name
that starts with a letter of ASCII has the property one expects of it, but two fields can have one
property, and then the class has two accessors of one name.
-/
import Mathlib.Data.List.Nodup
import Mathlib.Data.List.Pairwise
import TableScribe.Proofs.Entity.Contents
import TableScribe.Proofs.Java.Reconversion

namespace TableScribe

/-- The methods of a class without parameters. -/
def ClassHead.getters (head : ClassHead) : List Method :=
  head.methods.filter fun method => method.params.isEmpty

/-- The methods of a class with parameters. -/
def ClassHead.setters (head : ClassHead) : List Method :=
  head.methods.filter fun method => !method.params.isEmpty

/-- A method is the getter of a field under the name of a property. -/
structure Method.IsGetter (method : Method) (field property : String) : Prop where
  name : method.name = "get" ++ property
  params : method.params = []
  body : method.body = some ["return " ++ field ++ ";"]

/-- A method is the setter of a field under the name of a property. -/
structure Method.IsSetter (method : Method) (field property : String) : Prop where
  name : method.name = "set" ++ property
  params : method.params.map Field.name = [field]
  body : method.body = some ["this." ++ field ++ " = " ++ field ++ ";", "return this;"]

namespace Entity

section

variable (frame : Frame) (column : Column)

theorem exists_accessorPair_eq : ∃ getter setter, frame.accessorPair column = [getter, setter] ∧
    getter.IsGetter (Frame.fieldName column) (Java.typeName (Frame.fieldName column)) ∧
    setter.IsSetter (Frame.fieldName column) (Java.typeName (Frame.fieldName column)) :=
  ⟨_, _, rfl, ⟨rfl, rfl, rfl⟩, ⟨rfl, rfl, rfl⟩⟩

end

section

variable {frame : Frame} {columns : List Column} {file : File} {head : ClassHead}

variable (hentity : IsEntity frame columns file head) (haccessors : frame.accessors = true)

include hentity haccessors

theorem methods_eq : head.methods = columns.flatMap frame.accessorPair := by
  obtain ⟨fullName, tableText, rfl⟩ := hentity.head
  exact if_pos haccessors

/-- Of every pair of accessors, a test that takes one finds the names of all that are like it. -/
theorem map_name_filter {test : Method → Bool} {word : String}
    (hpair : ∀ column, ((frame.accessorPair column).filter test).map Method.name =
      [word ++ Java.typeName (Frame.fieldName column)]) :
    (head.methods.filter test).map Method.name =
      columns.map fun column => word ++ Java.typeName (Frame.fieldName column) := by
  rw [methods_eq hentity haccessors, List.filter_flatMap, List.map_flatMap, funext hpair,
    ← List.map_eq_flatMap]

theorem map_name_getters : head.getters.map Method.name =
    columns.map fun column => "get" ++ Java.typeName (Frame.fieldName column) :=
  map_name_filter hentity haccessors fun _ => rfl

theorem map_name_setters : head.setters.map Method.name =
    columns.map fun column => "set" ++ Java.typeName (Frame.fieldName column) :=
  map_name_filter hentity haccessors fun _ => rfl

/-- The accessors of a column stand in the class one after the other. -/
theorem exists_accessors_of_mem {column : Column} (hcolumn : column ∈ columns) :
    ∃ getter setter, [getter, setter] <:+: head.methods ∧
      getter.IsGetter (Frame.fieldName column) (Java.typeName (Frame.fieldName column)) ∧
      setter.IsSetter (Frame.fieldName column) (Java.typeName (Frame.fieldName column)) := by
  obtain ⟨getter, setter, hpair, hgetter, hsetter⟩ := exists_accessorPair_eq frame column
  refine ⟨getter, setter, ?_, hgetter, hsetter⟩
  obtain ⟨before, after, rfl⟩ := List.append_of_mem hcolumn
  refine ⟨before.flatMap frame.accessorPair, after.flatMap frame.accessorPair, ?_⟩
  rw [methods_eq hentity haccessors, ← hpair, List.flatMap_append, List.flatMap_cons,
    List.append_assoc]

end

theorem fieldName_of_alias?_eq_none {column : Column}
    (halias : (Document.column column).alias? = none) :
    Frame.fieldName column = Java.fieldName column.name := by
  rw [Frame.fieldName, Document.javaName, halias]
  rfl

/-- Accessors of some columns have names of their own exactly if no two fields share a property.
That is so if the fields differ and can all be told from their properties.  For different fields of
ASCII names it is so exactly if none has another one as its lower case and no such letter itself. -/
structure DistinctAsFar (columns : List Column) (names : List String) : Prop where
  nodup_iff : names.Nodup ↔
    (columns.map Frame.fieldName).Pairwise fun first second => ¬ Java.SharesProperty first second
  of_recoverable : (columns.map Frame.fieldName).Nodup →
    (∀ column ∈ columns, Java.Recoverable (Frame.fieldName column)) → names.Nodup
  of_ascii : (columns.map Frame.fieldName).Nodup →
    (∀ column ∈ columns, Java.HasAsciiWords column.name.toList) →
      (names.Nodup ↔ ∀ column ∈ columns, ∀ other ∈ columns,
        Frame.fieldName column ≠ Frame.fieldName other →
          ¬ Java.LowersTo (Frame.fieldName column) (Frame.fieldName other))

section

variable {columns : List Column}

theorem nodup_accessorNames_iff (word : String) :
    (columns.map fun column => word ++ Java.typeName (Frame.fieldName column)).Nodup ↔
      (columns.map Frame.fieldName).Pairwise fun first second =>
        ¬ Java.SharesProperty first second := by
  rw [List.Nodup, List.pairwise_map, List.pairwise_map]
  simp only [ne_eq, String.append_right_inj, Java.typeName_eq_iff]

theorem distinctAsFar_accessorNames
    (halias : ∀ column ∈ columns, (Document.column column).alias? = none) (word : String) :
    DistinctAsFar columns
      (columns.map fun column => word ++ Java.typeName (Frame.fieldName column)) where
  nodup_iff := nodup_accessorNames_iff word
  of_recoverable hnodup hrecoverable := by
    refine (nodup_accessorNames_iff word).mpr (hnodup.pairwise_of_forall_ne ?_)
    simp only [List.forall_mem_map]
    intro column hcolumn other hother hne hshares
    exact hne ((hrecoverable column hcolumn).eq_of_sharesProperty (hrecoverable other hother)
      hshares)
  of_ascii hnodup hascii := by
    have hshares (column : Column) (hcolumn : column ∈ columns) (other : Column)
        (hother : other ∈ columns) :
        Java.SharesProperty (Frame.fieldName column) (Frame.fieldName other) ↔
          Frame.fieldName column = Frame.fieldName other ∨
            Java.LowersTo (Frame.fieldName column) (Frame.fieldName other) ∨
            Java.LowersTo (Frame.fieldName other) (Frame.fieldName column) := by
      rw [fieldName_of_alias?_eq_none (halias column hcolumn),
        fieldName_of_alias?_eq_none (halias other hother)]
      exact Java.sharesProperty_fieldName_iff (hascii column hcolumn) (hascii other hother)
    rw [nodup_accessorNames_iff]
    constructor
    · intro hpairwise column hcolumn other hother hne hlowers
      have hsymm : Std.Symm fun first second => ¬ Java.SharesProperty first second :=
        ⟨fun first second hnot hsame => hnot hsame.symm⟩
      exact hpairwise.forall (List.mem_map_of_mem hcolumn) (List.mem_map_of_mem hother) hne
        ((hshares column hcolumn other hother).mpr (Or.inr (Or.inl hlowers)))
    · intro hnone
      refine hnodup.pairwise_of_forall_ne ?_
      simp only [List.forall_mem_map]
      intro column hcolumn other hother hne hsame
      rcases (hshares column hcolumn other hother).mp hsame with heq | hlowers | hlowers
      · exact hne heq
      · exact hnone column hcolumn other hother hne hlowers
      · exact hnone other hother column hcolumn hne.symm hlowers

end

section

variable {path : DocumentPath} {base : String} {naming : NamingConvention} {file : File}
  {table : Table}

/-- The getters of an entity have names of their own, and so have its setters, exactly if no two
fields share a property. -/
theorem accessors_distinct_as_far (hfile : Entity.file true path base naming = .ok file)
    (htable : path.document = .table table)
    (halias : ∀ column ∈ table.columns, (Document.column column).alias? = none) :
    ∃ head, file.declarations = [.ofClass head []] ∧
      DistinctAsFar (table.columns.filter Column.enabled) (head.getters.map Method.name) ∧
      DistinctAsFar (table.columns.filter Column.enabled) (head.setters.map Method.name) := by
  obtain ⟨key, head, hentity⟩ := isEntity_of_file_eq_ok hfile htable
  have henabled : ∀ column ∈ table.columns.filter Column.enabled,
      (Document.column column).alias? = none :=
    fun column hcolumn => halias column (List.mem_filter.mp hcolumn).1
  refine ⟨head, hentity.declarations, ?_, ?_⟩
  · rw [map_name_getters hentity rfl]
    exact distinctAsFar_accessorNames henabled "get"
  · rw [map_name_setters hentity rfl]
    exact distinctAsFar_accessorNames henabled "set"

end

namespace Properties

def table (names : List String) : Table where
  name := "t"
  javaAlias := none
  enabled := true
  columns := names.map fun name => ⟨name, none, true, "INT", true, false⟩
  keyColumns := []

def path (names : List String) : DocumentPath :=
  ⟨[.schema ⟨"s", none, true, [table names]⟩], .table (table names)⟩

theorem alias?_eq_none {names : List String} :
    ∀ column ∈ (table names).columns, (Document.column column).alias? = none := by
  intro column hcolumn
  obtain ⟨name, -, rfl⟩ := List.mem_map.mp hcolumn
  rfl

/-- A keyword, a name that starts with a digit, and one with a digit inside. -/
def mixed : List String := ["class", "2fa", "line_2"]

end Properties

theorem mixed_names_have_own_accessors :
    ∃ file head, Entity.file true (Properties.path Properties.mixed) "p" .mysql = .ok file ∧
      file.declarations = [.ofClass head []] ∧
      (head.getters.map Method.name).Nodup ∧ (head.setters.map Method.name).Nodup := by
  obtain ⟨file, hfile⟩ : ∃ file, Entity.file true (Properties.path Properties.mixed) "p" .mysql =
      .ok file := ⟨_, rfl⟩
  obtain ⟨head, hhead, hgetters, hsetters⟩ :=
    accessors_distinct_as_far hfile rfl Properties.alias?_eq_none
  generalize hcolumns : (Properties.table Properties.mixed).columns.filter Column.enabled = columns
    at hgetters hsetters
  have hnodup : (columns.map Frame.fieldName).Nodup := by
    subst hcolumns
    decide +kernel
  have hascii : ∀ column ∈ columns, Java.HasAsciiWords column.name.toList := by
    subst hcolumns
    decide +kernel
  have hnone : ∀ column ∈ columns, ∀ other ∈ columns,
      Frame.fieldName column ≠ Frame.fieldName other →
        ¬ Java.LowersTo (Frame.fieldName column) (Frame.fieldName other) := by
    subst hcolumns
    decide +kernel
  exact ⟨file, head, hfile, hhead, (hgetters.of_ascii hnodup hascii).mpr hnone,
    (hsetters.of_ascii hnodup hascii).mpr hnone⟩

/-- Two columns have different fields, of which one is the lower case of the other. -/
theorem one_a_shares_accessors :
    ∃ file head, Entity.file true (Properties.path ["1_a", "1a"]) "p" .mysql = .ok file ∧
      (∀ column ∈ (Properties.table ["1_a", "1a"]).columns,
        (Document.column column).alias? = none) ∧
      file.declarations = [.ofClass head []] ∧
      head.fields.map Field.name = ["_1A", "_1a"] ∧
      head.getters.map Method.name = ["get_1a", "get_1a"] ∧
      head.setters.map Method.name = ["set_1a", "set_1a"] :=
  ⟨_, _, rfl, Properties.alias?_eq_none, rfl, by decide +kernel, by decide +kernel,
    by decide +kernel⟩

section

variable {name : String} (hname : Java.HasAsciiWords name.toList)
  (hletter : ∃ c ∈ name.toList.find? Unicode.isAlphanumeric, c.isAlpha = true)

include hname hletter

/-- A name whose first letter or digit is a letter of ASCII keeps its field name when it is
converted again, and the accessors of a column of that name are named by the column as a type. -/
theorem accessors_named_by_column :
    Java.fieldName (Java.fieldName name) = Java.fieldName name ∧
      Java.typeName (Java.fieldName name) = Java.typeName name ∧
      ∀ path base naming file table column, path.document = .table table →
        Entity.file true path base naming = .ok file → column ∈ table.columns →
          column.enabled = true → (Document.column column).alias? = none → column.name = name →
            ∃ head getter setter, file.declarations = [.ofClass head []] ∧
              [getter, setter] <:+: head.methods ∧
              getter.IsGetter (Java.fieldName name) (Java.typeName name) ∧
              setter.IsSetter (Java.fieldName name) (Java.typeName name) := by
  obtain ⟨hfield, htype⟩ := Java.converted_twice hname hletter
  refine ⟨hfield, htype, ?_⟩
  intro path base naming file table column htable hfile hcolumn henabled halias hcolumnName
  obtain ⟨key, head, hentity⟩ := isEntity_of_file_eq_ok hfile htable
  obtain ⟨getter, setter, hmethods, hgetter, hsetter⟩ :=
    exists_accessors_of_mem hentity rfl (List.mem_filter.mpr ⟨hcolumn, henabled⟩)
  rw [fieldName_of_alias?_eq_none halias, hcolumnName, htype] at hgetter hsetter
  exact ⟨head, getter, setter, hentity.declarations, hmethods, hgetter, hsetter⟩

end

/-- The field of the column is repaired, and the names of its accessors have no trace of that. -/
theorem class_accessors_named_by_column :
    Java.fieldName "CLASS" = "_class" ∧ Java.fieldName "_class" = "_class" ∧
      ∃ file head getter setter,
        Entity.file true (Properties.path ["2fa", "CLASS"]) "p" .mysql = .ok file ∧
        file.declarations = [.ofClass head []] ∧ [getter, setter] <:+: head.methods ∧
        getter.IsGetter "_class" "Class" ∧ setter.IsSetter "_class" "Class" := by
  have hascii : Java.HasAsciiWords ("CLASS" : String).toList := by decide +kernel
  obtain ⟨file, hfile⟩ : ∃ file, Entity.file true (Properties.path ["2fa", "CLASS"]) "p" .mysql =
      .ok file := ⟨_, rfl⟩
  have hfield : Java.fieldName "CLASS" = "_class" := by decide +kernel
  have htype : Java.typeName "CLASS" = "Class" := by decide +kernel
  obtain ⟨hagain, -, haccessors⟩ := accessors_named_by_column hascii ⟨'C', rfl, rfl⟩
  obtain ⟨head, getter, setter, hhead, hmethods, hgetter, hsetter⟩ :=
    haccessors _ _ _ _ _ ⟨"CLASS", none, true, "INT", true, false⟩ rfl hfile
      (List.mem_cons_of_mem _ List.mem_cons_self) rfl rfl rfl
  rw [hfield, htype] at hgetter hsetter
  rw [hfield] at hagain
  exact ⟨hfield, hagain, file, head, getter, setter, hfile, hhead, hmethods, hgetter, hsetter⟩

end Entity

end TableScribe
