/-
Database names in the source of entities.  Whatever the names of schemas, tables
and columns are, they stay inside the comments and the literals they are written
in, and elsewhere only plain identifiers are left of them.
-/
import TableScribe.Proofs.Entity.Generation
import TableScribe.Proofs.Java.PlainSource

namespace TableScribe

namespace Java

open Unicode

/-- What is not plain is a mark and neither letter nor number. -/
theorem isMark_of_not_isPlain {c : Char} (hc : ¬ IsPlain c) :
    IsMark c ∧ isAlphanumeric c = false := by
  simp only [IsPlain, not_not, List.mem_cons, List.not_mem_nil, or_false] at hc
  rcases hc with rfl | rfl | rfl | rfl | rfl <;> decide

theorem isPlain_of_isAlphanumeric {c : Char} (hc : isAlphanumeric c = true) : IsPlain c := by
  by_contra hplain
  exact absurd (hc.symm.trans (isMark_of_not_isPlain hplain).2) Bool.noConfusion

theorem plain_typeName (name : String) : Plain (typeName name) := by
  intro c hc
  by_contra hplain
  obtain ⟨hmark, hpunctuation⟩ := isMark_of_not_isPlain hplain
  exact not_mem_typeName hmark hpunctuation name hc

theorem plain_fieldName (name : String) : Plain (fieldName name) := by
  intro c hc
  by_contra hplain
  obtain ⟨hmark, hpunctuation⟩ := isMark_of_not_isPlain hplain
  exact not_mem_fieldName hmark hpunctuation name hc

theorem plain_lowerText {text : String} (htext : Plain text) : Plain (lowerText text) := by
  intro c hc
  by_contra hplain
  exact hplain (htext c (mem_of_mem_lowerText (isMark_of_not_isPlain hplain).1 hc))

/-- A dotted list of words of letters, numbers and low lines is plain. -/
theorem plain_of_words {package : String}
    (hwords : ∀ word ∈ Text.segments '.' package.toList, ∀ c ∈ word,
      isAlphanumeric c = true ∨ c = '_') : Plain package := by
  intro c hc
  rcases Text.eq_or_exists_of_mem '.' hc with rfl | ⟨word, hword, hmem⟩
  · decide
  · rcases hwords word hword c hmem with halphanumeric | rfl
    · exact isPlain_of_isAlphanumeric halphanumeric
    · decide

/-- The type of a column is one of a few, all of them plain. -/
theorem plainType_columnType (databaseType : String) : PlainType (columnType databaseType) where
  name := by
    have hall : ∀ type ∈ possibleTypes, Plain type.name := by decide
    exact hall _ (columnType_mem databaseType)
  generics := generics_columnType databaseType

end Java

namespace Entity

open Java

variable {frame : Frame} {columns : List Column} {column : Column}

theorem plain_importable {name : String} (hname : name ∈ importable) : Plain name := by
  have hall : ∀ name ∈ importable, Plain name := by decide +kernel
  exact hall name hname

theorem plain_importLines {line : Import} (hline : line ∈ importLines frame columns) :
    Plain line.path := by
  have hpath : line.path ∈ (importLines frame columns).map Import.path := List.mem_map_of_mem hline
  exact plain_importable (mem_importable (mem_map_path_importLines.mp hpath).1)

theorem plainMark_mark {name : String} (hname : Plain name) : PlainMark (mark name) where
  name := Plain.append (by decide) hname
  value := nofun
  keys := nofun
  params := nofun

theorem plainValue_bool (flag : Bool) : PlainValue (.bool flag) := by
  rintro source ⟨⟩
  cases flag <;> decide

theorem plainValue_identityStrategy (frame : Frame) :
    PlainValue (.verbatim frame.identityStrategy) := by
  rintro source ⟨⟩
  unfold Frame.identityStrategy
  split <;> decide

theorem plainMark_of_mem_annotations {use : Annotation} (huse : use ∈ frame.annotations column) :
    PlainMark use := by
  rcases mem_annotations_iff.mp huse with ⟨-, rfl⟩ | ⟨-, rfl⟩ | rfl
  · exact plainMark_mark (by decide)
  · exact (plainMark_mark (by decide)).withParam (by decide) (plainValue_identityStrategy frame)
  · have hnamed : PlainMark ((mark "Column").withParam "name" (.text column.name)) :=
      (plainMark_mark (by decide)).withParam (by decide) trivial
    split
    · exact hnamed
    · exact hnamed.withParam (by decide) (plainValue_bool false)

/-- The literal of a column is its name. -/
theorem fieldNotes_field (frame : Frame) (column : Column) :
    fieldNotes (frame.field column) = [.literal column.name.toList] := by
  simp only [fieldNotes, Frame.field, Frame.annotations]
  cases frame.isKey column <;> cases column.autoIncrement <;> cases column.nullable <;> rfl

theorem plain_fieldName_of_alias?_eq_none (hcolumn : (Document.column column).alias? = none) :
    Plain (Frame.fieldName column) := by
  rw [Frame.fieldName, Document.javaName, hcolumn]
  exact plain_fieldName column.name

/-- A field is plain if its name is: the name of the column stands in a literal. -/
theorem plainField_field (hname : Plain (Frame.fieldName column)) :
    PlainField (frame.field column) where
  name := hname
  type := by simpa only [Frame.field, Field.plain] using plainType_columnType column.databaseType
  value := rfl
  javadoc := rfl
  annotations := by
    intro use huse
    change use ∈ frame.annotations column at huse
    exact plainMark_of_mem_annotations huse

theorem plainMethod_of_mem_accessorPair (hclass : Plain frame.className)
    (hname : Plain (Frame.fieldName column)) {method : Method}
    (hmethod : method ∈ frame.accessorPair column) : PlainMethod method := by
  have hproperty := plain_typeName (Frame.fieldName column)
  have htype := plainType_columnType column.databaseType
  simp only [Frame.accessorPair, List.mem_cons, List.not_mem_nil, or_false] at hmethod
  rcases hmethod with rfl | rfl
  · have hline := (Plain.append (by decide : Plain "return ") hname).append (by decide : Plain ";")
    have hgetter := PlainMethod.plain (Plain.append (by decide : Plain "get") hproperty) htype
    exact (hgetter.withLine hline).withModifier .isPublic
  · have htarget := (Plain.append (by decide : Plain "this.") hname).append
      (by decide : Plain " = ")
    have hline := (htarget.append hname).append (by decide : Plain ";")
    have hreturns : PlainType (.named frame.className) := ⟨hclass, rfl⟩
    have hsetter := (PlainMethod.plain (Plain.append (by decide : Plain "set") hproperty)
      hreturns).withParam (PlainField.plain hname htype) rfl
    exact ((hsetter.withModifier .isPublic).withLine hline).withLine (by decide)

/-- The class of an entity is plain. -/
theorem plainClass_classHead (hclass : Plain frame.className)
    (hcolumns : ∀ column ∈ columns, Plain (Frame.fieldName column)) (fullName tableText : String) :
    PlainClass (classHead frame columns fullName tableText) where
  name := hclass
  generics := rfl
  parent := rfl
  interfaces := rfl
  fields := by
    intro field hfield
    obtain ⟨column, hcolumn, rfl⟩ := List.mem_map.mp hfield
    exact plainField_field (hcolumns column hcolumn)
  constructors := rfl
  methods := by
    intro method hmethod
    simp only [classHead] at hmethod
    split at hmethod
    · obtain ⟨column, hcolumn, hmem⟩ := List.mem_flatMap.mp hmethod
      exact plainMethod_of_mem_accessorPair hclass (hcolumns column hcolumn) hmem
    · exact absurd hmethod List.not_mem_nil
  annotations := by
    intro use huse
    simp only [classHead, List.mem_cons, List.not_mem_nil, or_false] at huse
    rcases huse with rfl | rfl
    · exact plainMark_mark (by decide)
    · exact (plainMark_mark (by decide)).withParam (by decide) trivial

theorem classNotes_classHead (frame : Frame) (columns : List Column) (fullName tableText : String) :
    classNotes (classHead frame columns fullName tableText) =
      [.comment (comment (.ofText ("Entity mapped to the " ++ fullName ++ " table."))),
        .literal tableText.toList] ++ columns.map fun column => .literal column.name.toList := by
  have hfields : ((columns.map frame.field).map fieldNotes).flatten =
      columns.map fun column => .literal column.name.toList := by
    induction columns with
    | nil => rfl
    | cons column columns ih => simpa [fieldNotes_field] using ih
  simp only [classNotes, classHead]
  rw [hfields]
  rfl

end Entity

/-- No document of a project has an alias. -/
def Project.HasNoAlias (project : Project) : Prop :=
  ∀ path ∈ traverse project, path.document.alias? = none

namespace TableSite

section

variable {settings : EntitySettings} {project : Project} {site : TableSite}

/-- The schema, the table and the columns of a site are documents of the project. -/
theorem alias?_eq_none (hproject : project.HasNoAlias) (hsite : site ∈ project.enabledSites) :
    (Document.schema site.schema).alias? = none ∧ (Document.table site.table).alias? = none ∧
      ∀ column ∈ site.table.columns, (Document.column column).alias? = none := by
  obtain ⟨hdbms, hschema, htable⟩ := mem_of_mem_enabledSites hsite
  have hdbmsPath := child_mem_traverse (root_mem_traverse project) (List.mem_map_of_mem hdbms)
  have hschemaPath := child_mem_traverse hdbmsPath (List.mem_map_of_mem hschema)
  have htablePath := child_mem_traverse hschemaPath (List.mem_map_of_mem htable)
  refine ⟨hproject _ hschemaPath, hproject _ htablePath, fun column hcolumn => ?_⟩
  exact hproject _ (child_mem_traverse htablePath
    (List.mem_append_left _ (List.mem_map_of_mem hcolumn)))

/-- What a reader finds in the source of an entity: the header, the comment of
the class, the name of the table and the names of the columns. -/
def sourceNotes (site : TableSite) (naming : NamingConvention) : List Java.Token :=
  [.comment (Java.comment (.ofText "Generated by ormgen. Do not edit.")),
    .comment (Java.comment (.ofText ("Entity mapped to the " ++ site.fullName ++ " table."))),
    .literal (naming.encloseField site.table.name).toList] ++
  site.columns.map fun column => .literal column.name.toList

/-- Without aliases all names in an entity have been converted, and a conversion
leaves plain characters only. -/
theorem plainFile_entity (hproject : project.HasNoAlias) (hsite : site ∈ project.enabledSites)
    {base : String} (hbase : Java.Plain base) (naming : NamingConvention) (key : List Column) :
    Java.PlainFile (site.entity settings base naming key) := by
  obtain ⟨hschema, htable, hcolumns⟩ := alias?_eq_none hproject hsite
  have hclass : Java.Plain (site.frame settings key).className := by
    rw [frame, Entity.className, htable]
    exact Java.plain_typeName site.table.name
  have hpackage : Java.Plain (Entity.packageName base (.schema site.schema)) := by
    rw [Entity.packageName, Document.javaName, hschema]
    exact (hbase.append (by decide)).append (Java.plain_lowerText (Java.plain_fieldName _))
  constructor
  · rintro name ⟨⟩
    exact hpackage
  · intro line hline
    exact Entity.plain_importLines hline
  · intro declaration hdeclaration
    refine ⟨_, Entity.plainClass_classHead hclass ?_ _ _, List.mem_singleton.mp hdeclaration⟩
    intro column hcolumn
    exact Entity.plain_fieldName_of_alias?_eq_none
      (hcolumns column (List.mem_filter.mp hcolumn).1)

/-- The comments and literals of an entity are those that its table leaves in
the source. -/
theorem notes_entity (base : String) (naming : NamingConvention) (key : List Column) :
    Java.notes (.file (site.entity settings base naming key)) = site.sourceNotes naming := by
  have hhead := Entity.classNotes_classHead (site.frame settings key) site.columns site.fullName
    (naming.encloseField site.table.name)
  simp [Java.notes, Java.fileNotes, entity, head, Java.declarationNotes, hhead, sourceNotes]

end

end TableSite

namespace EntityGenerator

/-- Whatever the names in a database are, a reader of a generated file finds two
comments, the header and the comment of the class, then a literal for the name of
the table and one for the name of each enabled column, and nowhere else a quote,
a backslash or a slash. -/
theorem names_inject_no_code {settings : EntitySettings} {project : Project}
    (hproject : project.HasNoAlias)
    (hbase : ∀ word ∈ Text.segments '.' (basePackage settings project).toList, ∀ c ∈ word,
      Unicode.isAlphanumeric c = true ∨ c = '_')
    {files : GeneratedFiles} (hgenerate : generate ⟨settings, .java⟩ project = .ok files) :
    List.Forall₂
      (fun site file => ∃ naming tokens, site.naming? settings = some naming ∧
        Java.scan file.content.toList = some tokens ∧
        tokens.filter Java.Token.isNote = site.sourceNotes naming ∧
        ∀ c, .code c ∈ tokens → c ≠ '"' ∧ c ≠ '\\' ∧ c ≠ '/')
      (TableSite.included settings project.enabledSites) files := by
  obtain ⟨-, hyields⟩ := generate_eq_ok_iff.mp hgenerate
  have hsites : ∀ site ∈ TableSite.included settings project.enabledSites,
      site ∈ project.enabledSites := by
    intro site hsite
    exact ((TableSite.mem_included_iff settings site).mp hsite).1
  refine ((List.forall₂_and_left _ _).mpr ⟨hsites, hyields⟩).imp ?_
  rintro site file ⟨hsite, entity, hentity, hprint⟩
  obtain ⟨-, naming, key, hnaming, -, rfl⟩ := TableSite.exists_of_entity?_eq_some hentity
  have hplain := @TableSite.plainFile_entity settings project site hproject hsite _
    (Java.plain_of_words hbase) naming key
  have hsays := Java.speaks_file rfl hplain file.content (Entity.text_of_print_eq_ok hprint)
  change Java.Reads file.content.toList (Java.notes (.file _)) at hsays
  rw [TableSite.notes_entity] at hsays
  obtain ⟨tokens, hscan, hnotes, hcode⟩ := hsays.exists_scan_eq
  refine ⟨naming, tokens, hnaming, hscan, hnotes, fun c hc => ?_⟩
  have hne := hcode c hc
  simp only [Java.IsPlain, List.mem_cons, not_or] at hne
  exact ⟨hne.1, hne.2.1, hne.2.2.1⟩

namespace Hostile

/-- A table with names that try to end literals and comments. -/
def site : TableSite :=
  let table : Table := ⟨"a\"b\\", none, true, [⟨"c\"; // \n", none, true, "int", false, false⟩], []⟩
  let schema : Schema := ⟨"s*/", none, true, [table]⟩
  ⟨⟨"d", none, true, "postgres", [schema]⟩, schema, table⟩

def project : Project := ⟨"p", none, true, none, [site.dbms]⟩

theorem hasNoAlias : project.HasNoAlias := by
  unfold Project.HasNoAlias
  decide

theorem found_eq : found .initial project = .ok [some (site.entity .initial "p" .postgres [])] :=
  rfl

theorem segments_basePackage :
    Text.segments '.' (basePackage .initial project).toList = [['p']] := rfl

theorem included_eq : TableSite.included .initial project.enabledSites = [site] := rfl

end Hostile

theorem hostile_names_stay_in_literals :
    Hostile.project.HasNoAlias ∧ ∃ file tokens, generate java Hostile.project = .ok [file] ∧
      Java.scan file.content.toList = some tokens ∧
      tokens.filter Java.Token.isNote = [
        .comment "/**\n * Generated by ormgen. Do not edit.\n */".toList,
        .comment "/**\n * Entity mapped to the s*&#47;.a\"b\\ table.\n */".toList,
        .literal "\"a\"b\\\"".toList, .literal "c\"; // \n".toList] ∧
      ∀ c, .code c ∈ tokens → c ≠ '"' ∧ c ≠ '\\' ∧ c ≠ '/' := by
  obtain ⟨files, hgenerate, -⟩ := generate_of_found_eq_ok Hostile.found_eq
  have hwords : ∀ word ∈ Text.segments '.' (basePackage .initial Hostile.project).toList,
      ∀ c ∈ word, Unicode.isAlphanumeric c = true ∨ c = '_' := by
    simp only [Hostile.segments_basePackage, List.forall_mem_singleton]
    decide
  have hall := names_inject_no_code Hostile.hasNoAlias hwords hgenerate
  rw [Hostile.included_eq, List.forall₂_cons_left_iff] at hall
  obtain ⟨file, rest, ⟨naming, tokens, hnaming, hscan, hnotes, hcode⟩, hrest, rfl⟩ := hall
  cases hrest
  obtain rfl : .postgres = naming := Option.some.inj hnaming
  exact ⟨Hostile.hasNoAlias, file, tokens, hgenerate, hscan, hnotes, hcode⟩

end EntityGenerator

end TableScribe
