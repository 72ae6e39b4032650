/-
Names of the language that a neighbour takes.  A file writes a type of the
language by its simple name unless its own class has that name; the classes of
the other files of its package are not looked at.
-/
import TableScribe.Proofs.Entity.Injection

namespace TableScribe

namespace Entity

def languageName (simple : String) : String := "java.lang." ++ simple

/-- In the text of a file a type of the language is written by its simple name. -/
def WritesInShort (file : File) (simple : String) : Prop :=
  ∃ above model text,
    Moment.HandsOver (Generator.new .java) (Model.root 0 (.file file)) above model text ∧
      Refers above model (languageName simple) ∧ WrittenAs above model simple text

/-- A file declares a class that takes the place of a type of the language in
another file of its package. -/
structure Captures (other file : File) (simple : String) : Prop where
  package : other.package = file.package
  declares : Java.declaresAtTop simple (.file other) = true
  short : WritesInShort file simple

theorem languageName_not_mem_importable (simple : String) : languageName simple ∉ importable := by
  have hall : ∀ name ∈ importable, "java.lang.".toList.isPrefixOf name.toList = false := by
    decide +kernel
  intro hmem
  have hprefix := hall _ hmem
  simp [languageName] at hprefix

/-- The types of the language that columns have lie directly in its package. -/
theorem simpleName_languageName {simple databaseType : String}
    (htype : (Java.columnType databaseType).name = languageName simple) :
    simpleName (languageName simple) = simple := by
  have hall : ∀ type ∈ Java.possibleTypes, "java.lang.".toList.isPrefixOf type.name.toList = true →
      (simpleName type.name).toList = type.name.toList.drop 10 := by
    decide
  have hsimple := hall _ (Java.columnType_mem databaseType) (by simp [htype, languageName])
  rw [htype] at hsimple
  rw [← String.toList_inj, hsimple]
  simp [languageName]

section

variable {frame : Frame} {columns : List Column} {file : File} {head : ClassHead}
  {root model : Model} {above : List Model} {simple : String}

/-- A type of the language is referred to as the type of a column only. -/
theorem exists_column_of_refers (hentity : IsEntity frame columns file head)
    (hclass : '.' ∉ frame.className.toList) (hroot : root.node = .file file)
    (hlineage : Lineage Java.Writes root above model)
    (hrefers : Refers above model (languageName simple)) :
    ∃ column ∈ columns, (Java.columnType column.databaseType).name = languageName simple := by
  obtain ⟨hholds, -⟩ := Holds.of_lineage hentity hroot hlineage
  have hmark {use : Annotation} (huse : Holds frame columns file head (.annotationUse use)) :
      use.name ≠ languageName simple := by
    intro hname
    have hmem := mem_importable (huse.name_mem_neededNames hentity)
    exact languageName_not_mem_importable simple (hname ▸ hmem)
  cases hrefers with
  | named hname =>
      generalize model.node = node at hholds hname
      cases hholds with
      | columnType hcolumn => exact ⟨_, hcolumn, Option.some.inj hname⟩
      | classType =>
          have hname : frame.className = languageName simple := Option.some.inj hname
          exact absurd (hname ▸ by simp [languageName]) hclass
      | classMark huse => exact absurd (Option.some.inj hname) (hmark (.classMark huse))
      | fieldMark hcolumn huse =>
          exact absurd (Option.some.inj hname) (hmark (.fieldMark hcolumn huse))
      | _ => simp [Node.referredName?] at hname

/-- A file writes a type of the language in short exactly if a column has the
type and the class does not have its name. -/
theorem IsEntity.writesInShort_iff (hentity : IsEntity frame columns file head)
    (hclass : frame.className ≠ "") (hdot : '.' ∉ frame.className.toList) :
    WritesInShort file simple ↔ frame.className ≠ simple ∧
      ∃ column ∈ columns, (Java.columnType column.databaseType).name = languageName simple := by
  have hroot : (Model.root 0 (.file file)).node = .file file := rfl
  have hqualified : '.' ∈ (languageName simple).toList := by simp [languageName]
  constructor
  · rintro ⟨above, model, text, hhands, hrefers, hwritten⟩
    obtain ⟨hlineage, hforms⟩ := hentity.handsOver_cases hroot hhands hrefers
    obtain ⟨column, hcolumn, htype⟩ :=
      exists_column_of_refers hentity hdot hroot hlineage hrefers
    have hsimple := simpleName_languageName htype
    have hne := (hforms hqualified).2.mp (hsimple.symm ▸ hwritten)
    rw [hsimple, hentity.name_head] at hne
    exact ⟨hne.symm, column, hcolumn, htype⟩
  · rintro ⟨hne, column, hcolumn, htype⟩
    obtain ⟨whole, hwhole⟩ := exists_text hentity hclass hroot
    obtain ⟨above, model, hnode, hlineage⟩ := stands_columnType hentity hroot hcolumn
    obtain ⟨text, waiting, hstack, -, hleads⟩ :=
      Moment.leads_text Java.java_descends Java.java_covers hwhole hlineage
    have hhands : Moment.HandsOver (Generator.new Registry.java) (Model.root 0 (.file file)) above
        model text :=
      ⟨_, waiting, _, rfl, hstack, hleads⟩
    have hrefers : Refers above model (languageName simple) :=
      .named (by rw [hnode, Node.referredName?, htype])
    obtain ⟨-, hforms⟩ := hentity.handsOver_cases hroot hhands hrefers
    have hsimple := simpleName_languageName htype
    have hshort := (hforms hqualified).2
    rw [hsimple, hentity.name_head] at hshort
    exact ⟨above, model, text, hhands, hrefers, hshort.mpr hne.symm⟩

end

end Entity

namespace TableSite

variable {settings : EntitySettings} {project : Project} {base simple : String}

/-- The class of a table takes the place of a type in the file of another table
exactly if the schemas go by one name, the table has the name of the type, the
other table has not, and a column of that table has the type. -/
def NameCaptures (other site : TableSite) (simple : String) : Prop :=
  Unicode.lowerText (Java.fieldName other.schema.name) =
      Unicode.lowerText (Java.fieldName site.schema.name) ∧
    Java.typeName other.table.name = simple ∧ Java.typeName site.table.name ≠ simple ∧
    ∃ column ∈ site.columns,
      (Java.columnType column.databaseType).name = Entity.languageName simple

theorem captures_iff (hproject : project.HasNoAlias) {site other : TableSite}
    (hsite : site ∈ project.enabledSites) (hother : other ∈ project.enabledSites)
    (naming naming' : NamingConvention) (key key' : List Column) :
    Entity.Captures (other.entity settings base naming' key')
        (site.entity settings base naming key) simple ↔
      other.NameCaptures site simple := by
  obtain ⟨hschema, htable, -⟩ := alias?_eq_none hproject hsite
  obtain ⟨hschema', htable', -⟩ := alias?_eq_none hproject hother
  have hclass : Entity.className site.table = Java.typeName site.table.name := by
    rw [Entity.className, htable]
    rfl
  have hclass' : Entity.className other.table = Java.typeName other.table.name := by
    rw [Entity.className, htable']
    rfl
  have hpackage : (other.entity settings base naming' key').package =
      (site.entity settings base naming key).package ↔
        Unicode.lowerText (Java.fieldName other.schema.name) =
          Unicode.lowerText (Java.fieldName site.schema.name) := by
    simp [entity, Entity.packageName, Document.javaName, hschema, hschema', Document.name]
  have hdeclares : Java.declaresAtTop simple (.file (other.entity settings base naming' key')) ↔
      Java.typeName other.table.name = simple := by
    rw [Entity.declaresAtTop_iff (other.isEntity_entity settings base naming' key'), eq_comm]
    exact Eq.congr_left hclass'
  have hdot : '.' ∉ (site.frame settings key).className.toList := by
    change '.' ∉ (Entity.className site.table).toList
    rw [hclass]
    exact Java.not_mem_typeName (by decide) (by decide) site.table.name
  have hshort : Entity.WritesInShort (site.entity settings base naming key) simple ↔
      Java.typeName site.table.name ≠ simple ∧ ∃ column ∈ site.columns,
        (Java.columnType column.databaseType).name = Entity.languageName simple := by
    rw [(site.isEntity_entity settings base naming key).writesInShort_iff
      (Entity.className_ne_empty site.table) hdot]
    exact and_congr_left fun _ => not_congr (Eq.congr_left hclass)
  constructor
  · rintro ⟨hsame, hdeclared, hwritten⟩
    exact ⟨hpackage.mp hsame, hdeclares.mp hdeclared, hshort.mp hwritten⟩
  · rintro ⟨hsame, hdeclared, hwritten⟩
    exact ⟨hpackage.mpr hsame, hdeclares.mpr hdeclared, hshort.mpr hwritten⟩

end TableSite

namespace EntityGenerator

/-- In a project without aliases a class takes the place of a type of the
language that another file writes in short exactly if its table has the name of
the type.  The file whose own class has the name never writes it in short. -/
theorem language_name_captured_iff {settings : EntitySettings} {project : Project}
    (hproject : project.HasNoAlias) {files : GeneratedFiles}
    (hgenerate : generate ⟨settings, .java⟩ project = .ok files) :
    List.Forall₂ (TableSite.Yields settings (basePackage settings project))
        (TableSite.included settings project.enabledSites) files ∧
      ∀ site ∈ TableSite.included settings project.enabledSites,
        ∀ other ∈ TableSite.included settings project.enabledSites, ∃ file file',
          site.entity? settings (basePackage settings project) = .ok (some file) ∧
          other.entity? settings (basePackage settings project) = .ok (some file') ∧
          ∀ simple, Entity.Captures file' file simple ↔ other.NameCaptures site simple := by
  obtain ⟨hsound, hyields⟩ := generate_eq_ok_iff.mp hgenerate
  refine ⟨hyields, ?_⟩
  intro site hsite other hother
  obtain ⟨hsite, hincluded⟩ := (TableSite.mem_included_iff settings site).mp hsite
  obtain ⟨hother, hincluded'⟩ := (TableSite.mem_included_iff settings other).mp hother
  obtain ⟨naming, key, -, -, hentity⟩ := TableSite.exists_entity?_of_included
    (hsound site hsite) hincluded (basePackage settings project)
  obtain ⟨naming', key', -, -, hentity'⟩ := TableSite.exists_entity?_of_included
    (hsound other hother) hincluded' (basePackage settings project)
  exact ⟨_, _, hentity, hentity', fun simple =>
    TableSite.captures_iff hproject hsite hother naming naming' key key'⟩

namespace Notes

/-- A table with a column of a type of the language. -/
def noteTable : Table := ⟨"note", none, true, [⟨"body", none, true, "TEXT", true, false⟩], []⟩

/-- A table named like the type. -/
def stringTable : Table := ⟨"string", none, true, [], []⟩

def schema : Schema := ⟨"s", none, true, [stringTable, noteTable]⟩

def dbms : Dbms := ⟨"d", none, true, "mysql", [schema]⟩

def project : Project := ⟨"p", none, true, none, [dbms]⟩

def noteSite : TableSite := ⟨dbms, schema, noteTable⟩

def stringSite : TableSite := ⟨dbms, schema, stringTable⟩

theorem hasNoAlias : project.HasNoAlias := by
  unfold Project.HasNoAlias
  decide

theorem found_eq :
    found .initial project = .ok [some (stringSite.entity .initial "p" .mysql []),
      some (noteSite.entity .initial "p" .mysql [])] := rfl

theorem enabledSites_eq : project.enabledSites = [stringSite, noteSite] := rfl

theorem included_eq : TableSite.included .initial project.enabledSites = [stringSite, noteSite] :=
  rfl

theorem stringSite_nameCaptures : stringSite.NameCaptures noteSite "String" :=
  ⟨rfl, rfl, by decide, _, List.mem_singleton_self _, rfl⟩

end Notes

/-- Nothing takes the place of a name in a file without columns. -/
theorem string_table_not_captured :
    Notes.project.HasNoAlias ∧ ∃ files, generate java Notes.project = .ok files ∧
      ∃ file file', Notes.stringSite.entity? .initial "p" = .ok (some file) ∧
        Notes.noteSite.entity? .initial "p" = .ok (some file') ∧
        ∀ simple, ¬ Entity.Captures file' file simple := by
  obtain ⟨files, hgenerate, -⟩ := generate_of_found_eq_ok Notes.found_eq
  have hall := (language_name_captured_iff Notes.hasNoAlias hgenerate).2
  simp only [Notes.included_eq, List.forall_mem_cons] at hall
  obtain ⟨⟨-, ⟨file, file', hfile, hfile', hiff⟩, -⟩, -⟩ := hall
  refine ⟨Notes.hasNoAlias, files, hgenerate, file, file', hfile, hfile', ?_⟩
  intro simple hcaptures
  obtain ⟨-, -, -, column, hcolumn, -⟩ := (hiff simple).mp hcaptures
  exact absurd hcolumn List.not_mem_nil

/-- A table named like a type of the language takes the place of the type in the
file of another table. -/
theorem string_table_captures :
    Notes.project.HasNoAlias ∧ ∃ files, generate java Notes.project = .ok files ∧
      List.Forall₂ (TableSite.Yields .initial "p") [Notes.stringSite, Notes.noteSite] files ∧
      ∃ file file', Notes.noteSite.entity? .initial "p" = .ok (some file) ∧
        Notes.stringSite.entity? .initial "p" = .ok (some file') ∧
        Entity.Captures file' file "String" := by
  obtain ⟨files, hgenerate, hyields⟩ := generate_of_found_eq_ok Notes.found_eq
  have hnote : Notes.noteSite ∈ Notes.project.enabledSites := by simp [Notes.enabledSites_eq]
  have hstring : Notes.stringSite ∈ Notes.project.enabledSites := by
    simp [Notes.enabledSites_eq]
  have hcaptures : Entity.Captures (Notes.stringSite.entity .initial "p" .mysql [])
      (Notes.noteSite.entity .initial "p" .mysql []) "String" :=
    (TableSite.captures_iff Notes.hasNoAlias hnote hstring .mysql .mysql [] []).mpr
      Notes.stringSite_nameCaptures
  exact ⟨Notes.hasNoAlias, files, hgenerate, hyields, _, _, rfl, rfl, hcaptures⟩

end EntityGenerator

end TableScribe
