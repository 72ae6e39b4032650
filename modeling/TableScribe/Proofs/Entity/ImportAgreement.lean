/-
The imports of an entity agree with the names in its text.  What is imported is
what is written in short, and only names that end like the class are written in
full.
-/
import TableScribe.Proofs.Entity.References

namespace TableScribe

namespace Document

theorem alias?_ne_empty {document : Document} {name : String}
    (hname : document.alias? = some name) : name ≠ "" := by
  have hkept := (Option.filter_eq_some_iff.mp hname).2
  rintro rfl
  simp at hkept

theorem javaName_ne_empty (document : Document) : document.javaName ≠ "" := by
  unfold javaName
  cases halias : document.alias? with
  | none => exact Java.fieldName_ne_empty document.name
  | some name => exact alias?_ne_empty halias

end Document

namespace Entity

theorem className_ne_empty (table : Table) : className table ≠ "" := by
  unfold className
  cases halias : (Document.table table).alias? with
  | none => exact Java.typeName_ne_empty table.name
  | some name => exact Document.alias?_ne_empty halias

theorem not_mem_className {table : Table}
    (halias : ∀ name, table.javaAlias = some name → '.' ∉ name.toList) :
    '.' ∉ (className table).toList := by
  unfold className
  cases hname : (Document.table table).alias? with
  | none => exact Java.not_mem_typeName (by decide) (by decide) table.name
  | some name => exact halias name (Option.filter_eq_some_iff.mp hname).1

section

variable {frame : Frame} {columns : List Column} {file : File} {head : ClassHead}

theorem Holds.printedName_ne_empty (hentity : IsEntity frame columns file head)
    (above : List Model) {use : Annotation}
    (hnode : Holds frame columns file head (.annotationUse use)) :
    Java.printedName above use.name ≠ "" := by
  obtain ⟨hfull, hshort⟩ :=
    ne_empty_of_mem_importable (mem_importable (hnode.name_mem_neededNames hentity))
  unfold Java.printedName
  split
  · exact hfull
  · exact hshort

/-- Every node of the file can be written, wherever it stands. -/
theorem Holds.sound (hentity : IsEntity frame columns file head) (hclass : frame.className ≠ "")
    (above : List Model) {model : Model} (hnode : Holds frame columns file head model.node) :
    Java.Sound above model := by
  unfold Java.Sound
  generalize model.node = node at hnode
  cases hnode with
  | file => trivial
  | importLine hline =>
      rw [hentity.imports] at hline
      have hneeded := (mem_map_path_importLines.mp (List.mem_map_of_mem hline)).1
      exact (ne_empty_of_mem_importable (mem_importable hneeded)).1
  | javadoc => trivial
  | classDecl =>
      simpa only [Declaration.name, hentity.name_head] using hclass
  | field hcolumn => exact Document.javaName_ne_empty _
  | method hcolumn hmethod =>
      simp only [Frame.accessorPair, List.mem_cons, List.not_mem_nil, or_false] at hmethod
      rcases hmethod with rfl | rfl
      · simp [Method.withModifier, Method.withLine, Method.plain]
      · simp [Method.withModifier, Method.withLine, Method.withParam, Method.plain]
  | parameter hcolumn => exact Document.javaName_ne_empty _
  | classMark huse => exact (Holds.classMark huse).printedName_ne_empty hentity above
  | fieldMark hcolumn huse =>
      exact (Holds.fieldMark hcolumn huse).printedName_ne_empty hentity above
  | text content => exact ⟨_, rfl⟩
  | bool flag => exact ⟨_, rfl⟩
  | strategy => exact ⟨_, rfl⟩
  | columnType => exact Java.name_columnType_ne_empty _
  | classType => exact hclass

/-- The file of an entity has a text. -/
theorem exists_text (hentity : IsEntity frame columns file head) (hclass : frame.className ≠ "")
    {root : Model} (hroot : root.node = .file file) :
    ∃ text, Registry.java.text [] root = .ok text := by
  apply (Java.exists_text_iff_forall_sound root).mpr
  intro above model hlineage
  exact (Holds.of_lineage hentity hroot hlineage).1.sound hentity hclass above

end

/-- When a generator renders a root, the names in a class of it agree with these
imports. -/
structure NamesAgree (generator : Generator) (root : Model) (head : ClassHead)
    (imports : List String) : Prop where
  /-- Types are referred to in the class only. -/
  inClass {above : List Model} {model : Model} {name text : String} :
    Moment.HandsOver generator root above model text → Refers above model name →
      ∃ owner ∈ above, owner.node = .declaration (.ofClass head [])
  /-- A qualified name is written in full exactly if it ends like the class. -/
  inFull {above : List Model} {model : Model} {name text : String} :
    Moment.HandsOver generator root above model text → Refers above model name →
      '.' ∈ name.toList → (WrittenAs above model name text ↔ simpleName name = head.name)
  /-- All other qualified names are written in short. -/
  inShort {above : List Model} {model : Model} {name text : String} :
    Moment.HandsOver generator root above model text → Refers above model name →
      '.' ∈ name.toList →
        (WrittenAs above model (simpleName name) text ↔ simpleName name ≠ head.name)
  /-- What is imported is what is referred to somewhere and written there in
  short, unless it belongs to the language. -/
  imported {name : String} : name ∈ imports ↔ (TypeRef.named name).needsImport = true ∧
    ∃ above model text, Moment.HandsOver generator root above model text ∧
      Refers above model name ∧ WrittenAs above model (simpleName name) text
  ascending : imports.Pairwise (· < ·)
  distinct : (imports.map simpleName).Nodup
  unlikeClass : head.name ∉ imports.map simpleName

section

variable {frame : Frame} {columns : List Column} {file : File} {head : ClassHead} {root : Model}

/-- What is handed over for a node that refers to a qualified name stands in the
tree and has the name in full or in short. -/
theorem IsEntity.handsOver_cases (hentity : IsEntity frame columns file head)
    (hroot : root.node = .file file) {above : List Model} {model : Model} {name text : String}
    (hhands : Moment.HandsOver (Generator.new Registry.java) root above model text)
    (hrefers : Refers above model name) :
    Lineage Java.Writes root above model ∧ ('.' ∈ name.toList →
      (WrittenAs above model name text ↔ simpleName name = head.name) ∧
      (WrittenAs above model (simpleName name) text ↔ simpleName name ≠ head.name)) := by
  obtain ⟨activation, waiting, last, rfl, rfl, hleads⟩ := hhands
  obtain ⟨hlineage, htext⟩ := Moment.text_of_leads Java.java_descends hleads
  refine ⟨hlineage, ?_⟩
  intro hdot
  rw [hentity.name_head]
  exact writtenAs_full_or_short hentity hroot hlineage hrefers hdot htext.symm

/-- A needed type that does not end like the class is written in short
somewhere. -/
theorem IsEntity.exists_writtenAs_simpleName (hentity : IsEntity frame columns file head)
    (hroot : root.node = .file file) (hcolumns : columns ≠ []) {whole : String}
    (hwhole : Registry.java.text [] root = .ok whole) {name : String}
    (hneeded : name ∈ neededNames frame columns) (hsimple : simpleName name ≠ head.name) :
    ∃ above model text, Moment.HandsOver (Generator.new Registry.java) root above model text ∧
      Refers above model name ∧ WrittenAs above model (simpleName name) text := by
  have hneeds := needsImport_of_mem_importable (mem_importable hneeded)
  obtain ⟨above, model, hrefers, hlineage⟩ :=
    isReferred_of_mem_neededNames hentity hroot hcolumns hneeded
  obtain ⟨text, waiting, hstack, -, hleads⟩ :=
    Moment.leads_text Java.java_descends Java.java_covers hwhole hlineage
  have hhands : Moment.HandsOver (Generator.new Registry.java) root above model text :=
    ⟨_, waiting, _, rfl, hstack, hleads⟩
  obtain ⟨-, hforms⟩ := hentity.handsOver_cases hroot hhands hrefers
  exact ⟨above, model, text, hhands, hrefers,
    (hforms (mem_of_needsImport hneeds)).2.mpr hsimple⟩

theorem IsEntity.namesAgree (hentity : IsEntity frame columns file head)
    (hclass : '.' ∉ frame.className.toList) (hroot : root.node = .file file)
    (hcolumns : columns ≠ []) {whole : String}
    (hwhole : Registry.java.text [] root = .ok whole) :
    NamesAgree (Generator.new Registry.java) root head (file.imports.map Import.path) := by
  rw [hentity.imports]
  constructor
  case inClass =>
    intro above model name text hhands hrefers
    exact hrefers.in_class hentity hroot (hentity.handsOver_cases hroot hhands hrefers).1
  case inFull =>
    intro above model name text hhands hrefers hdot
    exact ((hentity.handsOver_cases hroot hhands hrefers).2 hdot).1
  case inShort =>
    intro above model name text hhands hrefers hdot
    exact ((hentity.handsOver_cases hroot hhands hrefers).2 hdot).2
  case imported =>
    intro name
    rw [mem_map_path_importLines, ← hentity.name_head]
    constructor
    · rintro ⟨hneeded, hsimple⟩
      exact ⟨needsImport_of_mem_importable (mem_importable hneeded),
        hentity.exists_writtenAs_simpleName hroot hcolumns hwhole hneeded hsimple⟩
    · rintro ⟨hneeds, above, model, text, hhands, hrefers, hwritten⟩
      obtain ⟨hlineage, hforms⟩ := hentity.handsOver_cases hroot hhands hrefers
      exact ⟨mem_neededNames_of_refers hentity hclass hroot hlineage hrefers hneeds,
        (hforms (mem_of_needsImport hneeds)).2.mp hwritten⟩
  case ascending => exact pairwise_map_path_importLines
  case distinct => exact nodup_simpleName_importLines
  case unlikeClass =>
    rw [hentity.name_head]
    exact className_not_mem_simpleName_importLines

end

section

variable {α : Type} {accessors : Bool} {path : DocumentPath} {base : String}
  {naming : NamingConvention} {file : File} {table : Table}

/-- An entity of a table with an enabled column can be rendered, and then its
names agree with its imports. -/
theorem imports_agree_with_names {driver : Program α} {before : Moment α}
    (hbefore : Moment.Reached Registry.java driver before)
    (hidle : before.generator.isIdle = true)
    (hfile : Entity.file accessors path base naming = .ok file)
    (htable : path.document = .table table)
    (hcolumns : ∃ column ∈ table.columns, column.enabled = true)
    (halias : ∀ name, table.javaAlias = some name → '.' ∉ name.toList) (tree : Nat) :
    (∃ text, before.generator.render (Model.root tree (.file file)) =
      some (.ok text, before.generator)) ∧
    (∀ line ∈ file.imports, line.isStatic = false) ∧
    ∃ head, file.declarations = [.ofClass head []] ∧ head.name = className table ∧
      NamesAgree before.generator (Model.root tree (.file file)) head
        (file.imports.map Import.path) := by
  obtain ⟨key, head, hentity⟩ := isEntity_of_file_eq_ok hfile htable
  have hroot : (Model.root tree (.file file)).node = .file file := rfl
  obtain ⟨whole, hwhole⟩ := exists_text hentity (className_ne_empty table) hroot
  have hkept : table.columns.filter Column.enabled ≠ [] := by
    obtain ⟨column, hcolumn, henabled⟩ := hcolumns
    exact List.ne_nil_of_mem (List.mem_filter.mpr ⟨hcolumn, henabled⟩)
  have hagree := hentity.namesAgree (not_mem_className halias) hroot hkept hwhole
  rw [Moment.generator_eq_new hbefore hidle, Generator.render_new Java.java_descends, hwhole]
  refine ⟨⟨whole, rfl⟩, ?_, head, hentity.declarations, hentity.name_head, hagree⟩
  intro line hline
  exact isStatic_importLines (hentity.imports ▸ hline)

end

namespace Stamps

/-- A table that is named like the type of one of its columns. -/
def table : Table where
  name := "timestamp"
  javaAlias := some ""
  enabled := true
  columns := [⟨"id", none, true, "BIGINT", false, true⟩,
    ⟨"created_at", none, true, "TIMESTAMP", true, false⟩]
  keyColumns := [⟨"id", none, true⟩]

def schema : Schema := ⟨"shop", none, true, [table]⟩

def path : DocumentPath := ⟨[.schema schema], .table table⟩

end Stamps

theorem timestamp_not_imported_into_class_of_its_name :
    ∃ file, Entity.file true Stamps.path "org.demo" .mysql = .ok file ∧
      (∃ text, (Generator.new Registry.java).render (Model.root 0 (.file file)) =
        some (.ok text, Generator.new Registry.java)) ∧
      "java.sql.Timestamp" ∉ file.imports.map Import.path := by
  have hbefore : Moment.Reached Registry.java (.done ()) (Moment.start Registry.java (.done ())) :=
    Relation.ReflTransGen.refl
  obtain ⟨file, hfile⟩ : ∃ file, Entity.file true Stamps.path "org.demo" .mysql = .ok file :=
    ⟨_, rfl⟩
  obtain ⟨hrender, -, head, -, hname, hagree⟩ := imports_agree_with_names hbefore rfl hfile rfl
    ⟨_, List.mem_cons_self, rfl⟩ (by decide) 0
  refine ⟨file, hfile, hrender, ?_⟩
  intro hmem
  exact hagree.unlikeClass (hname ▸ List.mem_map_of_mem hmem)

end Entity

end TableScribe
