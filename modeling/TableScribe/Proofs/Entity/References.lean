/-
The types that the class of an entity refers to.  They are those it needs from
other packages, types of the language and the class itself.
-/
import TableScribe.Proofs.Entity.Contents
import TableScribe.Proofs.Entity.Imports

namespace TableScribe.Entity

/-- Inside given models, a node refers to a type of this name: by a reference,
by an annotation, or by the source text of a generation strategy, whose part
before the last dot is the type of strategies. -/
inductive Refers (above : List Model) (model : Model) : String → Prop
  | named {name : String} (hname : model.node.referredName? = some name) : Refers above model name
  | strategy {owner : Model} {use : Annotation} {source qualifier : String}
      (howner : above.head? = some owner) (hmodel : model ∈ owner.children .params)
      (huse : owner.node = .annotationUse use) (hname : use.name = persistence "GeneratedValue")
      (hparam : ("strategy", .verbatim source) ∈ use.params)
      (hnode : model.node = .value (.verbatim source))
      (hqualifier : qualifier? source = some qualifier)
      (hsimple : simpleName qualifier = "GenerationType") :
      Refers above model (persistence "GenerationType")

/-- In the text of a node that refers to a type, the name of the type is written
in a given form. -/
def WrittenAs (above : List Model) (model : Model) (form text : String) : Prop :=
  match model.node with
  | .value _ => qualifier? text = some form
  | _ => Java.spelling above model form = .ok text

variable {frame : Frame} {columns : List Column} {file : File} {head : ClassHead}
  {root model : Model} {above : List Model} {name text : String}

theorem writtenAs_iff_spelling (hname : model.node.referredName? = some name) {form : String} :
    WrittenAs above model form text ↔ Java.spelling above model form = .ok text := by
  unfold WrittenAs
  split
  · rename_i hnode
    simp [hnode, Node.referredName?] at hname
  · rfl

theorem qualifier?_identityStrategy :
    qualifier? frame.identityStrategy = some (if frame.className = "GenerationType" then
      persistence "GenerationType" else "GenerationType") := by
  unfold Frame.identityStrategy
  split
  · rfl
  · rfl

theorem Holds.eq_identityStrategy {source : String}
    (hnode : Holds frame columns file head (.value (.verbatim source))) :
    source = frame.identityStrategy := by
  cases hnode
  rfl

/-- Types are referred to in the class only. -/
theorem Refers.in_class (hrefers : Refers above model name)
    (hentity : IsEntity frame columns file head) (hroot : root.node = .file file)
    (hlineage : Lineage Java.Writes root above model) :
    ∃ owner ∈ above, owner.node = .declaration (.ofClass head []) := by
  rcases in_class_or_at_top hentity hroot hlineage with howner | htop
  · exact howner
  · exfalso
    cases hrefers with
    | named hname =>
        rcases htop with hnode | hnode | ⟨line, hnode⟩ | ⟨javadoc, hnode⟩ <;>
          simp [hnode, Node.referredName?] at hname
    | strategy _ _ _ _ _ hvalue => simp [hvalue] at htop

/-- A type is written in full where it is named like the class, and by its
simple name elsewhere. -/
theorem writtenAs_full_or_short (hentity : IsEntity frame columns file head)
    (hroot : root.node = .file file) (hlineage : Lineage Java.Writes root above model)
    (hrefers : Refers above model name) (hdot : '.' ∈ name.toList)
    (htext : Registry.java.text above model = .ok text) :
    (WrittenAs above model name text ↔ simpleName name = frame.className) ∧
      (WrittenAs above model (simpleName name) text ↔ simpleName name ≠ frame.className) := by
  cases hrefers with
  | named hname =>
      have hne : model ≠ root := by
        rintro rfl
        simp [hroot, Node.referredName?] at hname
      have htakes : Java.takes above (simpleName name) = true ↔ simpleName name = frame.className :=
        takes_iff_eq_className hentity hroot hlineage hne
      obtain ⟨hfull, hshort⟩ := Java.spelling_full_or_short hname hdot htext
      rw [writtenAs_iff_spelling hname, writtenAs_iff_spelling hname, hfull, hshort,
        ← Bool.not_eq_true, htakes]
      exact ⟨Iff.rfl, Iff.rfl⟩
  | strategy _ _ _ _ _ hnode =>
      obtain ⟨hholds, -⟩ := Holds.of_lineage hentity hroot hlineage
      rw [hnode] at hholds
      obtain rfl := hholds.eq_identityStrategy
      rw [Java.text_value hnode] at htext
      obtain rfl := Except.ok.inj htext
      simp only [WrittenAs, hnode, qualifier?_identityStrategy]
      have hsimple : simpleName (persistence "GenerationType") = "GenerationType" := rfl
      have hne : "GenerationType" ≠ persistence "GenerationType" := by decide
      rw [hsimple]
      by_cases hclass : frame.className = "GenerationType"
      · simp [hclass, hne.symm]
      · simp [hclass, hne, Ne.symm hclass]

theorem mem_of_needsImport (hneeds : (TypeRef.named name).needsImport = true) :
    '.' ∈ name.toList := by
  by_contra hdot
  simp [TypeRef.needsImport, TypeRef.named, qualifier?, Text.splitLast_eq_none_iff.mpr hdot]
    at hneeds

theorem needsImport_named (type : TypeRef) :
    (TypeRef.named type.name).needsImport = type.needsImport := rfl

theorem persistence_mem_neededNames {type : String} (htype : type ∈ ["Entity", "Table", "Column"]) :
    persistence type ∈ neededNames frame columns :=
  List.mem_append_left _ (List.mem_map_of_mem htype)

theorem mem_neededNames_of_column {column : Column} (hcolumn : column ∈ columns)
    (hname : name ∈ frame.importNames column) : name ∈ neededNames frame columns :=
  List.mem_append_right _ (List.mem_flatMap.mpr ⟨column, hcolumn, hname⟩)

theorem Holds.name_mem_neededNames (hentity : IsEntity frame columns file head) {use : Annotation}
    (hnode : Holds frame columns file head (.annotationUse use)) :
    use.name ∈ neededNames frame columns := by
  cases hnode with
  | classMark huse =>
      obtain ⟨fullName, tableText, rfl⟩ := hentity.head
      simp only [classHead, List.mem_cons, List.not_mem_nil, or_false] at huse
      rcases huse with rfl | rfl
      · exact persistence_mem_neededNames (by simp)
      · exact persistence_mem_neededNames (by simp)
  | fieldMark hcolumn huse =>
      rcases mem_annotations_iff.mp huse with ⟨hkey, rfl⟩ | ⟨hauto, rfl⟩ | rfl
      · exact mem_neededNames_of_column hcolumn
          (mem_importNames_iff.mpr (Or.inr (Or.inl ⟨hkey, rfl⟩)))
      · exact mem_neededNames_of_column hcolumn
          (mem_importNames_iff.mpr (Or.inr (Or.inr ⟨hauto, Or.inl rfl⟩)))
      · rw [apply_ite Annotation.name]
        simp only [mark, Annotation.named, Annotation.withParam, ite_self]
        exact persistence_mem_neededNames (by simp)

/-- A type that is referred to and has to be imported is among those needed. -/
theorem mem_neededNames_of_refers (hentity : IsEntity frame columns file head)
    (hclass : '.' ∉ frame.className.toList) (hroot : root.node = .file file)
    (hlineage : Lineage Java.Writes root above model) (hrefers : Refers above model name)
    (hneeds : (TypeRef.named name).needsImport = true) : name ∈ neededNames frame columns := by
  obtain ⟨hholds, -⟩ := Holds.of_lineage hentity hroot hlineage
  cases hrefers with
  | named hname =>
      generalize model.node = node at hholds hname
      cases hholds with
      | columnType hcolumn =>
          have hname := Option.some.inj hname
          rw [← hname, needsImport_named] at hneeds
          exact mem_neededNames_of_column hcolumn
            (mem_importNames_iff.mpr (Or.inl ⟨hneeds, hname.symm⟩))
      | classType =>
          have hname : frame.className = name := Option.some.inj hname
          exact absurd (mem_of_needsImport hneeds) (hname ▸ hclass)
      | classMark huse =>
          obtain rfl := Option.some.inj hname
          exact (Holds.classMark huse).name_mem_neededNames hentity
      | fieldMark hcolumn huse =>
          obtain rfl := Option.some.inj hname
          exact (Holds.fieldMark hcolumn huse).name_mem_neededNames hentity
      | _ => simp [Node.referredName?] at hname
  | strategy _ _ _ _ _ hnode =>
      rw [hnode] at hholds
      cases hholds with
      | strategy hcolumn hauto =>
          exact mem_neededNames_of_column hcolumn
            (mem_importNames_iff.mpr (Or.inr (Or.inr ⟨hauto, Or.inr rfl⟩)))

theorem stands_class (hentity : IsEntity frame columns file head) (hroot : root.node = .file file) :
    Java.Stands root (.declaration (.ofClass head [])) := by
  have hstands : Java.Stands root (.file file) := ⟨[], root, hroot, .root⟩
  apply hstands.child .declarations (by decide) (by decide)
  simp [Node.children, hentity.declarations]

theorem stands_classMark (hentity : IsEntity frame columns file head)
    (hroot : root.node = .file file) {use : Annotation} (huse : use ∈ head.annotations) :
    Java.Stands root (.annotationUse use) :=
  (stands_class hentity hroot).child .annotations (by decide) (by decide)
    (List.mem_map_of_mem huse)

theorem stands_field (hentity : IsEntity frame columns file head) (hroot : root.node = .file file)
    {column : Column} (hcolumn : column ∈ columns) :
    Java.Stands root (.field (frame.field column)) := by
  apply (stands_class hentity hroot).child .fields (by decide) (by decide)
  obtain ⟨fullName, tableText, rfl⟩ := hentity.head
  exact List.mem_map_of_mem (List.mem_map_of_mem hcolumn)

theorem stands_columnType (hentity : IsEntity frame columns file head)
    (hroot : root.node = .file file) {column : Column} (hcolumn : column ∈ columns) :
    Java.Stands root (.typeRef (Java.columnType column.databaseType)) := by
  apply (stands_field hentity hroot hcolumn).child .type (by decide) (by decide)
  simp [Node.children, Frame.field, Field.plain]

theorem stands_fieldMark (hentity : IsEntity frame columns file head)
    (hroot : root.node = .file file) {column : Column} (hcolumn : column ∈ columns)
    {use : Annotation} (huse : use ∈ frame.annotations column) :
    Java.Stands root (.annotationUse use) :=
  (stands_field hentity hroot hcolumn).child .annotations (by decide) (by decide)
    (List.mem_map_of_mem huse)

/-- A type is referred to somewhere in the tree below a root. -/
def IsReferred (root : Model) (name : String) : Prop :=
  ∃ above model, Refers above model name ∧ Lineage Java.Writes root above model

theorem isReferred_of_stands {node : Node} (hstands : Java.Stands root node)
    (hname : node.referredName? = some name) : IsReferred root name := by
  obtain ⟨above, model, rfl, hlineage⟩ := hstands
  exact ⟨above, model, .named hname, hlineage⟩

/-- The type of generation strategies is referred to if a column needs it. -/
theorem isReferred_strategy (hentity : IsEntity frame columns file head)
    (hroot : root.node = .file file) {column : Column} (hcolumn : column ∈ columns)
    (hauto : column.autoIncrement = true) : IsReferred root (persistence "GenerationType") := by
  have huse : (mark "GeneratedValue").withParam "strategy" (.verbatim frame.identityStrategy) ∈
      frame.annotations column :=
    mem_annotations_iff.mpr (Or.inr (Or.inl ⟨hauto, rfl⟩))
  obtain ⟨above, owner, howner, hlineage⟩ := stands_fieldMark hentity hroot hcolumn huse
  have hnode : Node.value (.verbatim frame.identityStrategy) ∈ owner.node.children .params := by
    rw [howner]
    exact List.mem_singleton_self _
  obtain ⟨model, hmem, hmodel, hbelow⟩ := hlineage.exists_child
    (Java.writes_of_ne (by decide) (by decide) above owner) hnode
  refine ⟨_, model, .strategy rfl hmem howner rfl (List.mem_singleton_self _) hmodel
    qualifier?_identityStrategy ?_, hbelow⟩
  split
  · rfl
  · rfl

theorem isReferred_common (hentity : IsEntity frame columns file head)
    (hroot : root.node = .file file) (hcolumns : columns ≠ []) (hname : name ∈ commonImports) :
    IsReferred root name := by
  obtain ⟨type, htype, rfl⟩ := List.mem_map.mp hname
  simp only [List.mem_cons, List.not_mem_nil, or_false] at htype
  have hmarks : ∀ use ∈ head.annotations, IsReferred root use.name := by
    intro use huse
    exact isReferred_of_stands (stands_classMark hentity hroot huse) rfl
  obtain ⟨fullName, tableText, rfl⟩ := hentity.head
  rcases htype with rfl | rfl | rfl
  · exact hmarks _ List.mem_cons_self
  · exact hmarks _ (List.mem_cons_of_mem _ List.mem_cons_self)
  · obtain ⟨column, hcolumn⟩ := List.exists_mem_of_ne_nil columns hcolumns
    refine isReferred_of_stands (stands_fieldMark hentity hroot hcolumn
      (mem_annotations_iff.mpr (Or.inr (Or.inr rfl)))) ?_
    cases column.nullable <;> rfl

/-- Every needed type is referred to, if the class has a field. -/
theorem isReferred_of_mem_neededNames (hentity : IsEntity frame columns file head)
    (hroot : root.node = .file file) (hcolumns : columns ≠ [])
    (hname : name ∈ neededNames frame columns) : IsReferred root name := by
  rcases List.mem_append.mp hname with hcommon | hneeded
  · exact isReferred_common hentity hroot hcolumns hcommon
  · obtain ⟨column, hcolumn, hmem⟩ := List.mem_flatMap.mp hneeded
    rcases mem_importNames_iff.mp hmem with ⟨-, htype⟩ | ⟨hkey, rfl⟩ | ⟨hauto, rfl | rfl⟩
    · rw [htype]
      exact isReferred_of_stands (stands_columnType hentity hroot hcolumn) rfl
    · exact isReferred_of_stands (stands_fieldMark hentity hroot hcolumn
        (mem_annotations_iff.mpr (Or.inl ⟨hkey, rfl⟩))) rfl
    · exact isReferred_of_stands (stands_fieldMark hentity hroot hcolumn
        (mem_annotations_iff.mpr (Or.inr (Or.inl ⟨hauto, rfl⟩)))) rfl
    · exact isReferred_strategy hentity hroot hcolumn hauto

end TableScribe.Entity
