/-
What stands in the file of an entity.  The nodes below it are of a few forms,
and all names written there belong to the class, to column types or to the
persistence package.
-/
import TableScribe.Proofs.Entity.NameSet
import TableScribe.Proofs.Java.ColumnType
import TableScribe.Proofs.Java.Identifier
import TableScribe.Proofs.Java.QualifiedNames

namespace TableScribe.Entity

/-- A file is the one of an entity with these columns, and a class is the one
in it. -/
structure IsEntity (frame : Frame) (columns : List Column) (file : File) (head : ClassHead) :
    Prop where
  name : file.name = frame.className
  imports : file.imports = importLines frame columns
  declarations : file.declarations = [.ofClass head []]
  head : ∃ fullName tableText, head = classHead frame columns fullName tableText

theorem exists_key_of_file_eq_ok {accessors : Bool} {path : DocumentPath} {base : String}
    {naming : NamingConvention} {file : File} {table : Table}
    (hfile : Entity.file accessors path base naming = .ok file)
    (htable : path.document = .table table) :
    ∃ key head, table.primaryKey = .ok key ∧ IsEntity ⟨className table, key, accessors⟩
      (table.columns.filter Column.enabled) file head := by
  unfold Entity.file at hfile
  rw [htable] at hfile
  cases hschema : path.ancestor? .schema with
  | none => simp [hschema] at hfile
  | some schema =>
      simp only [hschema, Except.bind_eq_ok_iff] at hfile
      obtain ⟨fullName, -, key, hkey, hok⟩ := hfile
      obtain rfl := Except.ok.inj hok
      exact ⟨key, _, hkey, rfl, rfl, rfl, fullName, _, rfl⟩

/-- The file of a table is an entity of its enabled columns. -/
theorem isEntity_of_file_eq_ok {accessors : Bool} {path : DocumentPath} {base : String}
    {naming : NamingConvention} {file : File} {table : Table}
    (hfile : Entity.file accessors path base naming = .ok file)
    (htable : path.document = .table table) :
    ∃ key head, IsEntity ⟨className table, key, accessors⟩ (table.columns.filter Column.enabled)
      file head := by
  obtain ⟨key, head, -, hentity⟩ := exists_key_of_file_eq_ok hfile htable
  exact ⟨key, head, hentity⟩

section

variable (frame : Frame) (columns : List Column) (file : File) (head : ClassHead)

/-- The nodes in the file of an entity. -/
inductive Holds : Node → Prop
  | file : Holds (.file file)
  | importLine {line : Import} (hline : line ∈ file.imports) : Holds (.importLine line)
  | javadoc (javadoc : Javadoc) : Holds (.javadoc javadoc)
  | classDecl : Holds (.declaration (.ofClass head []))
  | field {column : Column} (hcolumn : column ∈ columns) : Holds (.field (frame.field column))
  | method {column : Column} {method : Method} (hcolumn : column ∈ columns)
      (hmethod : method ∈ frame.accessorPair column) : Holds (.method method)
  | parameter {column : Column} (hcolumn : column ∈ columns) :
      Holds (.field (.plain (Frame.fieldName column) (Java.columnType column.databaseType)))
  | classMark {mark : Annotation} (hmark : mark ∈ head.annotations) : Holds (.annotationUse mark)
  | fieldMark {column : Column} {mark : Annotation} (hcolumn : column ∈ columns)
      (hmark : mark ∈ frame.annotations column) : Holds (.annotationUse mark)
  | text (content : String) : Holds (.value (.text content))
  | bool (flag : Bool) : Holds (.value (.bool flag))
  | strategy {column : Column} (hcolumn : column ∈ columns) (hauto : column.autoIncrement = true) :
      Holds (.value (.verbatim frame.identityStrategy))
  | columnType {column : Column} (hcolumn : column ∈ columns) :
      Holds (.typeRef (Java.columnType column.databaseType))
  | classType : Holds (.typeRef (.named frame.className))

end

variable {frame : Frame} {columns : List Column} {file : File} {head : ClassHead}

/-- What annotates a field: the mark of a key, the strategy of its values and
the name of its column. -/
theorem mem_annotations_iff {column : Column} {use : Annotation} :
    use ∈ frame.annotations column ↔
      (frame.isKey column = true ∧ use = mark "Id") ∨
      (column.autoIncrement = true ∧ use = (mark "GeneratedValue").withParam "strategy"
        (.verbatim frame.identityStrategy)) ∨
      use = if column.nullable then (mark "Column").withParam "name" (.text column.name)
        else ((mark "Column").withParam "name" (.text column.name)).withParam "nullable"
          (.bool false) := by
  simp only [Frame.annotations]
  cases frame.isKey column <;> cases column.autoIncrement <;> simp

theorem Holds.of_mem_param {column : Column} {use : Annotation} (hcolumn : column ∈ columns)
    (huse : use ∈ frame.annotations column) {param : String × Value} (hparam : param ∈ use.params) :
    Holds frame columns file head (.value param.2) := by
  rcases mem_annotations_iff.mp huse with ⟨-, rfl⟩ | ⟨hauto, rfl⟩ | rfl
  · simp [mark, Annotation.named] at hparam
  · simp only [mark, Annotation.named, Annotation.withParam, List.nil_append,
      List.mem_singleton] at hparam
    subst hparam
    exact .strategy hcolumn hauto
  · cases hnullable : column.nullable <;>
      simp [hnullable, mark, Annotation.named, Annotation.withParam] at hparam
    · rcases hparam with rfl | rfl
      · exact .text _
      · exact .bool _
    · subst hparam
      exact .text _

theorem value_of_mem_annotations {column : Column} {use : Annotation}
    (huse : use ∈ frame.annotations column) : use.value = none := by
  rcases mem_annotations_iff.mp huse with ⟨-, rfl⟩ | ⟨-, rfl⟩ | rfl
  · rfl
  · rfl
  · cases column.nullable <;> rfl

theorem Holds.of_mem_class (hentity : IsEntity frame columns file head) {child : Node} {part : Part}
    (hchild : child ∈ head.children [] part) : Holds frame columns file head child := by
  obtain ⟨fullName, tableText, rfl⟩ := hentity.head
  cases part <;> simp [ClassHead.children, classHead, ClassHead.named] at hchild
  case javadoc =>
    subst hchild
    exact .javadoc _
  case annotations =>
    rcases hchild with rfl | rfl
    · exact .classMark (by simp [classHead])
    · exact .classMark (by simp [classHead])
  case fields =>
    obtain ⟨column, hcolumn, rfl⟩ := hchild
    exact .field hcolumn
  case methods =>
    obtain ⟨method, ⟨-, column, hcolumn, hmethod⟩, rfl⟩ := hchild
    exact .method hcolumn hmethod

theorem Holds.of_mem_method {column : Column} (hcolumn : column ∈ columns) {method : Method}
    (hmethod : method ∈ frame.accessorPair column) {child : Node} {part : Part}
    (hchild : child ∈ (Node.method method).children part) :
    Holds frame columns file head child := by
  simp only [Frame.accessorPair, List.mem_cons, List.not_mem_nil, or_false] at hmethod
  rcases hmethod with rfl | rfl
  · cases part <;>
      simp [Node.children, Method.plain, Method.withModifier, Method.withLine] at hchild
    case returns =>
      subst hchild
      exact .columnType hcolumn
  · cases part <;> simp [Node.children, Method.plain, Method.withModifier, Method.withLine,
      Method.withParam] at hchild
    case returns =>
      subst hchild
      exact .classType
    case params =>
      subst hchild
      exact .parameter hcolumn

/-- What is below a node of the file is a node of the file again. -/
theorem Holds.of_mem_children (hentity : IsEntity frame columns file head) {node child : Node}
    {part : Part} (hnode : Holds frame columns file head node)
    (hchild : child ∈ node.children part) : Holds frame columns file head child := by
  cases hnode with
  | file =>
      cases part <;> simp [Node.children, hentity.declarations] at hchild
      case javadoc =>
        obtain ⟨javadoc, -, rfl⟩ := hchild
        exact .javadoc javadoc
      case imports =>
        obtain ⟨line, hline, rfl⟩ := hchild
        exact .importLine hline
      case declarations =>
        subst hchild
        exact .classDecl
  | classDecl => exact .of_mem_class hentity hchild
  | field hcolumn =>
      cases part <;> simp [Node.children, Frame.field, Field.plain] at hchild
      case annotations =>
        obtain ⟨use, huse, rfl⟩ := hchild
        exact .fieldMark hcolumn huse
      case type =>
        subst hchild
        exact .columnType hcolumn
  | method hcolumn hmethod => exact .of_mem_method hcolumn hmethod hchild
  | parameter hcolumn =>
      cases part <;> simp [Node.children, Field.plain] at hchild
      subst hchild
      exact .columnType hcolumn
  | classMark huse =>
      obtain ⟨fullName, tableText, rfl⟩ := hentity.head
      simp only [classHead, List.mem_cons, List.not_mem_nil, or_false] at huse
      rcases huse with rfl | rfl <;> cases part <;>
        simp [Node.children, mark, Annotation.named, Annotation.withParam] at hchild
      subst hchild
      exact .text tableText
  | fieldMark hcolumn huse =>
      cases part <;> simp [Node.children, value_of_mem_annotations huse] at hchild
      obtain ⟨key, value, hparam, rfl⟩ := hchild
      exact .of_mem_param hcolumn huse hparam
  | columnType hcolumn =>
      cases part <;> simp [Node.children, Java.generics_columnType] at hchild
  | classType => cases part <;> simp [Node.children, TypeRef.named] at hchild
  | _ => simp [Node.children] at hchild

section

variable {root model : Model} {above : List Model}

/-- The tree of the file consists of its nodes. -/
theorem Holds.of_lineage {writes : List Model → Model → Part → Prop}
    (hentity : IsEntity frame columns file head) (hroot : root.node = .file file)
    (hlineage : Lineage writes root above model) :
    Holds frame columns file head model.node ∧
      ∀ outer ∈ above, Holds frame columns file head outer.node := by
  induction hlineage with
  | root => exact ⟨hroot ▸ .file, fun outer houter => absurd houter List.not_mem_nil⟩
  | child howner hpart hmodel ih =>
      obtain ⟨hnode, habove⟩ := ih
      exact ⟨hnode.of_mem_children hentity (Model.node_mem_of_mem_children hmodel),
        List.forall_mem_cons.mpr ⟨hnode, habove⟩⟩

/-- Whatever stands in the file is a comment or an import of it, or it stands in
the class, or it is the class or the file. -/
theorem in_class_or_at_top {writes : List Model → Model → Part → Prop}
    (hentity : IsEntity frame columns file head) (hroot : root.node = .file file)
    (hlineage : Lineage writes root above model) :
    (∃ owner ∈ above, owner.node = .declaration (.ofClass head [])) ∨
      model.node = .declaration (.ofClass head []) ∨ model.node = .file file ∨
      (∃ line, model.node = .importLine line) ∨ ∃ javadoc, model.node = .javadoc javadoc := by
  induction hlineage with
  | root => exact Or.inr (Or.inr (Or.inl hroot))
  | @child above owner model part howner hpart hmodel ih =>
      have hnode := Model.node_mem_of_mem_children hmodel
      rcases ih with ⟨outer, houter, hclass⟩ | hclass | hfile | ⟨line, hline⟩ | ⟨javadoc, hjavadoc⟩
      · exact Or.inl ⟨outer, List.mem_cons_of_mem owner houter, hclass⟩
      · exact Or.inl ⟨owner, List.mem_cons_self, hclass⟩
      · rw [hfile] at hnode
        cases part <;> simp [Node.children, hentity.declarations] at hnode
        case javadoc =>
          obtain ⟨javadoc, -, hjavadoc⟩ := hnode
          simp [← hjavadoc]
        case imports =>
          obtain ⟨line, -, hline⟩ := hnode
          simp [← hline]
        case declarations => exact Or.inr (Or.inl hnode)
      · simp [hline, Node.children] at hnode
      · simp [hjavadoc, Node.children] at hnode

theorem IsEntity.name_head (hentity : IsEntity frame columns file head) :
    head.name = frame.className := by
  obtain ⟨fullName, tableText, rfl⟩ := hentity.head
  rfl

theorem declaresAtTop_iff (hentity : IsEntity frame columns file head) {simple : String} :
    Java.declaresAtTop simple (.file file) = true ↔ simple = frame.className := by
  simp only [Java.declaresAtTop, hentity.declarations, Declaration.name, hentity.name_head,
    List.any_cons, List.any_nil, Bool.or_false, beq_iff_eq]
  exact eq_comm

/-- Below the file the name of the class is taken, and no other name. -/
theorem takes_iff_eq_className (hentity : IsEntity frame columns file head)
    (hroot : root.node = .file file) (hlineage : Lineage Java.Writes root above model)
    (hne : model ≠ root) {simple : String} :
    Java.takes above simple = true ↔ simple = frame.className := by
  obtain ⟨-, habove⟩ := Holds.of_lineage hentity hroot hlineage
  rw [Java.takes_iff]
  constructor
  · rintro (⟨outer, houter, hdeclares⟩ | ⟨kind, hkind, owner, howner, hname⟩)
    · have hnode := habove outer (List.mem_of_find?_eq_some houter)
      cases hout : outer.node with
      | file other =>
          rw [hout] at hnode hdeclares
          cases hnode
          exact (declaresAtTop_iff hentity).mp hdeclares
      | _ => simp [hout, Java.declaresAtTop] at hdeclares
    · have hnode := habove owner (List.mem_of_find?_eq_some howner)
      obtain rfl : owner.kind = kind := by simpa using List.find?_some howner
      simp only [Model.kind, Model.name?] at hkind hname
      generalize owner.node = node at hnode hkind hname
      cases hnode with
      | classDecl => exact (Option.some.inj hname).symm.trans hentity.name_head
      | _ => simp [Node.kind, Kind.declarations] at hkind
  · rintro rfl
    have hmem := hlineage.root_mem hne
    have hkind : root.kind = .file := congrArg Node.kind hroot
    exact Or.inl ⟨root, hlineage.find?_file hmem hkind, hroot ▸ (declaresAtTop_iff hentity).mpr rfl⟩

end

end TableScribe.Entity
