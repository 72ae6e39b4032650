/-
The marks of the key columns.  The files that different keys give one table
differ by the marks on the fields of key columns and by the import of the mark.
At signs tell the marks apart from all else, so that the text of a file says how
many columns go by the name of a key column.
-/
import TableScribe.Proofs.Entity.Generation
import TableScribe.Proofs.Java.Signs

namespace TableScribe

namespace Entity

theorem signs_of_mem_importable {name : String} (hname : name ∈ importable) :
    signs name = 0 ∧ signs (simpleName name) = 0 := by
  have hall : ∀ name ∈ importable, signs name = 0 ∧ signs (simpleName name) = 0 := by
    decide +kernel
  exact hall name hname

theorem signs_printedName {name : String} (hname : name ∈ importable) (above : List Model) :
    signs (Java.printedName above name) = 0 := by
  obtain ⟨hfull, hshort⟩ := signs_of_mem_importable hname
  unfold Java.printedName
  split
  · exact hfull
  · exact hshort

/-- The annotations of a key column are those of any other column after the
mark of the key. -/
theorem Frame.annotations_eq (frame : Frame) (column : Column) :
    frame.annotations column = (if frame.isKey column then [mark "Id"] else []) ++
      { frame with key := [] }.annotations column := by
  have hkeyless : { frame with key := [] }.isKey column = false := rfl
  simp only [annotations, hkeyless, Bool.false_eq_true, if_false, List.nil_append,
    List.append_assoc]
  rfl

end Entity

/-- The mark of a key column is one at sign more among its annotations. -/
theorem Entity.signs_annotations (frame : Frame) (column : Column) (above : List Model) :
    ((frame.annotations column).map fun mark =>
        (Java.markText mark (Java.printedName above mark.name)).signs).sum =
      (({ frame with key := [] }.annotations column).map fun mark =>
        (Java.markText mark (Java.printedName above mark.name)).signs).sum +
          if frame.isKey column then 1 else 0 := by
  have hname : signs (Java.printedName above (mark "Id").name) = 0 :=
    signs_printedName (persistence_mem_importable (by decide)) above
  have hmark : (Java.markText (mark "Id") (Java.printedName above (mark "Id").name)).signs = 1 := by
    change signs ("@" ++ Java.printedName above (mark "Id").name) = 1
    rw [signs_append, hname]
    rfl
  rw [frame.annotations_eq, List.map_append, List.sum_append, Nat.add_comm]
  cases frame.isKey column with
  | true => simpa using hmark
  | false => rfl

/-- Sums over a list that differ by one at some of its items. -/
theorem sum_mapIdx_eq_add_countP {α : Type} {p : α → Bool} {items : List α}
    {f g : Nat → α → Nat} (hitems : ∀ position item, items[position]? = some item →
      f position item = g position item + if p item then 1 else 0) :
    (items.mapIdx f).sum = (items.mapIdx g).sum + items.countP p := by
  induction items generalizing f g with
  | nil => rfl
  | cons item rest ih =>
      have hitem := hitems 0 item rfl
      have hrest := @ih (fun position => f (position + 1)) (fun position => g (position + 1))
        fun position other hother => hitems (position + 1) other hother
      rw [List.mapIdx_cons, List.mapIdx_cons, List.sum_cons, List.sum_cons, List.countP_cons, hitem,
        hrest]
      omega

namespace TableSite

variable (settings : EntitySettings) (site : TableSite) (base : String)
  (naming : NamingConvention) (key : List Column) (position : Nat) (column : Column)

/-- The root of the tree of an entity. -/
def fileModel : Model := .root 0 (.file (site.entity settings base naming key))

/-- The class in the tree of an entity. -/
def classModel : Model :=
  (site.fileModel settings base naming key).child .declarations 0
    (.declaration (.ofClass (site.head settings naming key) []))

/-- The field of a column in the tree of an entity. -/
def fieldModel : Model :=
  (site.classModel settings base naming key).child .fields position
    (.field ((site.frame settings key).field column))

/-- What is around the fields in the tree of an entity. -/
def aroundFields : List Model :=
  [site.classModel settings base naming key, site.fileModel settings base naming key]

theorem children_fileModel :
    (site.fileModel settings base naming key).children .declarations =
      [site.classModel settings base naming key] := rfl

theorem children_classModel :
    (site.classModel settings base naming key).children .fields =
      site.columns.mapIdx (site.fieldModel settings base naming key) := by
  have hfields : (site.classModel settings base naming key).node.children .fields =
      (site.columns.map (site.frame settings key).field).map .field := rfl
  rw [Model.children, hfields, List.map_map]
  apply List.ext_getElem <;> simp [fieldModel]

theorem exists_text_classModel :
    ∃ text, Registry.java.text [site.fileModel settings base naming key]
      (site.classModel settings base naming key) = .ok text := by
  obtain ⟨-, hchildren⟩ :=
    (Java.exists_text_iff _ _).mp (exists_text_entity settings site base naming key)
  exact hchildren .declarations trivial _ List.mem_cons_self

theorem exists_text_fieldModel {position : Nat} {column : Column}
    (hcolumn : site.columns[position]? = some column) :
    ∃ text, Registry.java.text (site.aroundFields settings base naming key)
      (site.fieldModel settings base naming key position column) = .ok text := by
  obtain ⟨-, hchildren⟩ :=
    (Java.exists_text_iff _ _).mp (site.exists_text_classModel settings base naming key)
  refine hchildren .fields trivial _ ?_
  rw [children_classModel]
  exact List.mem_of_getElem? (i := position) (by simp [hcolumn])

theorem alike_fileModel (other : List Column) :
    Java.Alike (site.fileModel settings base naming key)
      (site.fileModel settings base naming other) where
  bare := by simp only [fileModel, Model.root, Node.bare, entity]
  -- Not by `rfl`, which compares the two entities before it looks at their places.
  place := by simp only [fileModel, Model.root]
  declaresAtTop name := by
    simp only [fileModel, Model.root, Java.declaresAtTop, entity, List.any_cons, List.any_nil,
      Declaration.name, head, Entity.classHead, ClassHead.named, frame]

theorem alike_classModel (other : List Column) :
    Java.Alike (site.classModel settings base naming key)
      (site.classModel settings base naming other) where
  bare := by
    simp only [classModel, Model.child, Node.bare, head, Entity.classHead, ClassHead.named, frame]
  place := by simp only [classModel, Model.child, fileModel, Model.root]
  declaresAtTop _ := by simp only [classModel, Model.child, Java.declaresAtTop]

theorem alike_fieldModel (other : List Column) :
    Java.Alike (site.fieldModel settings base naming key position column)
      (site.fieldModel settings base naming other position column) where
  bare := by simp only [fieldModel, Model.child, Node.bare, Entity.Frame.field, Field.plain]
  place := by simp only [fieldModel, classModel, Model.child, fileModel, Model.root]
  declaresAtTop _ := by simp only [fieldModel, Model.child, Java.declaresAtTop]

theorem alike_aroundFields (other : List Column) :
    List.Forall₂ Java.Alike (site.aroundFields settings base naming key)
      (site.aroundFields settings base naming other) :=
  .cons (site.alike_classModel settings base naming key other)
    (.cons (site.alike_fileModel settings base naming key other) .nil)

/-- Only the annotations of a field depend on the key. -/
theorem children_node_fieldModel {part : Part} (hpart : part ≠ .annotations) (other : List Column) :
    (site.fieldModel settings base naming key position column).node.children part =
      (site.fieldModel settings base naming other position column).node.children part := by
  cases part with
  | annotations => exact absurd rfl hpart
  | _ => simp only [fieldModel, Model.child, Entity.Frame.field, Node.children]

theorem signsIn_annotations_fieldModel {column : Column} (hcolumn : column ∈ site.columns) :
    (site.fieldModel settings base naming key position column).signsIn
        (Registry.java.reply (site.fieldModel settings base naming key position column ::
          site.aroundFields settings base naming key)) .annotations =
      (((site.frame settings key).annotations column).map fun mark =>
        (Java.markText mark (Java.printedName
          (site.fieldModel settings base naming key position column ::
            site.aroundFields settings base naming key) mark.name)).signs).sum :=
  Java.signsIn_annotations rfl fun _ hmark =>
    (Entity.Holds.fieldMark hcolumn hmark).printedName_ne_empty
      (isEntity_entity settings site base naming key) _

/-- The mark of the key is all that a field takes from the key. -/
theorem signs_fieldModel {position : Nat} {column : Column}
    (hcolumn : site.columns[position]? = some column) :
    (Registry.java.text (site.aroundFields settings base naming key)
        (site.fieldModel settings base naming key position column)).signs =
      (Registry.java.text (site.aroundFields settings base naming [])
          (site.fieldModel settings base naming [] position column)).signs +
        if (site.frame settings key).isKey column then 1 else 0 := by
  obtain ⟨text, htext⟩ := site.exists_text_fieldModel settings base naming key hcolumn
  obtain ⟨bare, hbare⟩ := site.exists_text_fieldModel settings base naming [] hcolumn
  have hmem := List.mem_of_getElem? hcolumn
  have hstack := List.Forall₂.cons
    (site.alike_fieldModel settings base naming key position column [])
    (site.alike_aroundFields settings base naming key [])
  have hsame (part : Part) (hpart : part ≠ .annotations) := Java.signsIn_congr hstack
    (site.children_node_fieldModel settings base naming key position column hpart [])
  have hkeyless : { site.frame settings key with key := [] } = site.frame settings [] := rfl
  have hmarks := site.signsIn_annotations_fieldModel settings base naming key position hmem
  rw [Java.Alike.printedName_eq hstack, Entity.signs_annotations, hkeyless,
    ← site.signsIn_annotations_fieldModel settings base naming [] position hmem] at hmarks
  rw [htext, hbare]
  change signs text = signs bare + _
  rw [Java.signs_field rfl rfl htext, Java.signs_field rfl rfl hbare]
  simp only [Java.signsBelow_cons, Java.signsBelow_nil, hmarks, hsame .javadoc nofun,
    hsame .type nofun, hsame .value nofun, Entity.Frame.field]
  omega

theorem signsIn_fields :
    (site.classModel settings base naming key).signsIn
        (Registry.java.reply (site.aroundFields settings base naming key)) .fields =
      (site.classModel settings base naming []).signsIn
          (Registry.java.reply (site.aroundFields settings base naming [])) .fields +
        site.columns.countP (site.frame settings key).isKey := by
  have hfields (key : List Column) :
      (site.classModel settings base naming key).signsIn
          (Registry.java.reply (site.aroundFields settings base naming key)) .fields =
        (site.columns.mapIdx fun position column =>
          (Registry.java.text (site.aroundFields settings base naming key)
            (site.fieldModel settings base naming key position column)).signs).sum := by
    rw [Model.signsIn, Model.replies, children_classModel]
    congr 1
    apply List.ext_getElem <;> simp [Registry.reply]
  rw [hfields, hfields]
  exact sum_mapIdx_eq_add_countP fun position column hcolumn =>
    site.signs_fieldModel settings base naming key hcolumn

/-- Only the fields of a class depend on the key. -/
theorem children_node_classModel {part : Part} (hpart : part ≠ .fields) (other : List Column) :
    (site.classModel settings base naming key).node.children part =
      (site.classModel settings base naming other).node.children part := by
  cases part with
  | fields => exact absurd rfl hpart
  | methods =>
      have hpair : (site.frame settings key).accessorPair =
          (site.frame settings other).accessorPair := rfl
      have hasked : (site.frame settings key).accessors =
          (site.frame settings other).accessors := rfl
      simp only [classModel, Model.child, head, Entity.classHead, Node.children,
        ClassHead.children, hpair, hasked]
  | _ =>
      simp only [classModel, Model.child, head, Entity.classHead, Node.children,
        ClassHead.children, ClassHead.named, frame]

theorem signs_classModel :
    (Registry.java.text [site.fileModel settings base naming key]
        (site.classModel settings base naming key)).signs =
      (Registry.java.text [site.fileModel settings base naming []]
          (site.classModel settings base naming [])).signs +
        site.columns.countP (site.frame settings key).isKey := by
  obtain ⟨text, htext⟩ := site.exists_text_classModel settings base naming key
  obtain ⟨bare, hbare⟩ := site.exists_text_classModel settings base naming []
  have hsame (part : Part) (hpart : part ≠ .fields) :=
    Java.signsIn_congr (site.alike_aroundFields settings base naming key [])
      (site.children_node_classModel settings base naming key hpart [])
  have hfields := site.signsIn_fields settings base naming key
  unfold aroundFields at hfields
  rw [htext, hbare]
  change signs text = signs bare + _
  rw [Java.signs_class rfl htext, Java.signs_class rfl hbare]
  simp only [Java.signsBelow_cons, Java.signsBelow_nil, hfields, hsame .javadoc nofun,
    hsame .annotations nofun, hsame .parents nofun, hsame .interfaces nofun,
    hsame .constructors nofun, hsame .methods nofun, hsame .nested nofun, head,
    Entity.classHead, ClassHead.named, frame]
  omega

/-- Nothing in the import lines of an entity is taken for a mark. -/
theorem signsIn_imports :
    (site.fileModel settings base naming key).signsIn
      (Registry.java.reply [site.fileModel settings base naming key]) .imports = 0 := by
  refine List.sum_eq_zero_iff_forall_eq_nat.mpr fun count hcount => ?_
  simp only [Model.replies, List.mem_map] at hcount
  obtain ⟨reply, ⟨child, hchild, rfl⟩, rfl⟩ := hcount
  obtain ⟨line, hline, hnode⟩ := List.mem_map.mp (Model.node_mem_of_mem_children hchild)
  have hneeded := (Entity.mem_map_path_importLines.mp (List.mem_map_of_mem hline)).1
  cases hreply : Registry.java.reply [site.fileModel settings base naming key] (.render child) with
  | error error => rfl
  | ok text =>
      have hsigns := Java.signs_importLine hnode.symm hreply
      exact hsigns.trans (Entity.signs_of_mem_importable (Entity.mem_importable hneeded)).1

/-- In the text of an entity there is one at sign more for each column that goes
by the name of a key column. -/
theorem signs_text_entity {text bare : String}
    (htext : Registry.java.text [] (site.fileModel settings base naming key) = .ok text)
    (hbare : Registry.java.text [] (site.fileModel settings base naming []) = .ok bare) :
    signs text = signs bare + site.columns.countP (site.frame settings key).isKey := by
  have hcomment : (site.fileModel settings base naming key).node.children .javadoc =
      (site.fileModel settings base naming []).node.children .javadoc := by
    simp only [fileModel, Model.root, entity, Node.children]
  have hjavadoc := Java.signsIn_congr
    (List.Forall₂.cons (site.alike_fileModel settings base naming key []) .nil) hcomment
  have hclass (key : List Column) :
      (site.fileModel settings base naming key).signsIn
          (Registry.java.reply [site.fileModel settings base naming key]) .declarations =
        (Registry.java.text [site.fileModel settings base naming key]
          (site.classModel settings base naming key)).signs := by
    rw [Model.signsIn, Model.replies, children_fileModel]
    exact Nat.add_zero _
  rw [Java.signs_file rfl htext, Java.signs_file rfl hbare]
  simp only [Java.signsBelow_cons, Java.signsBelow_nil, hjavadoc, signsIn_imports, hclass,
    site.signs_classModel settings base naming key, entity]
  omega

section

variable {settings : EntitySettings} {site : TableSite} {base : String}
  {naming : NamingConvention} {key other : List Column}

/-- An entity depends on the key by the columns that go by the name of a key
column. -/
theorem entity_congr (hkeys : ∀ column ∈ site.columns,
      (site.frame settings key).isKey column = (site.frame settings other).isKey column) :
    site.entity settings base naming key = site.entity settings base naming other := by
  have hfields : site.columns.map (site.frame settings key).field =
      site.columns.map (site.frame settings other).field := by
    refine List.map_congr_left fun column hcolumn => ?_
    simp only [Entity.Frame.field, Entity.Frame.annotations, hkeys column hcolumn]
    rfl
  have himports : site.columns.flatMap (site.frame settings key).importNames =
      site.columns.flatMap (site.frame settings other).importNames := by
    refine List.flatMap_congr fun column hcolumn => ?_
    simp only [Entity.Frame.importNames, hkeys column hcolumn]
  simp only [entity, head, Entity.classHead, Entity.importLines, hfields, himports]
  rfl

/-- A key that names fewer columns gives a table another file, unless it names
all columns of the class that the larger one names. -/
theorem print_entity_eq_iff (hother : ∀ column,
      (site.frame settings other).isKey column = true →
        (site.frame settings key).isKey column = true) :
    Entity.print (site.entity settings base naming other) =
        Entity.print (site.entity settings base naming key) ↔
      ∀ column ∈ site.columns, (site.frame settings key).isKey column = true →
        (site.frame settings other).isKey column = true := by
  constructor
  · intro hprint column hcolumn hkey
    obtain ⟨text, htext⟩ := exists_text_entity settings site base naming key
    obtain ⟨bare, hbare⟩ := exists_text_entity settings site base naming []
    have htext' : Registry.java.text [] (site.fileModel settings base naming other) = .ok text := by
      have hgenerated : Entity.print (site.entity settings base naming other) =
          .ok ⟨(site.entity settings base naming key).path "java", text⟩ := by
        rw [hprint, Entity.print, htext]
        rfl
      exact Entity.text_of_print_eq_ok hgenerated
    have hcount : site.columns.countP (site.frame settings other).isKey =
        site.columns.countP (site.frame settings key).isKey := by
      have hsigns := site.signs_text_entity settings base naming key htext hbare
      have hsigns' := site.signs_text_entity settings base naming other htext' hbare
      omega
    -- The smaller key marks some of the columns that the larger one does, and as many.
    have hmarked := (List.monotone_filter_right site.columns hother).eq_of_length
      (by simpa only [List.countP_eq_length_filter] using hcount)
    have hmem := List.mem_filter.mpr ⟨hcolumn, hkey⟩
    rw [← hmarked] at hmem
    exact (List.mem_filter.mp hmem).2
  · intro hkeys
    rw [entity_congr fun column hcolumn => ?_]
    exact Bool.eq_iff_iff.mpr ⟨hother column, hkeys column hcolumn⟩

end

end TableSite

end TableScribe
