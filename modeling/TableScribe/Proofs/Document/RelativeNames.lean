/-
How the names of a path fit together.  A name relative to a level grows by one
part with each document further down, and the full names of tables and columns
are the names relative to their parents' levels: the one looks at the last
ancestor, the other searches from the first.
-/
import Mathlib.Data.List.Basic
import Mathlib.Data.List.TakeWhile
import TableScribe.Document.Naming
import TableScribe.Proofs.Document.Traversal

namespace TableScribe

/-- The levels above a level, from the top. -/
def Level.above : Level → List Level
  | .project => []
  | .dbms => [.project]
  | .schema => [.project, .dbms]
  | .table => [.project, .dbms, .schema]
  | .column => [.project, .dbms, .schema, .table]
  | .keyColumn => [.project, .dbms, .schema, .table]

theorem Level.nodup_above (level : Level) : level.above.Nodup := by
  cases level <;> decide

theorem Document.above_level_of_mem_children {document child : Document}
    (hchild : child ∈ document.children) :
    child.level.above = document.level.above ++ [document.level] := by
  cases document with
  | project node | dbms node | schema node =>
      obtain ⟨inner, -, rfl⟩ := List.mem_map.mp hchild
      rfl
  | table node =>
      rcases List.mem_append.mp hchild with hcolumn | hkey
      · obtain ⟨column, -, rfl⟩ := List.mem_map.mp hcolumn
        rfl
      · obtain ⟨key, -, rfl⟩ := List.mem_map.mp hkey
        rfl
  | column node | keyColumn node => simp [children] at hchild

namespace DocumentPath

variable {level : Level} {style : NameStyle} {separator : String} {mapper : String → String}

/-- Whether a path starts at a level or comes through it. -/
def Passes (path : DocumentPath) (level : Level) : Prop :=
  ∃ document ∈ path.ancestors ++ [path.document], document.level = level

instance (path : DocumentPath) (level : Level) : Decidable (path.Passes level) :=
  inferInstanceAs (Decidable (∃ document ∈ path.ancestors ++ [path.document],
    document.level = level))

/-- Without an ancestor of the level, the name is that of the document. -/
theorem relativeName_of_forall_ne {path : DocumentPath}
    (hnone : ∀ above ∈ path.ancestors, above.level ≠ level) :
    path.relativeName level style separator mapper = mapper (style.of path.document) := by
  have hdrop : path.ancestors.dropWhile (fun above => above.level != level) = [] :=
    List.dropWhile_eq_nil_iff.mpr fun above habove => bne_iff_ne.mpr (hnone above habove)
  simp [relativeName, hdrop]

/-- Below a document of the level, a name is that of the parent and one more
part. -/
theorem relativeName_child_of_passes {path : DocumentPath} (hpasses : path.Passes level)
    (child : Document) :
    (path.child child).relativeName level style separator mapper =
      path.relativeName level style separator mapper ++ separator ++
        mapper (style.of child) := by
  have hnames : ∀ names : List Document, names ≠ [] →
      separator.intercalate ((names ++ [child]).map fun d => mapper (style.of d)) =
        separator.intercalate (names.map fun d => mapper (style.of d)) ++ separator ++
          mapper (style.of child) := by
    intro names hne
    rw [List.map_append, String.intercalate_append_of_ne_nil (by simpa using hne) (by simp)]
    simp
  -- The search passes over every ancestor only if it then stops at the document.
  have hdrop : (path.ancestors ++ [path.document]).dropWhile (fun above => above.level != level) =
      path.ancestors.dropWhile (fun above => above.level != level) ++ [path.document] := by
    rw [List.dropWhile_append]
    split
    case isFalse => rfl
    case isTrue hempty =>
      have hnone := List.dropWhile_eq_nil_iff.mp (List.isEmpty_iff.mp hempty)
      obtain ⟨document, hdocument, hlevel⟩ := hpasses
      rcases List.mem_append.mp hdocument with habove | hown
      · exact absurd hlevel (bne_iff_ne.mp (hnone document habove))
      · obtain rfl := List.mem_singleton.mp hown
        rw [List.isEmpty_iff.mp hempty]
        simp [hlevel]
  rw [relativeName, DocumentPath.child, hdrop, hnames _ (by simp)]
  rfl

theorem relativeName_child (path : DocumentPath) (child : Document) :
    (path.child child).relativeName level style separator mapper =
      if path.Passes level then
        path.relativeName level style separator mapper ++ separator ++ mapper (style.of child)
      else mapper (style.of child) := by
  split
  case isTrue hpasses => exact relativeName_child_of_passes hpasses child
  case isFalse hnone =>
    exact relativeName_of_forall_ne fun above habove hlevel => hnone ⟨above, habove, hlevel⟩

theorem eq_child_of_parent?_eq_some {path : DocumentPath} {parent : Document}
    (hparent : path.parent? = some parent) :
    path = (DocumentPath.mk path.ancestors.dropLast parent).child path.document := by
  rw [DocumentPath.child, List.dropLast_append_getLast? parent hparent]

/-- Along the walk the ancestors of a document are of the levels above it. -/
theorem map_level_ancestors {project : Project} :
    ∀ path ∈ traverse project, path.ancestors.map Document.level = path.document.level.above := by
  rw [traverse_eq_walk]
  refine forall_mem_walk (fun path hpath child hchild => ?_) rfl
  calc (path.ancestors ++ [path.document]).map Document.level
    _ = path.document.level.above ++ [path.document.level] := by rw [List.map_append, hpath]; rfl
    _ = child.level.above := (Document.above_level_of_mem_children hchild).symm

/-- The parent found last and the ancestor found first are the same. -/
theorem qualifiedName_of_mem_traverse {project : Project} {path : DocumentPath}
    (hpath : path ∈ traverse project) (parent : Level) :
    path.qualifiedName parent =
      if path.document.level.above.getLast? = some parent then
        .ok (path.relativeName parent .database "." id)
      else .error (.noParent path.document.describe) := by
  have hlevels := map_level_ancestors path hpath
  have hlast : path.document.level.above.getLast? = path.parent?.map Document.level := by
    rw [← hlevels, List.getLast?_map, DocumentPath.parent?]
  rw [qualifiedName, hlast]
  cases hparent : path.parent? with
  | none => rfl
  | some above =>
      by_cases hlevel : above.level = parent
      · have hsplit := eq_child_of_parent?_eq_some hparent
        have hnone : ∀ further ∈ path.ancestors.dropLast, further.level ≠ parent := by
          intro further hfurther heq
          have hnodup := hlevels ▸ path.document.level.nodup_above
          rw [hsplit, DocumentPath.child, List.map_append, List.nodup_append] at hnodup
          exact hnodup.2.2 _ (List.mem_map_of_mem hfurther) _ (by simp) (heq.trans hlevel.symm)
        have hpasses : (DocumentPath.mk path.ancestors.dropLast above).Passes parent :=
          ⟨above, by simp, hlevel⟩
        have hname : path.relativeName parent .database "." id =
            above.name ++ "." ++ path.document.name := by
          rw [hsplit, relativeName_child_of_passes hpasses, relativeName_of_forall_ne hnone]
          rfl
        simp [hlevel, hname]
      · simp [hlevel]

end DocumentPath

/-- Names relative to a level agree along a path, and the full names of tables
and columns agree with them. -/
theorem names_agree {project : Project} {path : DocumentPath} (hpath : path ∈ traverse project) :
    (∀ level style separator mapper, ∀ child ∈ path.document.children,
      (path.child child).relativeName level style separator mapper =
        if path.Passes level then
          path.relativeName level style separator mapper ++ separator ++ mapper (style.of child)
        else mapper (style.of child)) ∧
    path.fullTableName =
      (if path.document.level = .table then .ok (path.relativeName .schema .database "." id)
      else .error (.noParent path.document.describe)) ∧
    path.fullColumnName =
      (if path.document.level = .column ∨ path.document.level = .keyColumn then
        .ok (path.relativeName .table .database "." id)
      else .error (.noParent path.document.describe)) := by
  refine ⟨fun level style separator mapper child _ => path.relativeName_child child, ?_, ?_⟩
  · rw [DocumentPath.fullTableName, DocumentPath.qualifiedName_of_mem_traverse hpath]
    cases path.document.level <;> rfl
  · rw [DocumentPath.fullColumnName, DocumentPath.qualifiedName_of_mem_traverse hpath]
    cases path.document.level <;> rfl

namespace Shop

def table : Table :=
  ⟨"items", none, true, [⟨"id", none, true, "INT", false, true⟩], [⟨"id", none, true⟩]⟩

def schema : Schema := ⟨"shop", none, true, [table]⟩

def dbms : Dbms := ⟨"main", none, true, "mysql", [schema]⟩

/-- A project with one table. -/
def project : Project := ⟨"p", none, true, none, [dbms]⟩

def tablePath : DocumentPath := ⟨[.project project, .dbms dbms, .schema schema], .table table⟩

theorem tablePath_mem_traverse : tablePath ∈ traverse project :=
  child_mem_traverse (child_mem_traverse (child_mem_traverse (root_mem_traverse project)
    (List.mem_singleton.mpr rfl)) (List.mem_singleton.mpr rfl)) (List.mem_singleton.mpr rfl)

end Shop

theorem shop_names_agree : Shop.tablePath ∈ traverse Shop.project ∧
    Shop.tablePath.fullTableName = .ok "shop.items" ∧
    ∀ mapper : String → String, ∀ child ∈ Shop.tablePath.document.children,
      (Shop.tablePath.child child).relativeName .table .database "_" mapper =
        mapper "items" ++ "_" ++ mapper "id" := by
  obtain ⟨hbelow, htable, -⟩ := names_agree Shop.tablePath_mem_traverse
  refine ⟨Shop.tablePath_mem_traverse, htable.trans rfl, fun mapper child hchild => ?_⟩
  have hid : child.name = "id" := by
    revert child
    decide
  rw [hbelow _ _ _ _ child hchild, if_pos (by decide)]
  change mapper "items" ++ "_" ++ mapper child.name = _
  rw [hid]

end TableScribe
