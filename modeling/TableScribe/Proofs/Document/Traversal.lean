/-
The walk with a stack visits the paths of a project in the order of the
recursive walk.  A stack holds what is still to be walked, so it stands for the
walks of its paths one after the other.
-/
import TableScribe.Document.Traversal

namespace TableScribe

namespace Document

/-- The number of levels that can be below a document. -/
def levelsBelow : Document → Nat
  | project _ => 4
  | dbms _ => 3
  | schema _ => 2
  | table _ => 1
  | column _ => 0
  | keyColumn _ => 0

theorem levelsBelow_lt_of_mem_children {document child : Document}
    (hchild : child ∈ document.children) : child.levelsBelow < document.levelsBelow := by
  cases document with
  | project node | dbms node | schema node =>
      obtain ⟨inner, -, rfl⟩ := List.mem_map.mp hchild
      simp [levelsBelow]
  | table node =>
      rcases List.mem_append.mp hchild with hcolumn | hkey
      · obtain ⟨column, -, rfl⟩ := List.mem_map.mp hcolumn
        simp [levelsBelow]
      · obtain ⟨key, -, rfl⟩ := List.mem_map.mp hkey
        simp [levelsBelow]
  | column node | keyColumn node => simp [children] at hchild

theorem total_append (front rest : List Nat) :
    total (front ++ rest) = total front + total rest := by
  induction front with
  | nil => exact (Nat.zero_add _).symm
  | cons size front ih =>
      change size + total (front ++ rest) = size + total front + total rest
      rw [ih, Nat.add_assoc]

theorem total_map_one {α : Type} (items : List α) :
    total (items.map fun _ => 1) = items.length := by
  induction items with
  | nil => rfl
  | cons item items ih =>
      change 1 + total (items.map fun _ => 1) = items.length + 1
      rw [ih, Nat.add_comm]

theorem length_flatMap_eq_total {α β : Type} (items : List α) (f : α → List β) :
    (items.flatMap f).length = total (items.map fun item => (f item).length) := by
  induction items with
  | nil => rfl
  | cons item items ih =>
      rw [List.flatMap_cons, List.length_append, ih]
      rfl

/-- A tree consists of its root and of the trees below it. -/
theorem size_eq (document : Document) :
    document.size = 1 + total (document.children.map size) := by
  cases document with
  | project node | dbms node | schema node =>
      simp only [size, children, List.map_map]
      rfl
  | table node =>
      have hcolumns : (node.columns.map column).map size = node.columns.map fun _ => 1 :=
        List.map_map
      have hkeys : (node.keyColumns.map keyColumn).map size = node.keyColumns.map fun _ => 1 :=
        List.map_map
      rw [children, List.map_append, total_append, hcolumns, hkeys, total_map_one, total_map_one,
        ← Nat.add_assoc]
      rfl
  | column node | keyColumn node => rfl

end Document

namespace DocumentPath

/-- A path followed by all paths below it, each after its parent and before the
next sibling of its parent. -/
def walk (path : DocumentPath) : List DocumentPath :=
  path :: path.document.children.attach.flatMap fun child => (path.child child.1).walk
termination_by path.document.levelsBelow
decreasing_by exact Document.levelsBelow_lt_of_mem_children child.2

theorem walk_eq (path : DocumentPath) : path.walk = path :: path.children.flatMap walk := by
  have hattach := List.flatMap_map Subtype.val (fun child => (path.child child).walk)
    path.document.children.attach
  rw [List.attach_map_subtype_val] at hattach
  rw [walk, children, List.flatMap_map, hattach]

/-- The walk has as many paths as the tree has documents. -/
theorem length_walk (path : DocumentPath) : path.walk.length = path.document.size := by
  induction path using walk.induct with
  | case1 path ih =>
      have hchildren : path.document.children.map (fun child => (path.child child).walk.length) =
          path.document.children.map Document.size :=
        List.map_congr_left fun child hchild => ih ⟨child, hchild⟩
      rw [walk_eq, Document.size_eq, ← hchildren, List.length_cons, children, List.flatMap_map,
        Document.length_flatMap_eq_total, Nat.add_comm]

theorem child_mem_walk {root path : DocumentPath} (hpath : path ∈ root.walk) {child : Document}
    (hchild : child ∈ path.document.children) : path.child child ∈ root.walk := by
  induction root using walk.induct with
  | case1 root ih =>
      rw [walk_eq, List.mem_cons, List.mem_flatMap] at hpath ⊢
      right
      rcases hpath with rfl | ⟨above, habove, hpath⟩
      · refine ⟨path.child child, List.mem_map_of_mem hchild, ?_⟩
        rw [walk_eq]
        exact List.mem_cons_self
      · obtain ⟨document, hdocument, rfl⟩ := List.mem_map.mp habove
        exact ⟨_, habove, ih ⟨document, hdocument⟩ hpath⟩

/-- What holds of a path and passes on to those directly below holds of the walk. -/
theorem forall_mem_walk {motive : DocumentPath → Prop}
    (hbelow : ∀ path, motive path → ∀ child ∈ path.document.children, motive (path.child child))
    {root : DocumentPath} (hroot : motive root) : ∀ path ∈ root.walk, motive path := by
  induction root using walk.induct with
  | case1 root ih =>
      intro path hpath
      rw [walk_eq, List.mem_cons, List.mem_flatMap] at hpath
      rcases hpath with rfl | ⟨above, habove, hpath⟩
      · exact hroot
      · obtain ⟨document, hdocument, rfl⟩ := List.mem_map.mp habove
        exact ih ⟨document, hdocument⟩ (hbelow root hroot document hdocument) path hpath

end DocumentPath

/-- A number of visits takes as many paths from the walks that the stack stands
for. -/
theorem visit_eq_take (steps : Nat) (stack : List DocumentPath) :
    visit steps stack = (stack.flatMap DocumentPath.walk).take steps := by
  induction steps generalizing stack with
  | zero => rfl
  | succ steps ih =>
      cases stack with
      | nil => rfl
      | cons path rest => simp [visit, ih, DocumentPath.walk_eq path]

/-- The loop comes to the recursive walk: it makes as many visits as there are
documents. -/
theorem traverse_eq_walk (project : Project) :
    traverse project = (DocumentPath.root project).walk := by
  have hlength := (DocumentPath.root project).length_walk
  rw [traverse, visit_eq_take, List.flatMap_singleton, List.take_of_length_le]
  exact Nat.le_of_eq hlength

theorem root_mem_traverse (project : Project) : DocumentPath.root project ∈ traverse project := by
  rw [traverse_eq_walk, DocumentPath.walk_eq]
  exact List.mem_cons_self

/-- The walk reaches whatever is below what it reaches. -/
theorem child_mem_traverse {project : Project} {path : DocumentPath}
    (hpath : path ∈ traverse project) {child : Document}
    (hchild : child ∈ path.document.children) : path.child child ∈ traverse project := by
  rw [traverse_eq_walk] at hpath ⊢
  exact DocumentPath.child_mem_walk hpath hchild

end TableScribe
