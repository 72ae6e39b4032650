/-
The height of a node bounds how deep a walk from it goes: every child of a
node is lower than the node.
-/
import TableScribe.Model.Height

namespace TableScribe

theorem le_maxHeight_of_mem {heights : List Nat} {height : Nat} (hmem : height ∈ heights) :
    height ≤ maxHeight heights := by
  induction heights with
  | nil => simp at hmem
  | cons head rest ih =>
      change height ≤ max head (maxHeight rest)
      rcases List.mem_cons.mp hmem with rfl | hrest
      · exact Nat.le_max_left _ _
      · exact Nat.le_trans (ih hrest) (Nat.le_max_right _ _)

theorem TypeRef.height_pos (type : TypeRef) : 0 < type.height := by
  cases type with
  | mk name generics dims =>
      rw [height]
      exact Nat.succ_pos _

theorem TypeRef.height_le_heightAll {types : List TypeRef} {type : TypeRef}
    (htype : type ∈ types) : type.height ≤ heightAll types := by
  induction types with
  | nil => simp at htype
  | cons head rest ih =>
      rw [heightAll]
      rcases List.mem_cons.mp htype with rfl | hrest
      · exact Nat.le_max_left _ _
      · exact Nat.le_trans (ih hrest) (Nat.le_max_right _ _)

theorem Declaration.height_le_heightAll {declarations : List Declaration}
    {declaration : Declaration} (hdeclaration : declaration ∈ declarations) :
    declaration.height ≤ heightAll declarations := by
  induction declarations with
  | nil => simp at hdeclaration
  | cons head rest ih =>
      rw [heightAll]
      rcases List.mem_cons.mp hdeclaration with rfl | hrest
      · exact Nat.le_max_left _ _
      · exact Nat.le_trans (ih hrest) (Nat.le_max_right _ _)

theorem lt_max_succ_of_mem {heights : List Nat} {height : Nat} (other : Nat)
    (hmem : height ∈ heights) : height < max (maxHeight heights) other + 1 := by
  have hle := le_maxHeight_of_mem hmem
  omega

theorem Declaration.height_lt_of_mem_nested {nested : List Declaration} {child : Node}
    (height : Nat) (hchild : child ∈ nested.map Node.declaration) :
    child.height < max height (heightAll nested) + 1 := by
  obtain ⟨declaration, hmem, rfl⟩ := List.mem_map.mp hchild
  have hle := height_le_heightAll hmem
  simp only [Node.height]
  omega

theorem ClassHead.height_lt_of_mem_children {head : ClassHead} {nested : List Declaration}
    {child : Node} {part : Part} (hchild : child ∈ head.children nested part) :
    child.height < (Declaration.ofClass head nested).height := by
  cases part with
  | nested => exact Declaration.height_lt_of_mem_nested _ hchild
  | javadoc | annotations | parents | interfaces | fields | constructors | methods =>
      obtain ⟨inner, hmem, rfl⟩ := List.mem_map.mp hchild
      apply lt_max_succ_of_mem
      simp only [Node.height, List.mem_cons, List.mem_append, List.mem_map]
      grind
  | _ => exact absurd hchild List.not_mem_nil

theorem InterfaceHead.height_lt_of_mem_children {head : InterfaceHead}
    {nested : List Declaration} {child : Node} {part : Part}
    (hchild : child ∈ head.children nested part) :
    child.height < (Declaration.ofInterface head nested).height := by
  cases part with
  | nested => exact Declaration.height_lt_of_mem_nested _ hchild
  | javadoc | annotations | parents | fields | methods =>
      obtain ⟨inner, hmem, rfl⟩ := List.mem_map.mp hchild
      apply lt_max_succ_of_mem
      simp only [Node.height, List.mem_cons, List.mem_append, List.mem_map]
      grind
  | _ => exact absurd hchild List.not_mem_nil

theorem EnumHead.height_lt_of_mem_children {head : EnumHead} {nested : List Declaration}
    {child : Node} {part : Part} (hchild : child ∈ head.children nested part) :
    child.height < (Declaration.ofEnum head nested).height := by
  cases part with
  | nested => exact Declaration.height_lt_of_mem_nested _ hchild
  | constants =>
      obtain ⟨constant, hmem, rfl⟩ := List.mem_map.mp hchild
      exact lt_max_succ_of_mem _ List.mem_cons_self
  | javadoc =>
      obtain ⟨javadoc, hmem, rfl⟩ := List.mem_map.mp hchild
      exact Nat.lt_trans Nat.one_lt_two (lt_max_succ_of_mem _ List.mem_cons_self)
  | annotations | interfaces | fields | constructors | methods =>
      obtain ⟨inner, hmem, rfl⟩ := List.mem_map.mp hchild
      apply lt_max_succ_of_mem
      simp only [Node.height, List.mem_cons, List.mem_append, List.mem_map]
      grind
  | _ => exact absurd hchild List.not_mem_nil

namespace Node

theorem height_pos (node : Node) : 0 < node.height := by
  cases node with
  | declaration node => cases node <;> simp [height, Declaration.height]
  | typeRef node => exact node.height_pos
  | annotationUse node =>
      simp only [height, Annotation.height]
      split <;> simp
  | field node => exact Nat.succ_pos _
  | method node => exact Nat.succ_pos _
  | _ => simp [height]

/-- A child is lower than the node it belongs to. -/
theorem height_lt_of_mem_children {node child : Node} {part : Part}
    (hchild : child ∈ node.children part) : child.height < node.height := by
  cases node with
  | file node =>
      cases part with
      | javadoc | imports =>
          obtain ⟨inner, hmem, rfl⟩ := List.mem_map.mp hchild
          simp only [height]
          omega
      | declarations => exact Declaration.height_lt_of_mem_nested _ hchild
      | _ => exact absurd hchild List.not_mem_nil
  | declaration node =>
      cases node with
      | ofClass head nested => exact ClassHead.height_lt_of_mem_children hchild
      | ofInterface head nested => exact InterfaceHead.height_lt_of_mem_children hchild
      | ofEnum head nested => exact EnumHead.height_lt_of_mem_children hchild
  | constant node =>
      cases part with
      | values =>
          obtain ⟨value, hmem, rfl⟩ := List.mem_map.mp hchild
          simp [height]
      | _ => exact absurd hchild List.not_mem_nil
  | annotationUse node =>
      cases part with
      | value | params =>
          obtain ⟨inner, hmem, rfl⟩ := List.mem_map.mp hchild
          simp only [height, Annotation.height]
          grind
      | _ => exact absurd hchild List.not_mem_nil
  | field node =>
      cases part with
      | type =>
          obtain rfl := List.mem_singleton.mp hchild
          exact Nat.lt_succ_of_le (le_maxHeight_of_mem List.mem_cons_self)
      | value | javadoc | annotations =>
          obtain ⟨inner, hmem, rfl⟩ := List.mem_map.mp hchild
          refine Nat.lt_succ_of_le (le_maxHeight_of_mem ?_)
          simp only [height, List.mem_cons, List.mem_map]
          grind
      | _ => exact absurd hchild List.not_mem_nil
  | method node =>
      cases part with
      | returns =>
          obtain rfl := List.mem_singleton.mp hchild
          exact Nat.lt_succ_of_le (le_maxHeight_of_mem List.mem_cons_self)
      | params | throws | javadoc | annotations =>
          obtain ⟨inner, hmem, rfl⟩ := List.mem_map.mp hchild
          refine Nat.lt_succ_of_le (le_maxHeight_of_mem ?_)
          simp only [height, List.mem_cons, List.mem_append, List.mem_map]
          grind
      | _ => exact absurd hchild List.not_mem_nil
  | typeRef node =>
      cases part with
      | generics =>
          obtain ⟨type, hmem, rfl⟩ := List.mem_map.mp hchild
          have hle := TypeRef.height_le_heightAll hmem
          cases node with
          | mk name generics dims =>
              simp only [height, TypeRef.height]
              exact Nat.lt_succ_of_le hle
      | _ => exact absurd hchild List.not_mem_nil
  | importLine node => exact absurd hchild List.not_mem_nil
  | javadoc node => exact absurd hchild List.not_mem_nil
  | value node => exact absurd hchild List.not_mem_nil

end Node

theorem Model.child_mem_children {model : Model} {part : Part} {position : Nat} {node : Node}
    (hnode : (model.node.children part)[position]? = some node) :
    model.child part position node ∈ model.children part := by
  obtain ⟨hposition, rfl⟩ := List.getElem?_eq_some_iff.mp hnode
  exact List.mem_mapIdx.mpr ⟨position, hposition, rfl⟩

theorem Model.node_mem_of_mem_children {model child : Model} {part : Part}
    (hchild : child ∈ model.children part) : child.node ∈ model.node.children part := by
  obtain ⟨position, hposition, rfl⟩ := List.mem_mapIdx.mp hchild
  exact List.getElem_mem hposition

theorem Model.children_ne_nil {model child : Model} {part : Part}
    (hchild : child ∈ model.children part) : model.node.children part ≠ [] := by
  intro hnil
  simp [children, hnil] at hchild

/-- A child at its place is lower than its owner. -/
theorem Model.height_lt_of_mem_children {model child : Model} {part : Part}
    (hchild : child ∈ model.children part) : child.node.height < model.node.height :=
  Node.height_lt_of_mem_children (node_mem_of_mem_children hchild)

end TableScribe
