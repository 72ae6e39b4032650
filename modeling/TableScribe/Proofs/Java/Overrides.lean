/-
Views installed over the Java views.  They are called for models of their own
kinds only, so a tree without such models is written as if they were not there.
-/
import Mathlib.Data.Set.Insert
import TableScribe.Proofs.Java.Writing
import TableScribe.Proofs.Render.Installing

namespace TableScribe

theorem lastInstalled?_eq_none {history : List (Kind × View)} {kinds : Set Kind} {kind : Kind}
    (hhistory : ∀ entry ∈ history, entry.1 ∈ kinds) (hkind : kind ∉ kinds) :
    lastInstalled? history kind = none := by
  rw [← Option.not_isSome_iff_eq_none, isSome_lastInstalled?_iff]
  intro hmem
  obtain ⟨entry, hentry, rfl⟩ := List.mem_map.mp hmem
  exact hkind (hhistory entry hentry)

/-- Nodes that are closed under children hold what lies in their trees. -/
theorem Model.Contains.node_mem {nodes : List Node}
    (hnodes : ∀ node ∈ nodes, ∀ part, ∀ child ∈ node.children part, child ∈ nodes)
    {root model : Model} (hmodel : root.Contains model) (hroot : root.node ∈ nodes) :
    model.node ∈ nodes := by
  induction hmodel with
  | refl => exact hroot
  | @tail owner child _ hchild ih =>
      obtain ⟨part, hmem⟩ := hchild
      exact hnodes owner.node ih part child.node (Model.node_mem_of_mem_children hmem)

namespace RegistryBuilder

variable {overrides : List (Kind × View)}

/-- Whatever is installed over the Java views, every kind has a view. -/
theorem exists_build_installAll_java (overrides : List (Kind × View)) :
    ∃ registry, (java.installAll overrides).build = .ok registry :=
  exists_build_iff.mpr fun kind => by simp [get_installAll, get_java]

theorem get?_of_build_installAll_java {registry : Registry} {kinds : Set Kind} {kind : Kind}
    (hbuild : (java.installAll overrides).build = .ok registry)
    (hoverrides : ∀ entry ∈ overrides, entry.1 ∈ kinds) (hkind : kind ∉ kinds) :
    registry.get? kind = Registry.java.get? kind := by
  rw [get?_of_build hbuild, get_installAll, lastInstalled?_eq_none hoverrides hkind,
    Option.none_or, get_java, Java.get?_java]

end RegistryBuilder

namespace Java

/-- Overrides are local.  If no model of a tree is of a kind whose view was
replaced, however often and by whatever views, an idle generator makes the same
of the tree, a text or an error, as one with all the Java views. -/
theorem render_overridden_eq_render_java {α β : Type} {kinds : Set Kind}
    {overrides : List (Kind × View)} (hoverrides : ∀ entry ∈ overrides, entry.1 ∈ kinds)
    {root : Model} (hroot : ∀ model, root.Contains model → model.kind ∉ kinds) :
    ∃ registry, (RegistryBuilder.java.installAll overrides).build = .ok registry ∧
      ∀ (driver : Program α) (overridden : Moment α) (driver' : Program β) (plain : Moment β),
        Moment.Reached registry driver overridden → overridden.generator.isIdle = true →
        Moment.Reached Registry.java driver' plain → plain.generator.isIdle = true →
        ∃ rendered, overridden.generator.render root = some (rendered, overridden.generator) ∧
          plain.generator.render root = some (rendered, plain.generator) := by
  obtain ⟨registry, hbuild⟩ := RegistryBuilder.exists_build_installAll_java overrides
  refine ⟨registry, hbuild, ?_⟩
  intro driver overridden driver' plain hoverridden hidle hplain hidle'
  rw [Moment.generator_eq_new hoverridden hidle, Moment.generator_eq_new hplain hidle']
  refine ⟨Registry.java.text [] root, ?_, Generator.render_new java_descends root⟩
  apply Generator.render_new_of_agree java_descends
  intro model hmodel
  exact RegistryBuilder.get?_of_build_installAll_java hbuild hoverrides (hroot model hmodel)

/-- The parts of a box: a class with a field, the types of the field, and a class
inside. -/
def boxNodes : List Node :=
  let item := TypeRef.named "Item"
  let items : TypeRef := ⟨"List", [item], 0⟩
  let content := Field.plain "content" items
  let tray := Declaration.ofClass (ClassHead.named "Tray") []
  let box := Declaration.ofClass { ClassHead.named "Box" with fields := [content] } [tray]
  [.declaration box, .field content, .typeRef items, .typeRef item, .declaration tray]

/-- The box itself. -/
def boxModel : Model := Model.root 0 boxNodes.head!

def boxText : String :=
  "class Box \x7b\n    List<Item> content;\n\n    class Tray \x7b\x7d\n\x7d"

/-- Views under which comments are refused at first and then written without
end, and methods are left out. -/
def memberOverrides : List (Kind × View) :=
  [(.javadoc, fun _ => throw (.noAncestor .file)), (.method, fun _ => pure ""),
    (.javadoc, ViewM.render)]

/-- The box has neither comments nor methods. -/
theorem box_written_among_overrides :
    ∃ registry, (RegistryBuilder.java.installAll memberOverrides).build = .ok registry ∧
      (Generator.new registry).render boxModel =
        some (.ok boxText, Generator.new registry) := by
  have hclosed : ∀ node ∈ boxNodes, ∀ part, ∀ child ∈ node.children part, child ∈ boxNodes := by
    simp only [boxNodes, List.forall_mem_cons]
    refine ⟨?_, ?_, ?_, ?_, ?_, nofun⟩ <;> intro part <;> cases part <;>
      simp [Node.children, ClassHead.children, ClassHead.named, Field.plain, TypeRef.named]
  have hkinds : ∀ node ∈ boxNodes, node.kind ∉ ({.javadoc, .method} : Set Kind) := by
    simp [boxNodes, Node.kind]
  have hroot : ∀ model, boxModel.Contains model →
      model.kind ∉ ({.javadoc, .method} : Set Kind) := by
    intro model hmodel
    exact hkinds model.node (hmodel.node_mem hclosed List.mem_cons_self)
  have hoverrides : ∀ entry ∈ memberOverrides, entry.1 ∈ ({.javadoc, .method} : Set Kind) := by
    simp [memberOverrides]
  obtain ⟨registry, hregistry, hrender⟩ :=
    render_overridden_eq_render_java (α := Unit) (β := Unit) hoverrides hroot
  obtain ⟨rendered, hoverridden, hplain⟩ := hrender (.done ()) (Moment.start registry (.done ()))
    (.done ()) (Moment.start Registry.java (.done ())) Relation.ReflTransGen.refl rfl
    Relation.ReflTransGen.refl rfl
  have hbox : (Generator.new Registry.java).render boxModel =
      some (.ok boxText, Generator.new Registry.java) := by
    rw [Generator.render_new java_descends]
    rfl
  obtain rfl : rendered = .ok boxText :=
    congrArg Prod.fst (Option.some.inj (hplain.symm.trans hbox))
  exact ⟨registry, hregistry, hoverridden⟩

end Java

end TableScribe
