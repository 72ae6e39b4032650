/-
Silenced kinds.  When the view of an optional kind writes nothing, what is
written around its nodes is as if the tree did not have them.
-/
import TableScribe.Proofs.Java.Likeness
import TableScribe.Proofs.Model.Deletion
import TableScribe.Proofs.Render.Installing

namespace TableScribe

/-- A view that writes nothing: it comes to the empty text whatever it is told,
and it has no more rendered than children of its model. -/
structure View.IsSilent (view : View) : Prop where
  requests : ∀ model answer,
    (view model).Requests answer fun call => call.Below (fun _ => True) model
  empty : ∀ model answer reply, (view model).eval answer reply = .ok ""

/-- A view that returns the empty text at once writes nothing. -/
theorem View.isSilent_pure : View.IsSilent fun _ => pure "" :=
  ⟨fun _ _ => .pure "", fun _ _ _ => rfl⟩

/-- A registry has the Java views, but for one kind, whose view writes
nothing. -/
structure Registry.Silences (registry : Registry) (kind : Kind) : Prop where
  silent : ∃ view, registry.get? kind = some view ∧ view.IsSilent
  java : ∀ other, other ≠ kind → registry.get? other = some (Java.view other)

namespace RegistryBuilder

variable {kind : Kind} {view : View}

theorem get_install_java (kind other : Kind) (view : View) :
    (java.install kind view).views.get other =
      some (if kind = other then view else Java.view other) := by
  rw [install, PerKind.get_set, get_java]
  split <;> rfl

/-- The Java views with one of them replaced by a silent one make a registry. -/
theorem exists_silences (kind : Kind) (hview : view.IsSilent) :
    ∃ registry, (java.install kind view).build = .ok registry ∧ registry.Silences kind := by
  obtain ⟨registry, hregistry⟩ : ∃ registry, (java.install kind view).build = .ok registry :=
    exists_build_iff.mpr fun other => by simp [get_install_java]
  have hget (other : Kind) := (get?_of_build hregistry other).trans
    (get_install_java kind other view)
  refine ⟨registry, hregistry, ⟨view, ?_, hview⟩, ?_⟩
  · rw [hget, if_pos rfl]
  · intro other hother
    rw [hget, if_neg (Ne.symm hother)]

end RegistryBuilder

namespace Java

variable {registry : Registry} {kind : Kind}

theorem alike_without (kind : Kind) (model : Model) : Alike model (model.without kind) := by
  obtain ⟨node, place⟩ := model
  have hname (declaration : Declaration) : (declaration.without kind).name = declaration.name := by
    cases declaration <;> rfl
  cases node with
  | file file =>
      refine ⟨rfl, rfl, fun name => ?_⟩
      change file.declarations.any _ = (Declaration.withoutAll kind file.declarations).any _
      simp [Declaration.withoutAll_eq_map, Function.comp_def, hname]
  | declaration declaration => cases declaration <;> exact ⟨rfl, rfl, fun _ => rfl⟩
  | _ => exact ⟨rfl, rfl, fun _ => rfl⟩

theorem optionalKind?_eq_none {part : Part} (hpart : part ∉ tracelessParts) :
    part.optionalKind? = none := by
  cases part <;> first | rfl | exact absurd (by decide) hpart

theorem silenced_descends (hsilences : registry.Silences kind) :
    registry.Descends fun _ _ _ => True := by
  intro above model outer houter
  by_cases hkind : model.kind = kind
  · obtain ⟨view, hview, hsilent⟩ := hsilences.silent
    obtain rfl : view = outer := by
      rw [hkind, hview] at houter
      exact Option.some.inj houter
    exact hsilent.requests model _
  · rw [hsilences.java _ hkind, ← get?_java] at houter
    exact (java_descends above model outer houter).mono fun call hcall =>
      hcall.mono fun _ _ => trivial

theorem text_of_silenced (hsilences : registry.Silences kind) (above : List Model) {model : Model}
    (hkind : model.kind = kind) : registry.text above model = .ok "" := by
  obtain ⟨view, hview, hsilent⟩ := hsilences.silent
  rw [Registry.text_eq (silenced_descends hsilences) (hkind ▸ hview)]
  exact hsilent.empty model _ _

/-- With the views of an optional kind silenced, a model of another kind has the
text that it has without the nodes of that kind. -/
theorem text_without (hsilences : registry.Silences kind) (hoptional : kind ∈ Kind.optionals)
    {above above' : List Model} (habove : List.Forall₂ Alike above above') {model : Model}
    (hkind : model.kind ≠ kind) :
    registry.text above model = Registry.java.text above' (model.without kind) := by
  induction hheight : model.node.height using Nat.strongRecOn generalizing above above' model with
  | ind height ih =>
      have halike := alike_without kind model
      have hkept {part : Part} (hpart : part.optionalKind? ≠ some kind) :
          model.replies (registry.reply (model :: above)) part =
            (model.without kind).replies
              (Registry.java.reply (model.without kind :: above')) part := by
        rw [Model.replies, Model.replies, model.children_without_of_ne hpart, List.map_map]
        refine List.map_congr_left fun child hchild => ?_
        have hlt := Model.height_lt_of_mem_children hchild
        have hchildKind : child.kind ≠ kind := by
          have hmem := Model.node_mem_of_mem_children hchild
          exact mt (Node.kind_eq_iff_of_mem_children hoptional hmem).mp hpart
        exact ih _ (hheight ▸ hlt) (.cons halike habove) hchildKind rfl
      have hemptied {part : Part} (hpart : part.optionalKind? = some kind) :
          (model.replies (registry.reply (model :: above)) part).filter Rendered.isShown =
            ((model.without kind).replies
              (Registry.java.reply (model.without kind :: above')) part).filter
                Rendered.isShown := by
        rw [Model.replies, Model.replies, model.children_without_of_eq hpart, List.map_nil,
          List.filter_nil, List.filter_eq_nil_iff]
        intro reply hreply
        obtain ⟨child, hchild, rfl⟩ := List.mem_map.mp hreply
        have hmem := Model.node_mem_of_mem_children hchild
        have hchildKind := (Node.kind_eq_iff_of_mem_children hoptional hmem).mpr hpart
        change ¬ Rendered.isShown (registry.text (model :: above) child) = true
        rw [text_of_silenced hsilences _ hchildKind]
        decide
      have hagree : Agree (registry.reply (model :: above))
          (Registry.java.reply (model.without kind :: above')) model (model.without kind) := by
        constructor
        · intro part _
          by_cases hpart : part.optionalKind? = some kind
          · exact hemptied hpart
          · rw [hkept hpart]
        · intro part hpart
          exact hkept (by simp [optionalKind?_eq_none hpart])
      rw [Registry.text_eq (silenced_descends hsilences) (hsilences.java _ hkind),
        Registry.text_eq java_descends (get?_java (model.without kind).kind)]
      exact hagree.eval_view halike habove

/-- Silencing a kind is deleting its nodes.  Whatever an idle generator with the
view of an optional kind silenced makes of a tree, a text or an error, an idle
generator with all the Java views makes the same of the tree without the nodes
of that kind. -/
theorem render_silenced_eq_render_without {α β : Type} {view : View} (hview : view.IsSilent)
    (hoptional : kind ∈ Kind.optionals) {root : Model} (hroot : root.kind ≠ kind) :
    ∃ registry, (RegistryBuilder.java.install kind view).build = .ok registry ∧
      ∀ (driver : Program α) (silenced : Moment α) (driver' : Program β) (plain : Moment β),
        Moment.Reached registry driver silenced → silenced.generator.isIdle = true →
        Moment.Reached Registry.java driver' plain → plain.generator.isIdle = true →
        ∃ rendered, silenced.generator.render root = some (rendered, silenced.generator) ∧
          plain.generator.render (root.without kind) = some (rendered, plain.generator) := by
  obtain ⟨registry, hregistry, hsilences⟩ := RegistryBuilder.exists_silences kind hview
  refine ⟨registry, hregistry, ?_⟩
  intro driver silenced driver' plain hsilenced hidle hplain hidle'
  rw [Moment.generator_eq_new hsilenced hidle, Moment.generator_eq_new hplain hidle']
  refine ⟨_, Generator.render_new (silenced_descends hsilences) root, ?_⟩
  rw [Generator.render_new java_descends, text_without hsilences hoptional .nil hroot]

/-- A file with comments at three levels. -/
def commentedFile : File where
  name := "U"
  package := some "p"
  javadoc := some (.ofText "header")
  imports := []
  declarations := [.ofClass { ClassHead.named "U" with
    javadoc := some (.ofText "class")
    fields := [{ Field.plain "x" (.named "int") with javadoc := some (.ofText "x") }] } []]

/-- The file without its comments. -/
def uncommentedText : String := "package p;\n\nclass U \x7b\n    int x;\n\x7d\n"

/-- Silenced comments leave no blank lines. -/
theorem commented_file_silenced :
    ∃ registry, (RegistryBuilder.java.install .javadoc fun _ => pure "").build = .ok registry ∧
      (Generator.new registry).render (Model.root 0 (.file commentedFile)) =
        some (.ok uncommentedText, Generator.new registry) := by
  have hoptional : Kind.javadoc ∈ Kind.optionals := by decide
  have hroot : (Model.root 0 (.file commentedFile)).kind ≠ .javadoc := by decide
  obtain ⟨registry, hregistry, hrender⟩ :=
    render_silenced_eq_render_without (α := Unit) (β := Unit) View.isSilent_pure hoptional hroot
  obtain ⟨rendered, hsilenced, hplain⟩ := hrender (.done ()) (Moment.start registry (.done ()))
    (.done ()) (Moment.start Registry.java (.done ())) Relation.ReflTransGen.refl rfl
    Relation.ReflTransGen.refl rfl
  have huncommented : (Generator.new Registry.java).render
      ((Model.root 0 (.file commentedFile)).without .javadoc) =
        some (.ok uncommentedText, Generator.new Registry.java) := by
    rw [Generator.render_new java_descends]
    rfl
  obtain rfl : rendered = .ok uncommentedText :=
    congrArg Prod.fst (Option.some.inj (hplain.symm.trans huncommented))
  exact ⟨registry, hregistry, hsilenced⟩

end Java

end TableScribe
