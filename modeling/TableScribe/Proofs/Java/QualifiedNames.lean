/-
Which qualified names the Java views write in full.  A name is kept if the file
declares its last segment at the top level, or if the nearest class, interface
or enum goes by it.  Declarations further out are overlooked if a nearer one is
of the same kind.
-/
import TableScribe.Proofs.Java.Spelling
import TableScribe.Proofs.Render.Passage

namespace TableScribe

theorem Node.kind_ne_file_of_mem_children {node child : Node} {part : Part}
    (hchild : child ∈ node.children part) : child.kind ≠ .file := by
  intro hkind
  cases child with
  | file file =>
      cases node with
      | declaration node =>
          cases node <;> cases part <;>
            simp [children, ClassHead.children, InterfaceHead.children, EnumHead.children] at hchild
      | _ => cases part <;> simp [children] at hchild
  | declaration node => cases node <;> simp [kind] at hkind
  | _ => simp [kind] at hkind

/-- The only file around a place is the one that is found there. -/
theorem Lineage.find?_file {writes : List Model → Model → Part → Prop} {root model file : Model}
    {above : List Model} (hlineage : Lineage writes root above model) (hmem : file ∈ above)
    (hkind : file.kind = .file) :
    above.find? (fun outer => outer.kind = .file) = some file := by
  induction hlineage with
  | root => simp at hmem
  | @child above owner model part howner hpart hmodel ih =>
      cases howner with
      | root =>
          obtain rfl := List.mem_singleton.mp hmem
          simp [hkind]
      | child houter hin hbelow =>
          have howner : owner.kind ≠ .file :=
            Node.kind_ne_file_of_mem_children (Model.node_mem_of_mem_children hbelow)
          rcases List.mem_cons.mp hmem with rfl | hrest
          · exact absurd hkind howner
          · simpa [howner] using ih hrest

/-- In the run that renders a root, the view of a model is done with a text
while just these models are being rendered around it.  For a rendering that
comes to a result these are texts on the way to it,
`Generator.handsOver_throughout_render`. -/
def Moment.HandsOver (generator : Generator) (root : Model) (above : List Model) (model : Model)
    (text : String) : Prop :=
  ∃ activation waiting last, activation.model = model ∧ waiting.stack = above ∧
    Leads (outside (ViewM.render root).run generator)
      (inside activation (.done (.ok text)) waiting last)

/-- What is handed over in a run is handed over at one of the moments that
rendering the root passes through. -/
theorem Generator.handsOver_throughout_render {generator after : Generator} {root : Model}
    {rendered : Rendered} (hrender : generator.render root = some (rendered, after)) :
    ∃ moments, Moment.Passage (.outside (ViewM.render root).run generator) moments
        (.outside (.done rendered) after) ∧
      ∀ above model text, Moment.HandsOver generator root above model text ↔
        ∃ activation waiting last, activation.model = model ∧ waiting.stack = above ∧
          Moment.inside activation (.done (.ok text)) waiting last ∈ moments := by
  obtain ⟨moments, hpassage, hmem⟩ := Moment.exists_passage_of_run hrender
  refine ⟨moments, hpassage, fun above model text => ?_⟩
  simp only [Moment.HandsOver, hmem]

namespace Java

/-- A name is that of a declaration at the top level of the file around a place
or of a declaration around it, at any distance. -/
def InScope (above : List Model) (simple : String) : Prop :=
  (∃ file ∈ above, declaresAtTop simple file.node = true) ∨
    ∃ owner ∈ above, owner.kind ∈ Kind.declarations ∧ owner.name? = some simple

/-- A declaration around a place has a name that is not taken there: it is not
declared at the top level, and of each kind a nearer declaration has another
name. -/
def Overlooks (above : List Model) (simple : String) : Prop :=
  (∃ owner ∈ above, owner.kind ∈ Kind.declarations ∧ owner.name? = some simple) ∧
    takes above simple = false

/-- A name is taken by a declaration of the file, or by the innermost one of
some sort. -/
theorem takes_iff {above : List Model} {simple : String} :
    takes above simple = true ↔
      (∃ file, above.find? (fun model => model.kind = .file) = some file ∧
        declaresAtTop simple file.node = true) ∨
      ∃ kind ∈ Kind.declarations, ∃ owner,
        above.find? (fun model => model.kind = kind) = some owner ∧ owner.name? = some simple := by
  simp [takes, Option.any_eq_true]

/-- What takes a name has it in scope. -/
theorem inScope_of_takes {above : List Model} {simple : String}
    (htakes : takes above simple = true) : InScope above simple := by
  rcases takes_iff.mp htakes with ⟨file, hfile, hdeclares⟩ | ⟨kind, hkind, owner, howner, hname⟩
  · exact Or.inl ⟨file, List.mem_of_find?_eq_some hfile, hdeclares⟩
  · have hownerKind : owner.kind = kind := by simpa using List.find?_some howner
    exact Or.inr ⟨owner, List.mem_of_find?_eq_some howner, hownerKind ▸ hkind, hname⟩

/-- In a tree, a name in scope is taken or overlooked. -/
theorem takes_or_overlooks {writes : List Model → Model → Part → Prop} {root model : Model}
    {above : List Model} (hlineage : Lineage writes root above model) {simple : String}
    (hscope : InScope above simple) : takes above simple = true ∨ Overlooks above simple := by
  rcases hscope with ⟨file, hmem, hdeclares⟩ | howner
  · have hkind : file.kind = .file := by
      cases hnode : file.node <;> simp [declaresAtTop, hnode] at hdeclares
      simp [Model.kind, Node.kind, hnode]
    exact Or.inl (takes_iff.mpr (Or.inl ⟨file, hlineage.find?_file hmem hkind, hdeclares⟩))
  · cases htakes : takes above simple with
    | true => exact Or.inl rfl
    | false => exact Or.inr ⟨howner, htakes⟩

namespace Shadowing

/-- A class with one field and some declarations nested in it. -/
def owner (name : String) (field : Field) (nested : List Declaration) : Declaration :=
  .ofClass { ClassHead.named name with fields := [field] } nested

/-- A class that is named like the type of its field. -/
def stamp : Model :=
  Model.root 0 (.declaration (owner "Timestamp" (.plain "at" (.named "java.sql.Timestamp")) []))

def stampField : Model :=
  stamp.child .fields 0 (.field (.plain "at" (.named "java.sql.Timestamp")))

def stampType : Model := stampField.child .type 0 (.typeRef (.named "java.sql.Timestamp"))

/-- A class inside a class, with a field whose type is named like the outer one. -/
def outer : Model :=
  Model.root 0 (.declaration (.ofClass (.named "A") [owner "B" (.plain "x" (.named "p.A")) []]))

def inner : Model := outer.child .nested 0 (.declaration (owner "B" (.plain "x" (.named "p.A")) []))

def innerField : Model := inner.child .fields 0 (.field (.plain "x" (.named "p.A")))

def innerType : Model := innerField.child .type 0 (.typeRef (.named "p.A"))

theorem lineage_stampType : Lineage Writes stamp [stampField, stamp] stampType :=
  (Lineage.root.child_at .fields 0 trivial rfl).child_at .type 0 trivial rfl

theorem lineage_innerType : Lineage Writes outer [innerField, inner, outer] innerType :=
  ((Lineage.root.child_at .nested 0 trivial rfl).child_at .fields 0 trivial rfl).child_at
    .type 0 trivial rfl

end Shadowing

/-- In a tree that comes to a text, the view of a model that is written hands over
the text of the model. -/
theorem handsOver_iff {root model : Model} {above : List Model} {whole : String}
    (hwhole : Registry.java.text [] root = .ok whole) (hlineage : Lineage Writes root above model)
    {text : String} :
    Moment.HandsOver (Generator.new Registry.java) root above model text ↔
      Registry.java.text above model = .ok text := by
  constructor
  · rintro ⟨activation, waiting, last, rfl, rfl, hleads⟩
    exact (Moment.text_of_leads java_descends hleads).2.symm
  · intro htext
    obtain ⟨other, waiting, hstack, hother, hleads⟩ :=
      Moment.leads_text java_descends java_covers hwhole hlineage
    obtain rfl : text = other := Except.ok.inj (htext.symm.trans hother)
    exact ⟨_, waiting, _, rfl, hstack, hleads⟩

variable {α : Type}

/-- How the qualified names of a tree are written when an idle generator renders
it with the Java views.  The return type of a constructor is not written, so it
has no text. -/
theorem qualified_name_in_full_iff {driver : Program α} {before : Moment α}
    (hbefore : Moment.Reached Registry.java driver before)
    (hidle : before.generator.isIdle = true) (root : Model) :
    (∀ above model name text, model.node.referredName? = some name → '.' ∈ name.toList →
      Moment.HandsOver before.generator root above model text →
        Lineage Writes root above model ∧
        (spelling above model name = .ok text ↔ takes above (simpleName name) = true) ∧
        (spelling above model (simpleName name) = .ok text ↔
          takes above (simpleName name) = false) ∧
        ((spelling above model name = .ok text ↔ InScope above (simpleName name)) ↔
          ¬ Overlooks above (simpleName name))) ∧
    ∀ whole after above model, before.generator.render root = some (.ok whole, after) →
      Lineage Writes root above model →
        ∃ text, Moment.HandsOver before.generator root above model text := by
  rw [Moment.generator_eq_new hbefore hidle]
  constructor
  · rintro above model name text hname hdot ⟨activation, waiting, last, rfl, rfl, hleads⟩
    obtain ⟨hlineage, htext⟩ := Moment.text_of_leads java_descends hleads
    obtain ⟨hfull, hshort⟩ := spelling_full_or_short hname hdot htext.symm
    refine ⟨hlineage, hfull, hshort, ?_⟩
    rw [hfull]
    constructor
    · intro hagree hoverlooks
      have htakes := hagree.mpr (Or.inr hoverlooks.1)
      simp [hoverlooks.2] at htakes
    · intro hseen
      constructor
      · exact inScope_of_takes
      · intro hscope
        exact (takes_or_overlooks hlineage hscope).resolve_right hseen
  · intro whole after above model hrender hlineage
    rw [Generator.render_new java_descends] at hrender
    obtain ⟨hwhole, -⟩ := Prod.mk.inj (Option.some.inj hrender)
    obtain ⟨text, waiting, hstack, -, hleads⟩ :=
      Moment.leads_text java_descends java_covers hwhole hlineage
    exact ⟨text, _, waiting, _, rfl, hstack, hleads⟩

theorem qualified_name_in_full_in_class_of_its_name :
    Moment.Reached Registry.java (.done ()) (Moment.start Registry.java (.done ())) ∧
      (Moment.start Registry.java (.done ())).generator.isIdle = true ∧
      ∃ text, Moment.HandsOver (Generator.new Registry.java) Shadowing.stamp
        [Shadowing.stampField, Shadowing.stamp] Shadowing.stampType text ∧
        spelling [Shadowing.stampField, Shadowing.stamp] Shadowing.stampType
          "java.sql.Timestamp" = .ok text := by
  have hbefore : Moment.Reached Registry.java (.done ()) (Moment.start Registry.java (.done ())) :=
    Relation.ReflTransGen.refl
  have hidle : (Moment.start Registry.java (.done ())).generator.isIdle = true := rfl
  obtain ⟨hwritten, hreached⟩ := qualified_name_in_full_iff hbefore hidle Shadowing.stamp
  have hrender : (Generator.new Registry.java).render Shadowing.stamp =
      some (.ok "class Timestamp {
    java.sql.Timestamp at;
}", Generator.new Registry.java) := by
    rw [Generator.render_new java_descends]
    rfl
  obtain ⟨text, hhands⟩ := hreached _ _ _ _ hrender Shadowing.lineage_stampType
  obtain ⟨-, hfull, -⟩ := hwritten _ _ "java.sql.Timestamp" text rfl (by decide) hhands
  exact ⟨hbefore, hidle, text, hhands, hfull.mpr rfl⟩

/-- A type that is named like the outer of two classes is written in short inside
the inner one, where the short name means the class. -/
theorem outer_class_overlooked :
    ∃ text, Moment.HandsOver (Generator.new Registry.java) Shadowing.outer
        [Shadowing.innerField, Shadowing.inner, Shadowing.outer] Shadowing.innerType text ∧
      InScope [Shadowing.innerField, Shadowing.inner, Shadowing.outer] "A" ∧
      spelling [Shadowing.innerField, Shadowing.inner, Shadowing.outer] Shadowing.innerType
        "A" = .ok text ∧
      spelling [Shadowing.innerField, Shadowing.inner, Shadowing.outer] Shadowing.innerType
        "p.A" ≠ .ok text ∧
      (Generator.new Registry.java).render Shadowing.outer =
        some (.ok "class A {
    class B {
        A x;
    }
}", Generator.new Registry.java) := by
  have hwhole : Registry.java.text [] Shadowing.outer =
      .ok "class A {
    class B {
        A x;
    }
}" := rfl
  obtain ⟨text, waiting, hstack, htext, hleads⟩ :=
    Moment.leads_text java_descends java_covers hwhole Shadowing.lineage_innerType
  have hshort : spelling [Shadowing.innerField, Shadowing.inner, Shadowing.outer]
      Shadowing.innerType "A" = .ok text := by
    rw [← htext]
    rfl
  refine ⟨text, ⟨_, waiting, _, rfl, hstack, hleads⟩, ?_, hshort, ?_, ?_⟩
  · exact Or.inr ⟨Shadowing.outer, by simp, by decide, rfl⟩
  · intro hfull
    exact absurd (spelling_injective hshort hfull) (by decide)
  · rw [Generator.render_new java_descends, hwhole]

end Java

end TableScribe
