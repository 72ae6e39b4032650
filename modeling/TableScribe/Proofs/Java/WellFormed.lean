/-
Which trees the Java views can write: exactly those in which every node is in
order.  Whether a node is, is read off the node itself, but for a constructor,
which takes its name from a declaration around it.
-/
import TableScribe.Proofs.Java.QualifiedNames
import TableScribe.Proofs.Java.Refusals

namespace TableScribe

namespace Java

/-- The nodes of a tree that count: all but the return type of a constructor and
what belongs to it. -/
def Counts (_ : List Model) (model : Model) (part : Part) : Prop :=
  match model.node, part with
  | .method method, .returns => method.isConstructor = false
  | _, _ => True

/-- Whether a node is in order inside given models, apart from what is below
it. -/
def WellFormed (above : List Model) (model : Model) : Prop :=
  match model.node with
  | .importLine line => line.path ≠ ""
  | .declaration declaration => declaration.name ≠ ""
  | .constant constant => constant.name ≠ ""
  | .annotationUse mark => simpleName mark.name ≠ ""
  | .field field => field.name ≠ ""
  | .method method =>
    if method.isConstructor then ∃ owner ∈ above, owner.kind ∈ Kind.declarations
    else method.name ≠ ""
  | .typeRef type => type.name ≠ ""
  | .value (.float number) => number.isFinite = true
  | _ => True

theorem counts_of_writes {above : List Model} {model : Model} {part : Part}
    (hwrites : Writes above model part) : Counts above model part := by
  unfold Counts
  split
  case h_1 method hnode => simpa only [Writes, hnode] using hwrites
  case h_2 => trivial

/-- A node that counts is written, or it is a comment. -/
theorem lineage_writes_or_javadoc {root model : Model} {above : List Model}
    (hlineage : Lineage Counts root above model) :
    Lineage Writes root above model ∨ ∃ javadoc, model.node = .javadoc javadoc := by
  induction hlineage with
  | root => exact Or.inl .root
  | @child above owner model part howner hpart hmodel ih =>
      have hnode := Model.node_mem_of_mem_children hmodel
      rcases ih with hwritten | ⟨javadoc, hjavadoc⟩
      · by_cases hwrites : Writes above owner part
        · exact Or.inl (.child hwritten hwrites hmodel)
        · right
          unfold Writes at hwrites
          unfold Counts at hpart
          split at hwrites
          · simp_all
          · rename_i field hfield
            rw [hfield] at hnode
            obtain ⟨javadoc, -, hjavadoc⟩ := List.mem_map.mp hnode
            exact ⟨javadoc, hjavadoc.symm⟩
          · exact absurd trivial hwrites
      · rw [hjavadoc] at hnode
        exact absurd hnode List.not_mem_nil

/-- Every value but a number that is not finite has a literal. -/
theorem exists_literal_iff {value : Value} :
    (∃ text, literal value = .ok text) ↔
      match value with
      | .float number => number.isFinite = true
      | _ => True := by
  cases value with
  | float number =>
      by_cases hfinite : number.isFinite = true <;> simp [literal, hfinite]
  | _ => simp [literal]

/-- Where all declarations have names, no name is taken that is empty. -/
theorem takes_empty_eq_false {root model : Model} {above : List Model}
    (hnamed : ∀ further outer declaration, Lineage Writes root further outer →
      outer.node = .declaration declaration → declaration.name ≠ "")
    (hlineage : Lineage Writes root above model) : takes above "" = false := by
  rw [← Bool.not_eq_true, takes_iff]
  rintro (⟨file, hfile, hdeclares⟩ | ⟨kind, hkind, owner, howner, hname⟩)
  · obtain ⟨further, hfurther⟩ := hlineage.exists_of_mem (List.mem_of_find?_eq_some hfile)
    unfold declaresAtTop at hdeclares
    split at hdeclares
    case h_1 inside hnode =>
      obtain ⟨declaration, hmem, hempty⟩ := List.any_eq_true.mp hdeclares
      have hbelow : Node.declaration declaration ∈ file.node.children .declarations := by
        rw [hnode]
        exact List.mem_map_of_mem hmem
      have hwrites := @writes_of_ne .declarations nofun nofun further file
      obtain ⟨child, -, hchild, hlineage⟩ := hfurther.exists_child hwrites hbelow
      exact hnamed _ _ _ hlineage hchild (by simpa using hempty)
    case h_2 => exact nomatch hdeclares
  · obtain ⟨further, hfurther⟩ := hlineage.exists_of_mem (List.mem_of_find?_eq_some howner)
    have hownerKind : owner.kind = kind := by simpa using List.find?_some howner
    cases hnode : owner.node with
    | declaration declaration =>
        rw [Model.name?, hnode] at hname
        exact hnamed _ _ _ hfurther hnode (Option.some.inj hname)
    | _ =>
        simp [← hownerKind, Model.kind, hnode, Node.kind, Kind.declarations] at hkind

/-- Where the empty name is not taken, a name is printed as nothing exactly if
its last part is empty. -/
theorem printedName_ne_empty_iff {above : List Model} (htakes : takes above "" = false)
    {name : String} : printedName above name ≠ "" ↔ simpleName name ≠ "" := by
  unfold printedName
  by_cases hempty : simpleName name = ""
  · simp [hempty, htakes]
  · have hname : name ≠ "" := by
      rintro rfl
      exact hempty rfl
    split <;> simp [hempty, hname]

/-- Where the empty name is not taken, what a model needs can be read off its
node. -/
theorem wellFormed_iff_sound {above : List Model} (htakes : takes above "" = false)
    (model : Model) : WellFormed above model ↔ Sound above model := by
  unfold WellFormed Sound
  cases model.node with
  | annotationUse mark => exact (printedName_ne_empty_iff htakes).symm
  | value value =>
      simp only [exists_literal_iff]
      cases value <;> rfl
  | _ => rfl

/-- It is the same to look at what is written, with the names as printed, and at
what counts, with the names as given. -/
theorem forall_sound_iff_forall_wellFormed (root : Model) :
    (∀ above model, Lineage Writes root above model → Sound above model) ↔
      ∀ above model, Lineage Counts root above model → WellFormed above model := by
  constructor
  · intro hsound above model hlineage
    rcases lineage_writes_or_javadoc hlineage with hwritten | ⟨javadoc, hnode⟩
    · refine (wellFormed_iff_sound (takes_empty_eq_false ?_ hwritten) model).mpr
        (hsound above model hwritten)
      intro further outer declaration houter hnode
      have hdeclaration := hsound further outer houter
      rwa [Sound, hnode] at hdeclaration
    · simp [WellFormed, hnode]
  · intro hwell above model hwritten
    have hcounts {further : List Model} {outer : Model}
        (houter : Lineage Writes root further outer) : WellFormed further outer :=
      hwell further outer (houter.mono fun _ _ _ => counts_of_writes)
    refine (wellFormed_iff_sound (takes_empty_eq_false ?_ hwritten) model).mp (hcounts hwritten)
    intro further outer declaration houter hnode
    have hdeclaration := hcounts houter
    rwa [WellFormed, hnode] at hdeclaration

/-- An idle generator renders a tree with the Java views exactly if all of its
nodes are in order, and otherwise refuses it. -/
theorem renders_iff_forall_wellFormed {α : Type} {driver : Program α} {before : Moment α}
    (hbefore : Moment.Reached Registry.java driver before)
    (hidle : before.generator.isIdle = true) (root : Model) :
    ∃ rendered, before.generator.render root = some (rendered, before.generator) ∧
      ((∃ text, rendered = .ok text) ↔
        ∀ above model, Lineage Counts root above model → WellFormed above model) ∧
      ∀ error, rendered = .error error → Refuses error := by
  rw [Moment.generator_eq_new hbefore hidle]
  refine ⟨_, Generator.render_new java_descends root, ?_, fun _ => refuses_of_text_eq_error⟩
  rw [exists_text_iff_forall_sound, forall_sound_iff_forall_wellFormed]

theorem constructor_outside_declarations_refused :
    Moment.Reached Registry.java (.done ()) (Moment.start Registry.java (.done ())) ∧
      (Moment.start Registry.java (.done ())).generator.isIdle = true ∧
      ∃ error, Refuses error ∧
        (Generator.new Registry.java).render (Model.root 0 (.method .constructor)) =
          some (.error error, Generator.new Registry.java) := by
  have hbefore : Moment.Reached Registry.java (.done ()) (Moment.start Registry.java (.done ())) :=
    Relation.ReflTransGen.refl
  obtain ⟨rendered, hrender, hiff, hrefuses⟩ :=
    renders_iff_forall_wellFormed hbefore rfl (Model.root 0 (.method .constructor))
  refine ⟨hbefore, rfl, ?_⟩
  cases rendered with
  | error error => exact ⟨error, hrefuses error rfl, hrender⟩
  | ok text =>
      obtain ⟨owner, howner, -⟩ := hiff.mp ⟨text, rfl⟩ [] _ .root
      exact absurd howner List.not_mem_nil

end Java

end TableScribe
