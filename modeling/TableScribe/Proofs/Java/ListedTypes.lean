/-
Lists of types: the arguments of a type and what follows `extends`, `implements` and
`throws`.  A list is printed without the types whose text is empty, and the text of a type
is empty if its name ends in a dot and nothing follows the name.
-/
import TableScribe.Proofs.Java.TypeText

namespace TableScribe

namespace Java

/-- Nothing is printed for a type: its name has an empty last segment, the empty name is
not taken, and there are no arguments and no brackets. -/
def Vanishes (above : List Model) (type : TypeRef) : Prop :=
  simpleName type.name = "" ∧ takes above "" = false ∧ type.generics = [] ∧ type.dims = 0

/-- The texts that are printed for a list of types. -/
def entries (above : List Model) (types : List TypeRef) : List String :=
  (types.map (TypeRef.written (printedName above))).filter fun text => !text.isEmpty

section

variable {above : List Model}

theorem printedName_eq_empty_iff {name : String} (hname : name ≠ "") :
    printedName above name = "" ↔ simpleName name = "" ∧ takes above "" = false := by
  unfold printedName
  cases htakes : takes above (simpleName name) with
  | true =>
      simp only [if_true, hname, false_iff, not_and]
      rintro hsimple
      rw [← hsimple, htakes]
      decide
  | false =>
      simp only [Bool.false_eq_true, if_false]
      exact ⟨fun hsimple => ⟨hsimple, hsimple ▸ htakes⟩, And.left⟩

theorem brackets_eq_empty_iff {dims : Nat} : brackets dims = "" ↔ dims = 0 := by
  cases dims with
  | zero => simp [brackets]
  | succ dims => simp [brackets, List.replicate_succ, String.join_cons, String.append_eq_empty_iff]

theorem written_eq_empty_iff {type : TypeRef} (hname : type.name ≠ "") :
    type.written (printedName above) = "" ↔ Vanishes above type := by
  rw [TypeRef.written_eq, typeText, Vanishes]
  by_cases hgenerics : type.generics = []
  · simp [hgenerics, String.append_eq_empty_iff, printedName_eq_empty_iff hname,
      brackets_eq_empty_iff, and_assoc]
  · simp [hgenerics, String.append_eq_empty_iff]

/-- A list is printed in full exactly if nothing in it vanishes. -/
theorem length_entries_eq_iff {types : List TypeRef} (hnamed : ∀ type ∈ types, type.name ≠ "") :
    (entries above types).length = types.length ↔ ∀ type ∈ types, ¬ Vanishes above type := by
  rw [entries, ← List.length_map (TypeRef.written (printedName above)),
    List.length_filter_eq_length_iff, List.forall_mem_map]
  refine forall₂_congr fun type htype => ?_
  simp [written_eq_empty_iff (hnamed type htype)]

/-- No list in the trees of some types is short of an entry exactly if no type vanishes. -/
theorem entries_complete_iff {types : List TypeRef}
    (hnamed : ∀ inner ∈ TypeRef.referencedAll types, inner.name ≠ "") :
    ((entries above types).length = types.length ∧
        ∀ inner ∈ TypeRef.referencedAll types,
          (entries above inner.generics).length = inner.generics.length) ↔
      ∀ inner ∈ TypeRef.referencedAll types, ¬ Vanishes above inner := by
  obtain ⟨htypes, harguments⟩ := TypeRef.forall_mem_referencedAll_iff_generics.mp hnamed
  rw [length_entries_eq_iff htypes,
    forall₂_congr fun inner hinner => length_entries_eq_iff (harguments inner hinner)]
  exact TypeRef.forall_mem_referencedAll_iff_generics.symm

end

section

variable {stack models : List Model} {types : List TypeRef} {separator : String}

theorem requests_renderAll {answer : (query : Query) → query.Answer} :
    (ViewM.renderAll models separator).Requests answer fun call =>
      ∃ model ∈ models, call = .render model :=
  .bind (.mapM_render fun model hmodel => ⟨model, hmodel, rfl⟩) fun _ => .pure _

theorem renderAll_enterAll_java :
    ((Generator.new Registry.java).enterAll stack).renderAll models separator =
      some (ViewM.joinNonEmpty separator <$> models.mapM (Registry.java.text stack),
        (Generator.new Registry.java).enterAll stack) := by
  rw [Generator.renderAll, Generator.perform_enterAll_new java_descends requests_renderAll,
    ViewM.eval_renderAll]
  rfl

/-- In a list of types that is rendered, every type has a name. -/
theorem named_of_renderAll {text : String} {after : Generator}
    (hnodes : models.map Model.node = types.map .typeRef)
    (hrender : ((Generator.new Registry.java).enterAll stack).renderAll models separator =
      some (.ok text, after)) :
    ∀ inner ∈ TypeRef.referencedAll types, inner.name ≠ "" := by
  rw [renderAll_enterAll_java] at hrender
  obtain ⟨htext, -⟩ := Prod.mk.inj (Option.some.inj hrender)
  obtain ⟨texts, htexts, -⟩ := Except.map_eq_ok_iff.mp htext
  rw [TypeRef.forall_mem_referencedAll_iff]
  intro type htype
  obtain ⟨model, hmodel, hnode⟩ := exists_model_of_mem hnodes htype
  exact named_of_text hnode (exists_mapM_eq_ok_iff.mp ⟨texts, htexts⟩ model hmodel)

/-- How a list of types is printed while some models are being rendered. -/
structure PrintsTypes (stack models : List Model) (types : List TypeRef) (generator : Generator) :
    Prop where
  /-- The types one by one. -/
  alone : List.Forall₂ (fun model type => generator.render model =
    some (.ok (type.written (printedName stack)), generator)) models types
  list : ∀ separator, generator.renderAll models separator =
    some (.ok (separator.intercalate (entries stack types)), generator)
  /-- What stands after a keyword, such as `implements`. -/
  clause : ∀ keyword, types ≠ [] → generator.perform models (typeClause keyword models) =
    some (.ok (keyword ++ ", ".intercalate (entries stack types)), generator)
  /-- Between the angle brackets of a type stand the entries of its arguments. -/
  arguments : ∀ inner ∈ TypeRef.referencedAll types, inner.written (printedName stack) =
    printedName stack inner.name ++
      (if inner.generics = [] then "" else
        "<" ++ ", ".intercalate (entries stack inner.generics) ++ ">") ++ brackets inner.dims
  /-- No list in the trees of the types is short of an entry exactly if no type vanishes. -/
  complete_iff : ((entries stack types).length = types.length ∧
      ∀ inner ∈ TypeRef.referencedAll types,
        (entries stack inner.generics).length = inner.generics.length) ↔
    ∀ inner ∈ TypeRef.referencedAll types, ¬ Vanishes stack inner

theorem prints_types (hnodes : models.map Model.node = types.map .typeRef)
    (hnamed : ∀ inner ∈ TypeRef.referencedAll types, inner.name ≠ "") :
    PrintsTypes stack models types ((Generator.new Registry.java).enterAll stack) := by
  have htext (type : TypeRef) (htype : type ∈ types) (model : Model)
      (hnode : model.node = .typeRef type) :
      Registry.java.text stack model = .ok (type.written (printedName stack)) :=
    text_eq_written hnode (TypeRef.forall_mem_referencedAll_iff.mp hnamed type htype)
  have htexts := mapM_text_typeRefs hnodes htext
  have hlist (separator : String) :
      ((Generator.new Registry.java).enterAll stack).renderAll models separator =
        some (.ok (separator.intercalate (entries stack types)),
          (Generator.new Registry.java).enterAll stack) := by
    rw [renderAll_enterAll_java, htexts]
    rfl
  refine ⟨?_, hlist, ?_, ?_, entries_complete_iff hnamed⟩
  · have hpairs := mapM_eq_ok_iff.mp htexts
    rw [List.forall₂_map_right_iff] at hpairs
    refine hpairs.imp fun model type htype => ?_
    rw [Generator.render_enterAll_new java_descends, htype]
  · intro keyword htypes
    have hmodels : models.isEmpty = false := by
      rw [List.isEmpty_eq_false_iff]
      rintro rfl
      exact htypes (by simpa [eq_comm] using hnodes)
    have hclause : typeClause keyword models = do
        let names ← ViewM.renderAll models ", "
        return keyword ++ names := by
      rw [typeClause, hmodels]
      rfl
    rw [hclause, Generator.perform_enterAll_new java_descends
      (requests_renderAll.bind fun _ => .pure _), ViewM.eval_bind, ViewM.eval_renderAll]
    change some (((_ <$> models.mapM (Registry.java.text stack)) >>= _), _) = _
    rw [htexts]
    rfl
  · intro inner _
    rw [TypeRef.written_eq, typeText]
    by_cases hgenerics : inner.generics = []
    · simp [hgenerics]
    · simp [hgenerics, entries, ViewM.joinNonEmpty, String.append_assoc]

end

variable {α : Type}

/-- Lists of types that are rendered are printed without the types that vanish. -/
theorem type_lists_complete_iff {driver : Program α} {moment : Moment α}
    (hreached : Moment.Reached Registry.java driver moment) {models : List Model}
    {types : List TypeRef} (hnodes : models.map Model.node = types.map .typeRef)
    {separator text : String} {after : Generator}
    (hrender : moment.generator.renderAll models separator = some (.ok text, after)) :
    text = separator.intercalate (entries moment.stack types) ∧
      PrintsTypes moment.stack models types moment.generator := by
  rw [Moment.generator_of_reached hreached] at hrender ⊢
  have hprints := @prints_types moment.stack _ _ hnodes (named_of_renderAll hnodes hrender)
  have hlist := hprints.list separator
  rw [hrender] at hlist
  obtain ⟨htext, -⟩ := Prod.mk.inj (Option.some.inj hlist)
  exact ⟨Except.ok.inj htext, hprints⟩

namespace TypeLists

/-- Two types with arguments and brackets at different levels. -/
def types : List TypeRef :=
  [⟨"java.util.Map",
      [.named "java.lang.String", ⟨"java.util.List", [.array (.named "int")], 0⟩], 0⟩,
    .array (.named "byte")]

def models : List Model := types.map fun type => Model.root 0 (.typeRef type)

end TypeLists

theorem nested_type_lists_complete :
    Moment.Reached Registry.java (.done ()) (Moment.start Registry.java (.done ())) ∧
      TypeLists.models.map Model.node = TypeLists.types.map .typeRef ∧
      (Generator.new Registry.java).renderAll TypeLists.models ", " =
        some (.ok "Map<String, List<int[]>>, byte[]", Generator.new Registry.java) ∧
      (entries [] TypeLists.types).length = 2 ∧
      ∀ inner ∈ TypeRef.referencedAll TypeLists.types,
        (entries [] inner.generics).length = inner.generics.length := by
  have hreached : Moment.Reached Registry.java (.done ()) (Moment.start Registry.java (.done ())) :=
    Relation.ReflTransGen.refl
  have hnodes : TypeLists.models.map Model.node = TypeLists.types.map .typeRef := rfl
  have hrender : (Generator.new Registry.java).renderAll TypeLists.models ", " =
      some (.ok "Map<String, List<int[]>>, byte[]", Generator.new Registry.java) := by
    have hlist := @renderAll_enterAll_java [] TypeLists.models ", "
    rw [Generator.enterAll_nil] at hlist
    rw [hlist]
    rfl
  obtain ⟨-, hprints⟩ := type_lists_complete_iff hreached hnodes hrender
  have hlast : ∀ inner ∈ TypeRef.referencedAll TypeLists.types, simpleName inner.name ≠ "" := by
    decide
  obtain ⟨htypes, harguments⟩ :=
    hprints.complete_iff.mpr fun inner hinner hvanishes => hlast inner hinner hvanishes.1
  exact ⟨hreached, hnodes, hrender, htypes, harguments⟩

/-- An argument whose name ends in a dot leaves no entry. -/
theorem argument_ending_in_dot_left_out :
    (Generator.new Registry.java).render
        (Model.root 0 (.typeRef ⟨"Map", [.named "a.", .named "b"], 0⟩)) =
      some (.ok "Map<b>", Generator.new Registry.java) ∧
    TypeRef.written (printedName []) (.named "a.") = "" ∧
    (entries [] [.named "a.", .named "b"]).length = 1 := by
  refine ⟨?_, by decide, by decide⟩
  rw [Generator.render_new java_descends]
  rfl

end Java

end TableScribe
