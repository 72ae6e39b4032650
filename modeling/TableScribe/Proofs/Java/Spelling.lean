/-
The texts of type references and annotations.  Each is made of a name, written
in full or in short, and of the texts of the children.
-/
import TableScribe.Proofs.Java.Writing
import TableScribe.Proofs.Model.SimpleName

namespace TableScribe

/-- The name of the type that a reference or an annotation means. -/
def Node.referredName? : Node → Option String
  | .typeRef type => some type.name
  | .annotationUse mark => some mark.name
  | _ => none

namespace Java

/-- A reference to a type with its name written in a given way. -/
def typeText (type : TypeRef) (name : String) (arguments : List String) : String :=
  if type.generics.isEmpty then name ++ brackets type.dims
  else name ++ "<" ++ ViewM.joinNonEmpty ", " arguments ++ ">" ++ brackets type.dims

/-- The arguments of an annotation, from the texts of its values. -/
def argumentTexts (mark : Annotation) (unnamed values : List String) : List String :=
  (if mark.params.isEmpty then unnamed else unnamed.map ("value = " ++ ·)) ++
    List.zipWith namedArgument mark.params values

/-- The text of a reference or an annotation inside given models, with its name
written in a given way. -/
def spelling (above : List Model) (model : Model) (name : String) : Rendered :=
  let texts (part : Part) := (model.children part).mapM (Registry.java.text (model :: above))
  match model.node with
  | .typeRef type => return typeText type name (← texts .generics)
  | .annotationUse mark =>
    return annotationText name (argumentTexts mark (← texts .value) (← texts .params))
  | _ => .error (.mismatch .typeRef model.kind)

/-- The name can be read off the text of a type. -/
theorem typeText_injective {type : TypeRef} {arguments : List String} {first second : String}
    (htext : typeText type first arguments = typeText type second arguments) :
    first = second := by
  unfold typeText at htext
  split at htext
  · simpa using htext
  · simpa [String.append_assoc] using htext

theorem annotationText_injective {arguments : List String} {first second : String}
    (htext : annotationText first arguments = annotationText second arguments) :
    first = second := by
  unfold annotationText at htext
  split at htext
  · simpa using htext
  · simpa [String.append_assoc] using htext

/-- Names that are written differently give different texts. -/
theorem spelling_injective {above : List Model} {model : Model} {first second text : String}
    (hfirst : spelling above model first = .ok text)
    (hsecond : spelling above model second = .ok text) : first = second := by
  unfold spelling at hfirst hsecond
  cases hnode : model.node with
  | typeRef type =>
      simp only [hnode, Except.bind_eq_ok_iff] at hfirst hsecond
      obtain ⟨arguments, harguments, htext⟩ := hfirst
      obtain ⟨others, hothers, hother⟩ := hsecond
      obtain rfl : arguments = others := Except.ok.inj (harguments.symm.trans hothers)
      exact typeText_injective (Except.ok.inj (htext.trans hother.symm))
  | annotationUse mark =>
      simp only [hnode, Except.bind_eq_ok_iff] at hfirst hsecond
      obtain ⟨unnamed, hunnamed, values, hvalues, htext⟩ := hfirst
      obtain ⟨unnamed', hunnamed', values', hvalues', hother⟩ := hsecond
      obtain rfl : unnamed = unnamed' := Except.ok.inj (hunnamed.symm.trans hunnamed')
      obtain rfl : values = values' := Except.ok.inj (hvalues.symm.trans hvalues')
      exact annotationText_injective (Except.ok.inj (htext.trans hother.symm))
  | _ => simp [hnode] at hfirst

/-- A type is spelled with its name as printed. -/
theorem text_typeRef {above : List Model} {model : Model} {type : TypeRef}
    (hnode : model.node = .typeRef type) (hname : type.name ≠ "") :
    Registry.java.text above model = spelling above model (printedName above type.name) := by
  have hkind : model.kind = .typeRef := congrArg Node.kind hnode
  have hprinted : printedName (model :: above) = printedName above :=
    printedName_cons (by simp [hkind]) (by simp [hkind, Kind.declarations]) above
  rw [Registry.text_eq java_descends (get?_java model.kind), hkind]
  by_cases hgenerics : type.generics = []
  · have hchildren : model.children .generics = [] := by
      simp [Model.children, Node.children, hnode, hgenerics]
    simp [view, typeView, spelling, typeText, hnode, Node.typeRef?, hname, hgenerics,
      eval_visibleName, hprinted, hchildren, String.isEmpty_iff]
    rfl
  · simp [view, typeView, spelling, typeText, hnode, Node.typeRef?, hname, hgenerics,
      eval_visibleName, hprinted, String.isEmpty_iff, Registry.reply]

/-- An annotation is spelled with its name as printed. -/
theorem text_annotationUse {above : List Model} {model : Model} {mark : Annotation}
    (hnode : model.node = .annotationUse mark) (hname : printedName above mark.name ≠ "") :
    Registry.java.text above model = spelling above model (printedName above mark.name) := by
  have hkind : model.kind = .annotationUse := congrArg Node.kind hnode
  have hprinted : printedName (model :: above) = printedName above :=
    printedName_cons (by simp [hkind]) (by simp [hkind, Kind.declarations]) above
  rw [Registry.text_eq java_descends (get?_java model.kind), hkind]
  simp [view, annotationView, spelling, argumentTexts, hnode, Node.annotationUse?, hname,
    eval_visibleName, hprinted, String.isEmpty_iff, Registry.reply]

theorem text_value {above : List Model} {model : Model} {value : Value}
    (hnode : model.node = .value value) : Registry.java.text above model = literal value := by
  have hkind : model.kind = .value := congrArg Node.kind hnode
  rw [Registry.text_eq java_descends (get?_java model.kind), hkind]
  simp [view, valueView, hnode, Node.value?]

/-- A reference or an annotation that has a text has its name written as the
place asks for. -/
theorem text_of_referredName? {above : List Model} {model : Model} {name text : String}
    (hname : model.node.referredName? = some name)
    (htext : Registry.java.text above model = .ok text) :
    spelling above model (printedName above name) = .ok text := by
  have hsound := ((exists_text_iff above model).mp ⟨text, htext⟩).1
  unfold Sound at hsound
  cases hnode : model.node with
  | typeRef type =>
      obtain rfl : type.name = name := by simpa [hnode, Node.referredName?] using hname
      simp only [hnode] at hsound
      rw [← text_typeRef hnode hsound, htext]
  | annotationUse mark =>
      obtain rfl : mark.name = name := by simpa [hnode, Node.referredName?] using hname
      simp only [hnode] at hsound
      rw [← text_annotationUse hnode hsound, htext]
  | _ => simp [hnode, Node.referredName?] at hname

/-- A qualified name is written in full where its last segment is taken, and in
short elsewhere. -/
theorem spelling_full_or_short {above : List Model} {model : Model} {name text : String}
    (hname : model.node.referredName? = some name) (hdot : '.' ∈ name.toList)
    (htext : Registry.java.text above model = .ok text) :
    (spelling above model name = .ok text ↔ takes above (simpleName name) = true) ∧
      (spelling above model (simpleName name) = .ok text ↔
        takes above (simpleName name) = false) := by
  have hspelling := text_of_referredName? hname htext
  have hne : simpleName name ≠ name := fun hself => simpleName_eq_self_iff.mp hself hdot
  cases htakes : takes above (simpleName name) with
  | true =>
      simp only [printedName, htakes, if_true] at hspelling
      have hshort : spelling above model (simpleName name) ≠ .ok text :=
        fun hshort => hne (spelling_injective hshort hspelling)
      simp [hspelling, hshort]
  | false =>
      simp only [printedName, htakes, Bool.false_eq_true, if_false] at hspelling
      have hfull : spelling above model name ≠ .ok text :=
        fun hfull => hne (spelling_injective hspelling hfull)
      simp [hspelling, hfull]

end Java

end TableScribe
