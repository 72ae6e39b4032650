/-
Plain nodes of source trees.  Their names, types and method bodies are plain, so
the comments and literals of such a node are those of the comments and texts in
it.
-/
import TableScribe.Proofs.Java.PlainText

namespace TableScribe.Java

/-- The literals of a value. -/
def valueNotes : Value → List Token
  | .text content => [.literal content.toList]
  | _ => []

def markNotes (mark : Annotation) : List Token :=
  (mark.value.toList.map valueNotes).flatten ++
    (mark.params.map fun param => valueNotes param.2).flatten

def fieldNotes (field : Field) : List Token := (field.annotations.map markNotes).flatten

def classNotes (head : ClassHead) : List Token :=
  (head.javadoc.toList.map fun javadoc => .comment (comment javadoc)) ++
    (head.annotations.map markNotes).flatten ++ (head.fields.map fieldNotes).flatten

/-- The comment and the literals of a declaration, as far as it is a class. -/
def declarationNotes : Declaration → List Token
  | .ofClass head _ => classNotes head
  | _ => []

def fileNotes (file : File) : List Token :=
  (file.javadoc.toList.map fun javadoc => .comment (comment javadoc)) ++
    (file.declarations.map declarationNotes).flatten

/-- The literals and comments of a node. -/
def notes : Node → List Token
  | .file file => fileNotes file
  | .declaration declaration => declarationNotes declaration
  | .annotationUse mark => markNotes mark
  | .javadoc javadoc => [.comment (comment javadoc)]
  | .field field => fieldNotes field
  | .value value => valueNotes value
  | _ => []

/-- A value is a text, or its literal is plain. -/
def PlainValue : Value → Prop
  | .text _ => True
  | value => ∀ source, literal value = .ok source → Plain source

/-- The name of an annotation and the keys of its values are plain. -/
structure PlainMark (mark : Annotation) : Prop where
  name : Plain mark.name
  value : ∀ value ∈ mark.value, PlainValue value
  keys : ∀ param ∈ mark.params, Plain param.1
  params : ∀ param ∈ mark.params, PlainValue param.2

/-- A type has a plain name and no arguments. -/
structure PlainType (type : TypeRef) : Prop where
  name : Plain type.name
  generics : type.generics = []

/-- A field has plain parts, and neither a comment nor an initializer. -/
structure PlainField (field : Field) : Prop where
  name : Plain field.name
  type : PlainType field.type
  value : field.value = none
  javadoc : field.javadoc = none
  annotations : ∀ mark ∈ field.annotations, PlainMark mark

/-- A method has plain parts, and neither a comment nor annotations.  It is not
a constructor and declares no exceptions. -/
structure PlainMethod (method : Method) : Prop where
  name : Plain method.name
  returns : PlainType method.returns
  isConstructor : method.isConstructor = false
  params : ∀ param ∈ method.params, PlainField param ∧ param.annotations = []
  throws : method.throws = []
  body : ∀ lines ∈ method.body, ∀ line ∈ lines, Plain line
  javadoc : method.javadoc = none
  annotations : method.annotations = []

/-- A class has plain members, and no type parameters, supertypes or
constructors. -/
structure PlainClass (head : ClassHead) : Prop where
  name : Plain head.name
  generics : head.generics = []
  parent : head.parent = none
  interfaces : head.interfaces = []
  fields : ∀ field ∈ head.fields, PlainField field
  constructors : head.constructors = []
  methods : ∀ method ∈ head.methods, PlainMethod method
  annotations : ∀ mark ∈ head.annotations, PlainMark mark

/-- A file has a plain package, plain imports and plain classes. -/
structure PlainFile (file : File) : Prop where
  package : ∀ name ∈ file.package, Plain name
  imports : ∀ line ∈ file.imports, Plain line.path
  declarations : ∀ declaration ∈ file.declarations,
    ∃ head, PlainClass head ∧ declaration = .ofClass head []

theorem PlainMark.withParam {mark : Annotation} (hmark : PlainMark mark) {key : String}
    {value : Value} (hkey : Plain key) (hvalue : PlainValue value) :
    PlainMark (mark.withParam key value) where
  name := hmark.name
  value := hmark.value
  keys := by
    intro param hparam
    rcases List.mem_append.mp hparam with hold | hnew
    · exact hmark.keys param hold
    · rw [List.mem_singleton.mp hnew]
      exact hkey
  params := by
    intro param hparam
    rcases List.mem_append.mp hparam with hold | hnew
    · exact hmark.params param hold
    · rw [List.mem_singleton.mp hnew]
      exact hvalue

theorem PlainField.plain {name : String} {type : TypeRef} (hname : Plain name)
    (htype : PlainType type) : PlainField (.plain name type) :=
  ⟨hname, htype, rfl, rfl, nofun⟩

namespace PlainMethod

variable {method : Method}

theorem plain {name : String} {returns : TypeRef} (hname : Plain name)
    (hreturns : PlainType returns) : PlainMethod (.plain name returns) where
  name := hname
  returns := hreturns
  isConstructor := rfl
  params := nofun
  throws := rfl
  body := by
    rintro lines ⟨⟩
    exact nofun
  javadoc := rfl
  annotations := rfl

theorem withModifier (hmethod : PlainMethod method) (modifier : Modifier) :
    PlainMethod (method.withModifier modifier) :=
  ⟨hmethod.name, hmethod.returns, hmethod.isConstructor, hmethod.params, hmethod.throws,
    hmethod.body, hmethod.javadoc, hmethod.annotations⟩

/-- A method stays plain with a further parameter that is plain and has no
annotations. -/
theorem withParam (hmethod : PlainMethod method) {param : Field} (hparam : PlainField param)
    (hannotations : param.annotations = []) : PlainMethod (method.withParam param) := by
  refine ⟨hmethod.name, hmethod.returns, hmethod.isConstructor, ?_, hmethod.throws, hmethod.body,
    hmethod.javadoc, hmethod.annotations⟩
  intro other hother
  rcases List.mem_append.mp hother with hold | hnew
  · exact hmethod.params other hold
  · rw [List.mem_singleton.mp hnew]
    exact ⟨hparam, hannotations⟩

theorem withLine (hmethod : PlainMethod method) {line : String} (hline : Plain line) :
    PlainMethod (method.withLine line) := by
  refine ⟨hmethod.name, hmethod.returns, hmethod.isConstructor, hmethod.params, hmethod.throws, ?_,
    hmethod.javadoc, hmethod.annotations⟩
  rintro lines ⟨⟩ other hother
  rcases List.mem_append.mp hother with hold | hnew
  · cases hbody : method.body with
    | none => simp [hbody] at hold
    | some old => exact hmethod.body old hbody other (by simpa [hbody] using hold)
  · rw [List.mem_singleton.mp hnew]
    exact hline

end PlainMethod

theorem noComment_valueNotes (value : Value) : NoComment (valueNotes value) := by
  intro source hsource
  cases value <;> simp [valueNotes] at hsource

theorem noComment_append {front rest : List Token} (hfront : NoComment front)
    (hrest : NoComment rest) : NoComment (front ++ rest) := by
  intro source hsource
  exact (List.mem_append.mp hsource).elim (hfront source) (hrest source)

theorem noComment_flatten_map {α : Type} {f : α → List Token} (hf : ∀ item, NoComment (f item))
    (items : List α) : NoComment (items.map f).flatten := by
  intro source hsource
  obtain ⟨part, hpart, hmem⟩ := List.mem_flatten.mp hsource
  obtain ⟨item, -, rfl⟩ := List.mem_map.mp hpart
  exact hf item source hmem

theorem noComment_markNotes (mark : Annotation) : NoComment (markNotes mark) :=
  noComment_append (noComment_flatten_map noComment_valueNotes _)
    (noComment_flatten_map (fun param : String × Value => noComment_valueNotes param.2) _)

theorem noComment_fieldNotes (field : Field) : NoComment (fieldNotes field) :=
  noComment_flatten_map noComment_markNotes field.annotations

end TableScribe.Java
