/-
Fields, parameters, methods and constructors.
-/
import TableScribe.Model.Fragment
import TableScribe.Model.Modifier
import TableScribe.Model.TypeRef

namespace TableScribe

/-- A field or a method parameter. -/
structure Field where
  name : String
  type : TypeRef
  modifiers : List Modifier
  /-- The initializer. -/
  value : Option Value
  javadoc : Option Javadoc
  annotations : List Annotation
deriving BEq, Inhabited

namespace Field

def plain (name : String) (type : TypeRef) : Field := ⟨name, type, [], none, none, []⟩

def withModifier (field : Field) (modifier : Modifier) : Field :=
  { field with modifiers := field.modifiers ++ [modifier] }

def withAnnotation (field : Field) (mark : Annotation) : Field :=
  { field with annotations := field.annotations ++ [mark] }

end Field

/-- A method or a constructor. -/
structure Method where
  name : String
  returns : TypeRef
  isConstructor : Bool
  modifiers : List Modifier
  params : List Field
  throws : List TypeRef
  /-- The lines of the body, unindented; none for a declaration without body. -/
  body : Option (List String)
  javadoc : Option Javadoc
  annotations : List Annotation
deriving BEq, Inhabited

namespace Method

/-- A method with an empty body. -/
def plain (name : String) (returns : TypeRef) : Method :=
  ⟨name, returns, false, [], [], [], some [], none, []⟩

/-- A constructor with an empty body.  It is written with the name of the
declaration around it, so its own name is a placeholder. -/
def constructor : Method :=
  { plain "<init>" TypeRef.void with isConstructor := true }

def withModifier (method : Method) (modifier : Modifier) : Method :=
  { method with modifiers := method.modifiers ++ [modifier] }

def withParam (method : Method) (param : Field) : Method :=
  { method with params := method.params ++ [param] }

def withThrows (method : Method) (type : TypeRef) : Method :=
  { method with throws := method.throws ++ [type] }

/-- Appends a body line; a method without a body gets one. -/
def withLine (method : Method) (line : String) : Method :=
  { method with body := some (method.body.getD [] ++ [line]) }

def withoutBody (method : Method) : Method :=
  { method with body := none }

def withJavadoc (method : Method) (javadoc : Javadoc) : Method :=
  { method with javadoc := some javadoc }

def withAnnotation (method : Method) (mark : Annotation) : Method :=
  { method with annotations := method.annotations ++ [mark] }

end Method

end TableScribe
