/-
The kinds of nodes a source tree is made of.
-/
import TableScribe.Unicode.LowerText

namespace TableScribe

/-- The closed set of node kinds. -/
inductive Kind
  | file
  | importLine
  | classDecl
  | interfaceDecl
  | enumDecl
  | constant
  | annotationUse
  | javadoc
  | field
  | method
  | typeRef
  | value
deriving DecidableEq, Repr, Inhabited

namespace Kind

/-- Every kind, in the order in which kinds are listed everywhere. -/
def all : List Kind :=
  [file, importLine, classDecl, interfaceDecl, enumDecl, constant, annotationUse, javadoc, field,
    method, typeRef, value]

/-- The kinds that declare a type and own members. -/
def declarations : List Kind := [classDecl, interfaceDecl, enumDecl]

def index : Kind → Fin 12
  | file => 0
  | importLine => 1
  | classDecl => 2
  | interfaceDecl => 3
  | enumDecl => 4
  | constant => 5
  | annotationUse => 6
  | javadoc => 7
  | field => 8
  | method => 9
  | typeRef => 10
  | value => 11

theorem index_injective {a b : Kind} (hindex : a.index = b.index) : a = b := by
  cases a <;> cases b <;> first | rfl | simp [index] at hindex

def name : Kind → String
  | file => "file"
  | importLine => "import"
  | classDecl => "class"
  | interfaceDecl => "interface"
  | enumDecl => "enum"
  | constant => "constant"
  | annotationUse => "annotation"
  | javadoc => "javadoc"
  | field => "field"
  | method => "method"
  | typeRef => "type"
  | value => "value"

/-- The kind with a given name, in any letter case. -/
def ofName? (text : String) : Option Kind :=
  all.find? fun kind => kind.name == Unicode.lowerText text

def unknownMessage (text : String) : String :=
  "unknown model kind: " ++ text

def nameList (kinds : List Kind) : String :=
  String.intercalate ", " (kinds.map name)

end Kind

end TableScribe
