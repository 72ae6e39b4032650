/-
Classes, interfaces and enums, nested in each other to any depth.
-/
import TableScribe.Model.Member

namespace TableScribe

/-- One constant of an enum, with its constructor arguments. -/
structure Constant where
  name : String
  values : List Value
deriving BEq, Inhabited

/-- A class without the declarations nested in it. -/
structure ClassHead where
  name : String
  modifiers : List Modifier
  /-- Generic parameters, such as `T extends Comparable<T>`. -/
  generics : List String
  parent : Option TypeRef
  interfaces : List TypeRef
  fields : List Field
  constructors : List Method
  methods : List Method
  javadoc : Option Javadoc
  annotations : List Annotation
deriving BEq, Inhabited

/-- A class with nothing but a name. -/
def ClassHead.named (name : String) : ClassHead := ⟨name, [], [], none, [], [], [], [], none, []⟩

/-- An interface without the declarations nested in it. -/
structure InterfaceHead where
  name : String
  modifiers : List Modifier
  generics : List String
  parents : List TypeRef
  fields : List Field
  methods : List Method
  javadoc : Option Javadoc
  annotations : List Annotation
deriving BEq, Inhabited

/-- An enum without the declarations nested in it. -/
structure EnumHead where
  name : String
  modifiers : List Modifier
  interfaces : List TypeRef
  constants : List Constant
  fields : List Field
  constructors : List Method
  methods : List Method
  javadoc : Option Javadoc
  annotations : List Annotation
deriving BEq, Inhabited

/-- A type declaration with the declarations nested in it. -/
inductive Declaration
  | ofClass (head : ClassHead) (nested : List Declaration)
  | ofInterface (head : InterfaceHead) (nested : List Declaration)
  | ofEnum (head : EnumHead) (nested : List Declaration)
deriving Inhabited

namespace Declaration

def name : Declaration → String
  | ofClass head _ => head.name
  | ofInterface head _ => head.name
  | ofEnum head _ => head.name

def nested : Declaration → List Declaration
  | ofClass _ nested => nested
  | ofInterface _ nested => nested
  | ofEnum _ nested => nested

mutual

def same : Declaration → Declaration → Bool
  | ofClass head nested, ofClass head' nested' => head == head' && sameAll nested nested'
  | ofInterface head nested, ofInterface head' nested' => head == head' && sameAll nested nested'
  | ofEnum head nested, ofEnum head' nested' => head == head' && sameAll nested nested'
  | _, _ => false

def sameAll : List Declaration → List Declaration → Bool
  | [], [] => true
  | declaration :: rest, declaration' :: rest' =>
    declaration.same declaration' && sameAll rest rest'
  | _, _ => false

end

instance : BEq Declaration := ⟨same⟩

end Declaration

end TableScribe
