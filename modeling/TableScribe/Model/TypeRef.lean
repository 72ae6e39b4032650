/-
References to types, with generic arguments and array dimensions.
-/
import TableScribe.Text.Segments

namespace TableScribe

/-- The part of a dotted name after the last dot; all of it if there is none. -/
def simpleName (name : String) : String :=
  match Text.splitLast '.' name.toList with
  | some (_, simple) => String.ofList simple
  | none => name

/-- The part of a dotted name before the last dot. -/
def qualifier? (name : String) : Option String :=
  (Text.splitLast '.' name.toList).map fun parts => String.ofList parts.1

/-- A reference to a type.  The name is qualified or simple. -/
structure TypeRef where
  name : String
  generics : List TypeRef
  dims : Nat
deriving Inhabited

namespace TypeRef

def named (name : String) : TypeRef := ⟨name, [], 0⟩

def void : TypeRef := named "void"

def array (type : TypeRef) : TypeRef :=
  { type with dims := type.dims + 1 }

/-- Whether a file of another package has to import the type: a qualified
name outside `java.lang` has to be. -/
def needsImport (type : TypeRef) : Bool :=
  match qualifier? type.name with
  | some package => package != "java.lang"
  | none => false

mutual

/-- The type followed by its arguments, theirs, and so on, in reading order. -/
def referenced : TypeRef → List TypeRef
  | ⟨name, generics, dims⟩ => ⟨name, generics, dims⟩ :: referencedAll generics

def referencedAll : List TypeRef → List TypeRef
  | [] => []
  | type :: rest => type.referenced ++ referencedAll rest

end

mutual

/-- The number of levels of a type: one more than its deepest argument has. -/
def height : TypeRef → Nat
  | ⟨_, generics, _⟩ => heightAll generics + 1

def heightAll : List TypeRef → Nat
  | [] => 0
  | type :: rest => max type.height (heightAll rest)

end

mutual

/-- Equality of names, arguments and dimensions at every level. -/
def same : TypeRef → TypeRef → Bool
  | ⟨name, generics, dims⟩, ⟨name', generics', dims'⟩ =>
    name == name' && dims == dims' && sameAll generics generics'

def sameAll : List TypeRef → List TypeRef → Bool
  | [], [] => true
  | type :: rest, type' :: rest' => type.same type' && sameAll rest rest'
  | _, _ => false

end

instance : BEq TypeRef := ⟨same⟩

end TypeRef

end TableScribe
