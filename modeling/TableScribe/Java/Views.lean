/-
The default views: Java source for every kind of node.
-/
import TableScribe.Java.Declarations
import TableScribe.Java.Fragments
import TableScribe.Java.Members
import TableScribe.Java.Unit
import TableScribe.Render.Generator

namespace TableScribe

def Java.view : Kind → View
  | .file => fileView
  | .importLine => importView
  | .classDecl => classView
  | .interfaceDecl => interfaceView
  | .enumDecl => enumView
  | .constant => constantView
  | .annotationUse => annotationView
  | .javadoc => javadocView
  | .field => fieldView
  | .method => methodView
  | .typeRef => typeView
  | .value => valueView

def RegistryBuilder.installDefaults (builder : RegistryBuilder) : RegistryBuilder :=
  builder.installAll (Kind.all.map fun kind => (kind, Java.view kind))

def RegistryBuilder.java : RegistryBuilder := RegistryBuilder.empty.installDefaults

def Registry.java : Registry := ⟨Kind.all.map Java.view, rfl⟩

end TableScribe
