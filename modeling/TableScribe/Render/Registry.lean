/-
Registries of views.  A builder collects views, a later one for a kind
replacing an earlier one; a registry is what it yields once every kind has a
view.
-/
import TableScribe.Render.PerKind
import TableScribe.Render.View

namespace TableScribe

/-- One view for every kind, in the order of the kinds. -/
structure Registry where
  views : List View
  complete : views.length = Kind.all.length

namespace Registry

def get? (registry : Registry) (kind : Kind) : Option View :=
  registry.views[kind.index.val]?

def size (registry : Registry) : Nat := registry.views.length

def isEmpty (registry : Registry) : Bool := registry.views.isEmpty

def describe (registry : Registry) : String :=
  "ViewRegistry \x7b views: " ++ toString registry.size ++ " \x7d"

end Registry

/-- Why no registry is built. -/
inductive RegistryError
  /-- Kinds without a view. -/
  | missingViews (kinds : List Kind)
deriving DecidableEq, Repr

def RegistryError.message : RegistryError → String
  | missingViews kinds => "no view installed for kinds: " ++ Kind.nameList kinds

/-- The views collected so far, and the kinds whose view was replaced, in the
order of replacement. -/
structure RegistryBuilder where
  views : PerKind (Option View)
  overridden : List Kind

namespace RegistryBuilder

def empty : RegistryBuilder := ⟨PerKind.fill none, []⟩

def isInstalled (builder : RegistryBuilder) (kind : Kind) : Bool :=
  (builder.views.get kind).isSome

/-- Installs a view, in place of an earlier one for the kind. -/
def install (builder : RegistryBuilder) (kind : Kind) (view : View) : RegistryBuilder :=
  { views := builder.views.set kind (some view)
    overridden :=
      if builder.isInstalled kind then builder.overridden ++ [kind] else builder.overridden }

/-- Installs views one after the other. -/
def installAll (builder : RegistryBuilder) (entries : List (Kind × View)) : RegistryBuilder :=
  entries.foldl (fun builder entry => builder.install entry.1 entry.2) builder

def missing (builder : RegistryBuilder) : List Kind :=
  Kind.all.filter fun kind => !builder.isInstalled kind

/-- The views present, in the order of the kinds. -/
def present (builder : RegistryBuilder) : List View :=
  Kind.all.filterMap builder.views.get

/-- The registry of the views installed, if every kind has one. -/
def build (builder : RegistryBuilder) : Except RegistryError Registry :=
  if h : builder.present.length = Kind.all.length then
    .ok ⟨builder.present, h⟩
  else
    .error (.missingViews builder.missing)

end RegistryBuilder

end TableScribe
