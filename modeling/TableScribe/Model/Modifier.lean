/-
Declaration modifiers and the order in which they are written.
-/
namespace TableScribe

inductive Modifier
  | isPublic
  | isProtected
  | isPrivate
  | isAbstract
  | isDefault
  | isStatic
  | isFinal
  | isTransient
  | isVolatile
  | isSynchronized
deriving DecidableEq, Repr

namespace Modifier

/-- Every modifier, in the conventional order. -/
def all : List Modifier :=
  [isPublic, isProtected, isPrivate, isAbstract, isDefault, isStatic, isFinal, isTransient,
    isVolatile, isSynchronized]

def keyword : Modifier → String
  | isPublic => "public"
  | isProtected => "protected"
  | isPrivate => "private"
  | isAbstract => "abstract"
  | isDefault => "default"
  | isStatic => "static"
  | isFinal => "final"
  | isTransient => "transient"
  | isVolatile => "volatile"
  | isSynchronized => "synchronized"

def ofKeyword? (word : String) : Option Modifier :=
  all.find? fun modifier => modifier.keyword == word

/-- The modifiers of a list in conventional order, each once. -/
def arrange (modifiers : List Modifier) : List Modifier :=
  all.filter fun modifier => modifiers.contains modifier

/-- The text of a list of modifiers: each keyword followed by a space. -/
def render (modifiers : List Modifier) : String :=
  String.join ((arrange modifiers).map fun modifier => modifier.keyword ++ " ")

end Modifier

end TableScribe
