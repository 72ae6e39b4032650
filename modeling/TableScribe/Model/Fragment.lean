/-
The small pieces of a source tree: literal values, annotations and
documentation comments.
-/
import TableScribe.Decimal.Binary64

namespace TableScribe

open Decimal (Binary64)

inductive Value
  /-- A string; quoted and escaped when written. -/
  | text (content : String)
  | int (number : Int64)
  | float (number : Binary64)
  | bool (flag : Bool)
  | null
  /-- Source text written as it is, such as `Status.ACTIVE`. -/
  | verbatim (source : String)
deriving BEq, Inhabited

structure Annotation where
  /-- The name of the annotation type, simple or qualified. -/
  name : String
  /-- The single unnamed value. -/
  value : Option Value
  /-- Named values, in order. -/
  params : List (String × Value)
deriving BEq, Inhabited

namespace Annotation

def named (name : String) : Annotation := ⟨name, none, []⟩

def withParam (mark : Annotation) (key : String) (value : Value) : Annotation :=
  { mark with params := mark.params ++ [(key, value)] }

end Annotation

/-- A tag line of a documentation comment, such as `@param id the key`. -/
structure JavadocTag where
  name : String
  text : String
deriving BEq, Inhabited

/-- A documentation comment: free text, then tags. -/
structure Javadoc where
  text : String
  tags : List JavadocTag
deriving BEq, Inhabited

def Javadoc.ofText (text : String) : Javadoc := ⟨text, []⟩

end TableScribe
