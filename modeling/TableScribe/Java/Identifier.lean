/-
Java identifiers for database names.  A name is cut into words at every
character that is neither letter nor number, and the words are joined in camel
case.
-/
import TableScribe.Unicode.Alphanumeric
import TableScribe.Unicode.LowerText

namespace TableScribe.Java

/-- The words no identifier may be. -/
def keywords : List String := [
  "abstract", "assert", "boolean", "break", "byte", "case", "catch", "char", "class", "const",
  "continue", "default", "do", "double", "else", "enum", "extends", "final", "finally", "float",
  "for", "goto", "if", "implements", "import", "instanceof", "int", "interface", "long", "native",
  "new", "package", "private", "protected", "public", "return", "short", "static", "strictfp",
  "super", "switch", "synchronized", "this", "throw", "throws", "transient", "try", "void",
  "volatile", "while", "true", "false", "null"]

/-- The runs of letters and numbers of a text, empty runs included. -/
def runs : List Char → List (List Char)
  | [] => [[]]
  | c :: rest =>
    if Unicode.isAlphanumeric c then
      match runs rest with
      | [] => [[c]]
      | head :: tail => (c :: head) :: tail
    else
      [] :: runs rest

/-- A word with a lower case letter as it is, any other word in lower case. -/
def normalizeWord (word : List Char) : List Char :=
  if word.any Unicode.isLowercase then word else Unicode.lowerAfter [] word

def words (name : List Char) : List (List Char) :=
  ((runs name).filter fun run => !run.isEmpty).map normalizeWord

def capitalize : List Char → List Char
  | [] => []
  | first :: rest => Unicode.upperCase first ++ rest

def decapitalize : List Char → List Char
  | [] => []
  | first :: rest => Unicode.lowerCase first ++ rest

/-- Whether a name cannot stand as it is: it is empty, starts with an ASCII
digit, or is a keyword. -/
def needsRepair (name : List Char) : Bool :=
  name.isEmpty || (name.head?.any Char.isDigit) || keywords.contains (String.ofList name)

/-- A name that can stand, with a low line in front where it could not. -/
def safeIdentifier (name : List Char) : List Char :=
  if needsRepair name then '_' :: name else name

/-- Words in camel case, the first one in lower case. -/
def lowerCamel : List (List Char) → List Char
  | [] => []
  | first :: rest => decapitalize first ++ rest.flatMap capitalize

def upperCamel (parts : List (List Char)) : List Char := parts.flatMap capitalize

/-- The name of a field or variable: `user_name` becomes `userName`. -/
def fieldName (name : String) : String :=
  String.ofList (safeIdentifier (lowerCamel (words name.toList)))

/-- The name of a type: `order_line` becomes `OrderLine`. -/
def typeName (name : String) : String :=
  String.ofList (safeIdentifier (upperCamel (words name.toList)))

end TableScribe.Java
