/-
Indenting texts by levels of four spaces.
-/
import TableScribe.Text.Segments

namespace TableScribe.Text

/-- One level of indentation. -/
def indentStep : List Char := [' ', ' ', ' ', ' ']

/-- A line one level deeper; an empty line stays empty. -/
def indentLine (line : List Char) : List Char :=
  if line.isEmpty then [] else indentStep ++ line

/-- A text with its lines one level deeper, joined by line feeds. -/
def indentChars (text : List Char) : List Char :=
  join ['\n'] ((lines text).map indentLine)

def indent (text : String) : String :=
  String.ofList (indentChars text.toList)

end TableScribe.Text
