/-
Cutting texts at a mark and into lines.  Everything here works on lists of
characters by recursion on the list.
-/
namespace TableScribe.Text

/-- The pieces of a text between the occurrences of a mark; one more than
there are marks. -/
def segments (mark : Char) : List Char → List (List Char)
  | [] => [[]]
  | c :: rest =>
    if c = mark then
      [] :: segments mark rest
    else
      match segments mark rest with
      | [] => [[c]]
      | head :: tail => (c :: head) :: tail

/-- The parts of a text before and after the first occurrence of a mark. -/
def splitFirst (mark : Char) : List Char → Option (List Char × List Char)
  | [] => none
  | c :: rest =>
    if c = mark then some ([], rest)
    else (splitFirst mark rest).map fun parts => (c :: parts.1, parts.2)

/-- The parts of a text before and after the last occurrence of a mark. -/
def splitLast (mark : Char) : List Char → Option (List Char × List Char)
  | [] => none
  | c :: rest =>
    match splitLast mark rest with
    | some (before, after) => some (c :: before, after)
    | none => if c = mark then some ([], rest) else none

/-- A line without the carriage return it may end in. -/
def dropReturn (line : List Char) : List Char :=
  if line.getLast? = some '\r' then line.dropLast else line

/-- Reads segments as lines: every segment but the last was ended by a line
feed and loses a carriage return before it; an empty last segment is no line. -/
def linesOfSegments : List (List Char) → List (List Char)
  | [] => []
  | [last] => if last.isEmpty then [] else [last]
  | line :: next :: rest => dropReturn line :: linesOfSegments (next :: rest)

/-- The lines of a text, ended by a line feed or by a carriage return and a
line feed; the last line may lack its end. -/
def lines (text : List Char) : List (List Char) :=
  linesOfSegments (segments '\n' text)

def join (separator : List Char) (pieces : List (List Char)) : List Char :=
  List.intercalate separator pieces

end TableScribe.Text
