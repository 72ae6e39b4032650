/-
Paths with slashes between their segments.  An empty segment and a segment
`.` name no directory of their own.
-/
import TableScribe.Text.Segments

namespace TableScribe.Path

/-- The segments of a path between its slashes, empty ones included. -/
def segments (path : String) : List String :=
  (Text.segments '/' path.toList).map String.ofList

def isAbsolute (path : String) : Bool := path.toList.head? == some '/'

/-- Whether a segment is nothing but a separator or the directory itself. -/
def isVoid (segment : String) : Bool := segment.isEmpty || segment == "."

/-- The segments of a path that name something. -/
def names (path : String) : List String :=
  (segments path).filter fun segment => !isVoid segment

/-- Whether a relative path consists of plain names: it does not start with
the directory itself and goes up nowhere. -/
def isPlain (path : String) : Bool :=
  (segments path).head? != some "." && !(segments path).contains ".."

def join (directory path : String) : String :=
  if directory.isEmpty || directory.toList.getLast? == some '/' then directory ++ path
  else directory ++ "/" ++ path

/-- The paths that end in one of some segments that name something, given by
the segments from the last one on; the longest path first. -/
def prefixPaths : List String → List String
  | [] => []
  | segment :: rest =>
    if isVoid segment then prefixPaths rest
    else String.intercalate "/" (segment :: rest).reverse :: prefixPaths rest

/-- The paths of the directories above what a path names, nearest first.  The
root and the current directory, which are always there, are left out. -/
def above (path : String) : List String :=
  prefixPaths (((segments path).reverse.dropWhile isVoid).drop 1)

/-- The path of the directory that holds what a path names; empty for the
current directory. -/
def parent (path : String) : String :=
  (above path).head?.getD (if isAbsolute path then "/" else "")

/-- The segments of a path without the empty ones at its end. -/
def trimmed (path : String) : List String :=
  ((segments path).reverse.dropWhile String.isEmpty).reverse

/-- Whether a path ends in a name, as the path of a file has to. -/
def endsInName (path : String) : Bool :=
  match (segments path).getLast? with
  | some last => !isVoid last
  | none => false

end TableScribe.Path
