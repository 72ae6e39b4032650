/-
Documentation comments.  The text comes first, then, after a blank line, the
tags; no part of them can close the comment.
-/
import TableScribe.Model.Fragment
import TableScribe.Text.Blank
import TableScribe.Text.Segments

namespace TableScribe.Java

/-- A text in which every `*/` has its slash written as a character entity. -/
def closeSafe : List Char → List Char
  | '*' :: '/' :: rest => ['*', '&', '#', '4', '7', ';'] ++ closeSafe rest
  | c :: rest => c :: closeSafe rest
  | [] => []

/-- The text of a tag: the name after an at sign, and what the tag says. -/
def tagText (tag : JavadocTag) : List Char :=
  '@' :: tag.name.toList ++ ' ' :: tag.text.toList

/-- What stands in a comment, item by item: the lines of the text, a blank
line if tags follow them, and the tags. -/
def commentItems (javadoc : Javadoc) : List (List Char) :=
  let textLines := (Text.lines javadoc.text.toList).map fun line => closeSafe (Text.trimEnd line)
  let tags := javadoc.tags.map fun tag => closeSafe (Text.trimEnd (tagText tag))
  let gap := if textLines.isEmpty || tags.isEmpty then [] else [[]]
  textLines ++ gap ++ tags

/-- An item of a comment behind its star. -/
def commentLine (item : List Char) : List Char :=
  if item.isEmpty then [' ', '*', '\n'] else [' ', '*', ' '] ++ item ++ ['\n']

/-- A documentation comment, from its opening to its closing line. -/
def comment (javadoc : Javadoc) : List Char :=
  ['/', '*', '*', '\n'] ++ (commentItems javadoc).flatMap commentLine ++ [' ', '*', '/']

end TableScribe.Java
