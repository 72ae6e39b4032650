/-
Literals of the Java language.
-/
import TableScribe.Decimal.Layout
import TableScribe.Model.Fragment
import TableScribe.Render.Error

namespace TableScribe.Java

/-- A character inside a string literal: the quote, the backslash and three
controls have escapes, every other character stands for itself. -/
def escapeChar (c : Char) : List Char :=
  if c = '"' then ['\\', '"']
  else if c = '\\' then ['\\', '\\']
  else if c = '\n' then ['\\', 'n']
  else if c = '\r' then ['\\', 'r']
  else if c = '\t' then ['\\', 't']
  else [c]

def escape (text : List Char) : List Char := text.flatMap escapeChar

def quote (text : String) : String :=
  String.ofList ('"' :: escape text.toList ++ ['"'])

/-- The literal of a value.  A float that is not finite has none. -/
def literal : Value → Except RenderError String
  | .text content => .ok (quote content)
  | .int number => .ok (toString number.toInt)
  | .float number =>
    if number.isFinite then
      .ok (number.toText .literal)
    else
      .error (.invalidModel .value (number.nonFiniteName ++ " has no literal form"))
  | .bool flag => .ok (if flag then "true" else "false")
  | .null => .ok "null"
  | .verbatim source => .ok source

end TableScribe.Java
