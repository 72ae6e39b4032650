/-
JSON texts as trees.  A text that breaks off or goes wrong still has a tree,
with a fault at the point where it does, so that whoever reads the tree from
left to right meets its own objections and the fault in the order of the text.
-/
namespace TableScribe.Json

inductive Fault
  /-- The text ends inside a value. -/
  | truncated
  /-- A character stands where it cannot. -/
  | malformed
deriving DecidableEq, Repr

/-- A piece of a string: a character, or a sixteen bit unit given in
hexadecimal. -/
inductive Piece
  | char (c : Char)
  | unit (code : Nat)
deriving DecidableEq, Repr

/-- A string as it is written, with the fault it ends in, if any. -/
structure StringLiteral where
  pieces : List Piece
  fault : Option Fault
deriving DecidableEq, Repr

structure NumberLiteral where
  negative : Bool
  whole : List Char
  fraction : Option (List Char)
  /-- Whether the exponent is negative, and its digits. -/
  exponent : Option (Bool × List Char)
deriving DecidableEq, Repr

mutual

/-- A value, or the fault that takes its place. -/
inductive Tree
  | null
  | bool (flag : Bool)
  | number (literal : NumberLiteral)
  /-- A number that breaks off or goes wrong. -/
  | brokenNumber (fault : Fault)
  | string (literal : StringLiteral)
  | array (items : Items)
  | object (members : Members)
  | broken (fault : Fault)
deriving DecidableEq

/-- The inside of an array from some point on. -/
inductive Items
  /-- The closing bracket. -/
  | close
  /-- A fault where a comma or the closing bracket is due. -/
  | broken (fault : Fault)
  /-- A comma and a fault where an item is due. -/
  | dangling (fault : Fault)
  | item (value : Tree) (rest : Items)
deriving DecidableEq

/-- The inside of an object from some point on. -/
inductive Members
  /-- The closing brace. -/
  | close
  | broken (fault : Fault)
  | member (key : StringLiteral) (value : Tree) (rest : Members)
deriving DecidableEq

end

end TableScribe.Json
