/-
The grammar of JSON texts.  A text spells a tree if it is one of the ways to
write the tree down: with any white space between the tokens, and with the
characters of strings as they are or escaped.  A tree with a fault in it has no
spelling.
-/
import TableScribe.Json.Tree

namespace TableScribe.Json

/-- White space: spaces, tabs, line feeds and carriage returns. -/
def IsBlank (text : List Char) : Prop := ∀ c ∈ text, c ∈ [' ', '\t', '\n', '\r']

/-- A mark with white space around it. -/
def IsMark (mark : Char) (text : List Char) : Prop :=
  ∃ before after, IsBlank before ∧ IsBlank after ∧ text = before ++ mark :: after

/-- Decimal digits, at least one. -/
def IsDigits (text : List Char) : Prop := text ≠ [] ∧ ∀ c ∈ text, c.isDigit = true

/-- The hexadecimal digits and their values. -/
def hexDigits : List (Char × Nat) :=
  "0123456789abcdef".toList.zipIdx ++ "ABCDEF".toList.zipIdx 10

/-- The letters after a backslash and the characters that they stand for. -/
def shortEscapes : List (Char × Char) :=
  [('"', '"'), ('\\', '\\'), ('/', '/'), ('b', '\x08'), ('f', '\x0c'), ('n', '\n'), ('r', '\r'),
    ('t', '\t')]

/-- The ways to write a piece of a string. -/
inductive Piece.SpelledAs : Piece → List Char → Prop
  | plain {c : Char} (hquote : c ≠ '"') (hbackslash : c ≠ '\\') (hcontrol : 0x20 ≤ c.toNat) :
    SpelledAs (.char c) [c]
  | short {letter c : Char} (hescape : (letter, c) ∈ shortEscapes) :
    SpelledAs (.char c) ['\\', letter]
  | unit {a b c d : Char} {i j k l : Nat} (ha : (a, i) ∈ hexDigits) (hb : (b, j) ∈ hexDigits)
    (hc : (c, k) ∈ hexDigits) (hd : (d, l) ∈ hexDigits) :
    SpelledAs (.unit (((i * 16 + j) * 16 + k) * 16 + l)) ['\\', 'u', a, b, c, d]

/-- The text that the pieces of a string stand for.  A character beyond sixteen
bits may be given by two units, each with ten bits of what exceeds them. -/
inductive Denote : List Piece → List Char → Prop
  | nil : Denote [] []
  | char {pieces : List Piece} {text : List Char} (c : Char) (hrest : Denote pieces text) :
    Denote (.char c :: pieces) (c :: text)
  | unit {pieces : List Piece} {text : List Char} (c : Char) (hrest : Denote pieces text) :
    Denote (.unit c.toNat :: pieces) (c :: text)
  | pair {pieces : List Piece} {text : List Char} (c : Char) (hc : 0x10000 ≤ c.toNat)
    (hrest : Denote pieces text) :
    Denote (.unit (0xD800 + (c.toNat - 0x10000) / 0x400) ::
      .unit (0xDC00 + (c.toNat - 0x10000) % 0x400) :: pieces) (c :: text)

namespace StringLiteral

/-- The ways to write the pieces of a string and the closing quote. -/
inductive SpelledInside : List Piece → List Char → Prop
  | close : SpelledInside [] ['"']
  | piece {piece : Piece} {pieces : List Piece} {written others : List Char}
    (hpiece : piece.SpelledAs written) (hrest : SpelledInside pieces others) :
    SpelledInside (piece :: pieces) (written ++ others)

/-- The ways to write a string. -/
def SpelledAs (literal : StringLiteral) (text : List Char) : Prop :=
  literal.fault = none ∧ ∃ inside, SpelledInside literal.pieces inside ∧ text = '"' :: inside

/-- A string stands for a text. -/
def Denotes (literal : StringLiteral) (text : String) : Prop :=
  literal.fault = none ∧ Denote literal.pieces text.toList

end StringLiteral

/-- The ways to write a fraction, if there is one. -/
def SpelledFraction : Option (List Char) → List Char → Prop
  | none, text => text = []
  | some digits, text => IsDigits digits ∧ text = '.' :: digits

/-- The ways to write an exponent, if there is one. -/
def SpelledExponent : Option (Bool × List Char) → List Char → Prop
  | none, text => text = []
  | some (negative, digits), text => IsDigits digits ∧ ∃ mark ∈ ['e', 'E'],
    ∃ sign ∈ (if negative then [['-']] else [[], ['+']]), text = mark :: (sign ++ digits)

/-- The ways to write a number.  It has no leading zero. -/
def NumberLiteral.SpelledAs (literal : NumberLiteral) (text : List Char) : Prop :=
  ∃ fraction exponent, IsDigits literal.whole ∧
    (literal.whole.head? = some '0' → literal.whole = ['0']) ∧
    SpelledFraction literal.fraction fraction ∧ SpelledExponent literal.exponent exponent ∧
    text = (if literal.negative then ['-'] else []) ++ literal.whole ++ fraction ++ exponent

/-- What is written before an item or a member: white space before the first
one, a comma before the others. -/
def IsLead : Bool → List Char → Prop
  | true, text => IsBlank text
  | false, text => IsMark ',' text

mutual

/-- The ways to write a value. -/
inductive Tree.SpelledAs : Tree → List Char → Prop
  | null : Tree.SpelledAs .null ['n', 'u', 'l', 'l']
  | boolTrue : Tree.SpelledAs (.bool true) ['t', 'r', 'u', 'e']
  | boolFalse : Tree.SpelledAs (.bool false) ['f', 'a', 'l', 's', 'e']
  | number {literal : NumberLiteral} {text : List Char} (hliteral : literal.SpelledAs text) :
    Tree.SpelledAs (.number literal) text
  | string {literal : StringLiteral} {text : List Char} (hliteral : literal.SpelledAs text) :
    Tree.SpelledAs (.string literal) text
  | array {items : Items} {inside : List Char} (hitems : Items.SpelledAs true items inside) :
    Tree.SpelledAs (.array items) ('[' :: inside)
  | object {members : Members} {inside : List Char}
    (hmembers : Members.SpelledAs true members inside) :
    Tree.SpelledAs (.object members) ('\x7b' :: inside)

/-- The ways to write the items of an array, from the first or from a later one
on, and the closing bracket. -/
inductive Items.SpelledAs : Bool → Items → List Char → Prop
  | close {first : Bool} {space : List Char} (hspace : IsBlank space) :
    Items.SpelledAs first .close (space ++ [']'])
  | item {first : Bool} {lead written others : List Char} {value : Tree} {rest : Items}
    (hlead : IsLead first lead) (hvalue : Tree.SpelledAs value written)
    (hrest : Items.SpelledAs false rest others) :
    Items.SpelledAs first (.item value rest) (lead ++ (written ++ others))

/-- The ways to write the members of an object, from the first or from a later
one on, and the closing brace. -/
inductive Members.SpelledAs : Bool → Members → List Char → Prop
  | close {first : Bool} {space : List Char} (hspace : IsBlank space) :
    Members.SpelledAs first .close (space ++ ['\x7d'])
  | member {first : Bool} {lead name colon written others : List Char} {key : StringLiteral}
    {value : Tree} {rest : Members} (hlead : IsLead first lead) (hkey : key.SpelledAs name)
    (hcolon : IsMark ':' colon) (hvalue : Tree.SpelledAs value written)
    (hrest : Members.SpelledAs false rest others) :
    Members.SpelledAs first (.member key value rest)
      (lead ++ (name ++ (colon ++ (written ++ others))))

end

/-- A text is a way to write a tree, with white space before and after it. -/
def Tree.SpelledIn (tree : Tree) (text : String) : Prop :=
  ∃ before written after, IsBlank before ∧ tree.SpelledAs written ∧ IsBlank after ∧
    text.toList = before ++ (written ++ after)

end TableScribe.Json
