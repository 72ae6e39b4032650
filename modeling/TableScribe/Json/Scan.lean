/-
Reading the characters of a JSON text into a tree.  Every scanner returns what
it read and the rest of the text; after a fault there is no rest.
-/
import TableScribe.Json.Tree

namespace TableScribe.Json

/-- Space, tab, line feed and carriage return. -/
def isSpace (c : Char) : Bool :=
  c = ' ' || c = '\t' || c = '\n' || c = '\r'

def skipSpace (text : List Char) : List Char := text.dropWhile isSpace

def hexValue? (c : Char) : Option Nat :=
  if c.isDigit then some (c.toNat - '0'.toNat)
  else if 'a' ≤ c && c ≤ 'f' then some (c.toNat - 'a'.toNat + 10)
  else if 'A' ≤ c && c ≤ 'F' then some (c.toNat - 'A'.toNat + 10)
  else none

def hexUnit? (a b c d : Char) : Option Nat := do
  let a ← hexValue? a
  let b ← hexValue? b
  let c ← hexValue? c
  let d ← hexValue? d
  return ((a * 16 + b) * 16 + c) * 16 + d

/-- What a single character stands for after a backslash. -/
def shortEscape? (c : Char) : Option Char :=
  if c = '"' then some '"'
  else if c = '\\' then some '\\'
  else if c = '/' then some '/'
  else if c = 'b' then some '\x08'
  else if c = 'f' then some '\x0c'
  else if c = 'n' then some '\n'
  else if c = 'r' then some '\r'
  else if c = 't' then some '\t'
  else none

/-- The fault of a unit that is not four hexadecimal digits: the text breaks
off if fewer than four bytes of it are left. -/
def unitFault (rest : List Char) : Fault :=
  if (String.ofList (rest.take 4)).utf8ByteSize < 4 then .truncated else .malformed

def consPiece (piece : Piece) (scanned : StringLiteral × List Char) : StringLiteral × List Char :=
  (⟨piece :: scanned.1.pieces, scanned.1.fault⟩, scanned.2)

/-- A string that goes wrong at once. -/
def failString (fault : Fault) : StringLiteral × List Char := (⟨[], some fault⟩, [])

/-- Reads a string after its opening quote. -/
def scanString : List Char → StringLiteral × List Char
  | [] => failString .truncated
  | '"' :: rest => (⟨[], none⟩, rest)
  | ['\\'] => failString .truncated
  | '\\' :: 'u' :: a :: b :: c :: d :: rest =>
    match hexUnit? a b c d with
    | some code => consPiece (.unit code) (scanString rest)
    | none => failString .malformed
  | '\\' :: 'u' :: rest => failString (unitFault rest)
  | '\\' :: c :: rest =>
    match shortEscape? c with
    | some meant => consPiece (.char meant) (scanString rest)
    | none => failString .malformed
  | c :: rest =>
    if c.toNat < 0x20 then failString .malformed
    else consPiece (.char c) (scanString rest)

/-- The fault of a number in which the next character is not a digit. -/
def digitFault (rest : List Char) : Fault :=
  if rest.isEmpty then .truncated else .malformed

def scanExponent (text : List Char) : Except Fault (Option (Bool × List Char) × List Char) :=
  match text with
  | [] => .ok (none, [])
  | mark :: rest =>
    if mark = 'e' || mark = 'E' then
      let negative := rest.head? = some '-'
      let unsigned := if negative || rest.head? = some '+' then rest.drop 1 else rest
      let digits := unsigned.takeWhile Char.isDigit
      if digits.isEmpty then .error (digitFault unsigned)
      else .ok (some (negative, digits), unsigned.dropWhile Char.isDigit)
    else
      .ok (none, text)

def scanFraction (text : List Char) : Except Fault (Option (List Char) × List Char) :=
  match text with
  | [] => .ok (none, [])
  | mark :: rest =>
    if mark = '.' then
      let digits := rest.takeWhile Char.isDigit
      if digits.isEmpty then .error (digitFault rest)
      else .ok (some digits, rest.dropWhile Char.isDigit)
    else
      .ok (none, text)

/-- Reads the whole part of a number: digits, without a leading zero. -/
def scanWhole (text : List Char) : Except Fault (List Char × List Char) :=
  let digits := text.takeWhile Char.isDigit
  match digits with
  | [] => .error (digitFault text)
  | '0' :: _ :: _ => .error .malformed
  | _ => .ok (digits, text.dropWhile Char.isDigit)

def scanUnsigned (negative : Bool) (text : List Char) :
    Except Fault (NumberLiteral × List Char) := do
  let (whole, afterWhole) ← scanWhole text
  let (fraction, afterFraction) ← scanFraction afterWhole
  let (exponent, rest) ← scanExponent afterFraction
  return (⟨negative, whole, fraction, exponent⟩, rest)

def numberTree : Except Fault (NumberLiteral × List Char) → Tree × List Char
  | .ok (literal, rest) => (.number literal, rest)
  | .error fault => (.brokenNumber fault, [])

def scanWord (meant : Tree) : List Char → List Char → Tree × List Char
  | [], rest => (meant, rest)
  | _ :: _, [] => (.broken .truncated, [])
  | letter :: word, c :: rest =>
    if c = letter then scanWord meant word rest else (.broken .malformed, [])

mutual

def scanValue : Nat → List Char → Tree × List Char
  | 0, _ => (.broken .truncated, [])
  | fuel + 1, text =>
    match skipSpace text with
    | [] => (.broken .truncated, [])
    | 'n' :: rest => scanWord .null ['u', 'l', 'l'] rest
    | 't' :: rest => scanWord (.bool true) ['r', 'u', 'e'] rest
    | 'f' :: rest => scanWord (.bool false) ['a', 'l', 's', 'e'] rest
    | '"' :: rest =>
      let (literal, rest) := scanString rest
      (.string literal, rest)
    | '[' :: rest =>
      let (items, rest) := scanFirstItem fuel rest
      (.array items, rest)
    | '\x7b' :: rest =>
      let (members, rest) := scanFirstMember fuel rest
      (.object members, rest)
    | '-' :: rest => numberTree (scanUnsigned true rest)
    | c :: rest =>
      if c.isDigit then numberTree (scanUnsigned false (c :: rest))
      else (.broken .malformed, [])

/-- Reads an array after its opening bracket. -/
def scanFirstItem : Nat → List Char → Items × List Char
  | 0, _ => (.broken .truncated, [])
  | fuel + 1, text =>
    match skipSpace text with
    | [] => (.broken .truncated, [])
    | ']' :: rest => (.close, rest)
    | c :: rest =>
      let (value, rest) := scanValue fuel (c :: rest)
      let (items, rest) := scanNextItem fuel rest
      (.item value items, rest)

def scanNextItem : Nat → List Char → Items × List Char
  | 0, _ => (.broken .truncated, [])
  | fuel + 1, text =>
    match skipSpace text with
    | [] => (.broken .truncated, [])
    | ']' :: rest => (.close, rest)
    | ',' :: rest =>
      match skipSpace rest with
      | [] => (.dangling .truncated, [])
      | ']' :: _ => (.dangling .malformed, [])
      | c :: rest =>
        let (value, rest) := scanValue fuel (c :: rest)
        let (items, rest) := scanNextItem fuel rest
        (.item value items, rest)
    | _ :: _ => (.broken .malformed, [])

/-- Reads an object after its opening brace. -/
def scanFirstMember : Nat → List Char → Members × List Char
  | 0, _ => (.broken .truncated, [])
  | fuel + 1, text =>
    match skipSpace text with
    | [] => (.broken .truncated, [])
    | '\x7d' :: rest => (.close, rest)
    | '"' :: rest => scanMember fuel rest
    | _ :: _ => (.broken .malformed, [])

def scanNextMember : Nat → List Char → Members × List Char
  | 0, _ => (.broken .truncated, [])
  | fuel + 1, text =>
    match skipSpace text with
    | [] => (.broken .truncated, [])
    | '\x7d' :: rest => (.close, rest)
    | ',' :: rest =>
      match skipSpace rest with
      | [] => (.broken .truncated, [])
      | '"' :: rest => scanMember fuel rest
      | _ :: _ => (.broken .malformed, [])
    | _ :: _ => (.broken .malformed, [])

/-- Reads a member after the opening quote of its key, and the rest of the
object. -/
def scanMember : Nat → List Char → Members × List Char
  | 0, _ => (.broken .truncated, [])
  | fuel + 1, text =>
    let (key, rest) := scanString text
    let (value, rest) :=
      match skipSpace rest with
      | [] => (Tree.broken .truncated, [])
      | ':' :: rest => scanValue fuel rest
      | _ :: _ => (Tree.broken .malformed, [])
    let (members, rest) := scanNextMember fuel rest
    (.member key value members, rest)

end

/-- The tree of a text and what follows it.  No call goes on without taking a
character at least every third time. -/
def scan (text : List Char) : Tree × List Char :=
  scanValue (3 * text.length + 3) text

end TableScribe.Json
