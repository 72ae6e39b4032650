/-
Reading a tree as a value of a given shape.  The tree is read from left to
right, and the first problem met is the answer, be it a fault of the text or a
value of the wrong shape.
-/
import TableScribe.Decimal.Layout
import TableScribe.Json.Number
import TableScribe.Json.Scan
import TableScribe.Unicode.Visible

namespace TableScribe.Json

/-- A value as it is named in a message. -/
inductive Found
  | null
  | bool (flag : Bool)
  | number (value : Number)
  | string (text : String)
  | sequence
  | map

def Found.describe : Found → String
  | null => "null"
  | bool flag => "boolean `" ++ (if flag then "true" else "false") ++ "`"
  | number (.integer value) => "integer `" ++ toString value ++ "`"
  | number (.double value) => "floating point `" ++ value.toText .message ++ "`"
  | string text => "string " ++ Unicode.showText text
  | sequence => "sequence"
  | map => "map"

inductive ShapeError
  | missingField (name : String)
  | duplicateField (name : String)
  | invalidType (found : Found) (expected : String)
  | invalidLength (length : Nat) (expected : String)

def ShapeError.message : ShapeError → String
  | missingField name => "missing field `" ++ name ++ "`"
  | duplicateField name => "duplicate field `" ++ name ++ "`"
  | invalidType found expected =>
    "invalid type: " ++ found.describe ++ ", expected " ++ expected
  | invalidLength length expected =>
    "invalid length " ++ toString length ++ ", expected " ++ expected

inductive ReadError
  | fault (fault : Fault)
  | shape (error : ShapeError)

def ReadError.message : ReadError → String
  | fault .truncated => "unexpected end of the text"
  | fault .malformed => "the text is not JSON"
  | shape error => error.message

abbrev Read (α : Type) := Except ReadError α

/-- Whether a unit is the first half of a surrogate pair. -/
def isLead (code : Nat) : Bool := 0xD800 ≤ code && code ≤ 0xDBFF

def isTrail (code : Nat) : Bool := 0xDC00 ≤ code && code ≤ 0xDFFF

def pairChar (lead trail : Nat) : Char :=
  Char.ofNat (0x10000 + (lead - 0xD800) * 0x400 + (trail - 0xDC00))

/-- The characters of a string.  A half of a surrogate pair without the other
half is malformed. -/
def decodePieces (fault : Option Fault) : List Piece → Except Fault (List Char)
  | [] =>
    match fault with
    | none => .ok []
    | some fault => .error fault
  | .char c :: rest => do
    let text ← decodePieces fault rest
    return c :: text
  | .unit lead :: .unit trail :: rest =>
    if isTrail lead then
      .error .malformed
    else if isLead lead then
      if isTrail trail then do
        let text ← decodePieces fault rest
        return pairChar lead trail :: text
      else
        .error .malformed
    else do
      let text ← decodePieces fault (.unit trail :: rest)
      return Char.ofNat lead :: text
  | [.unit code] =>
    if isTrail code then .error .malformed
    else if isLead code then .error (fault.getD .malformed)
    else
      match fault with
      | none => .ok [Char.ofNat code]
      | some fault => .error fault
  | .unit code :: .char c :: rest =>
    if isTrail code || isLead code then
      .error .malformed
    else do
      let text ← decodePieces fault (.char c :: rest)
      return Char.ofNat code :: text

def StringLiteral.read (literal : StringLiteral) : Read String :=
  match decodePieces literal.fault literal.pieces with
  | .ok text => .ok (String.ofList text)
  | .error fault => .error (.fault fault)

/-- Passes over a string without looking at its surrogates. -/
def StringLiteral.skip (literal : StringLiteral) : Read Unit :=
  match literal.fault with
  | none => .ok ()
  | some fault => .error (.fault fault)

mutual

/-- Passes over a value of any shape.  A number that is not complete is
malformed even at the end of the text. -/
def Tree.skip : Tree → Read Unit
  | .null => .ok ()
  | .bool _ => .ok ()
  | .number _ => .ok ()
  | .brokenNumber _ => .error (.fault .malformed)
  | .string literal => literal.skip
  | .array items => items.skip
  | .object members => members.skip
  | .broken fault => .error (.fault fault)

def Items.skip : Items → Read Unit
  | .close => .ok ()
  | .broken fault => .error (.fault fault)
  | .dangling fault => .error (.fault fault)
  | .item value rest => do
    value.skip
    rest.skip

def Members.skip : Members → Read Unit
  | .close => .ok ()
  | .broken fault => .error (.fault fault)
  | .member key value rest => do
    key.skip
    value.skip
    rest.skip

end

/-- The error for a value where another shape is expected.  A text or number
has to be complete to be named; of an array or object only the start is seen. -/
def Tree.unexpected (expected : String) : Tree → ReadError
  | .null => .shape (.invalidType .null expected)
  | .bool flag => .shape (.invalidType (.bool flag) expected)
  | .number literal =>
    match literal.value with
    | .ok value => .shape (.invalidType (.number value) expected)
    | .error fault => .fault fault
  | .brokenNumber fault => .fault fault
  | .string literal =>
    match literal.read with
    | .ok text => .shape (.invalidType (.string text) expected)
    | .error error => error
  | .array _ => .shape (.invalidType .sequence expected)
  | .object _ => .shape (.invalidType .map expected)
  | .broken fault => .fault fault

def Tree.readString : Tree → Read String
  | .string literal => literal.read
  | other => .error (other.unexpected "a string")

def Tree.readBool : Tree → Read Bool
  | .bool flag => .ok flag
  | other => .error (other.unexpected "a boolean")

def Tree.readOptionalString : Tree → Read (Option String)
  | .null => .ok none
  | other => other.readString.map some

/-- Reads the rest of an array, each item with the same reader. -/
def Items.readEach {α : Type} (read : Tree → Read α) : Items → Read (List α)
  | .close => .ok []
  | .broken fault => .error (.fault fault)
  | .dangling fault => .error (.fault fault)
  | .item value rest => do
    let first ← read value
    let others ← rest.readEach read
    return first :: others

def Tree.readList {α : Type} (read : Tree → Read α) : Tree → Read (List α)
  | .array items => items.readEach read
  | other => .error (other.unexpected "a sequence")

end TableScribe.Json
