/-
Records in JSON.  A record is written as an object of its fields in any order,
or as an array of them in declaration order.  Fields are collected in a draft,
which is completed at the closing bracket.
-/
import TableScribe.Json.Shape

namespace TableScribe.Json

/-- A field of a record: its key, whether it may be left out, and how it is
read into a draft. -/
structure FieldRule (δ : Type) where
  key : String
  required : Bool
  isSet : δ → Bool
  read : Tree → δ → Read δ

/-- The fields of a record in declaration order, and the record that a draft
with all required fields stands for. -/
structure RecordRule (δ α : Type) where
  name : String
  fields : List (FieldRule δ)
  blank : δ
  complete : δ → α

namespace RecordRule

variable {δ α : Type}

def expected (rule : RecordRule δ α) : String := "struct " ++ rule.name

def missing? (rule : RecordRule δ α) (draft : δ) : Option (FieldRule δ) :=
  rule.fields.find? fun field => field.required && !field.isSet draft

/-- Reads the members of an object into a draft.  A known key must not come
twice; the value of an unknown key is passed over. -/
def readMembers (rule : RecordRule δ α) : Members → δ → Read δ
  | .close, draft =>
    match rule.missing? draft with
    | some field => .error (.shape (.missingField field.key))
    | none => .ok draft
  | .broken fault, _ => .error (.fault fault)
  | .member key value rest, draft => do
    let name ← key.read
    match rule.fields.find? fun field => field.key == name with
    | some field =>
      if field.isSet draft then
        .error (.shape (.duplicateField field.key))
      else
        let next ← field.read value draft
        readMembers rule rest next
    | none =>
      value.skip
      readMembers rule rest draft

/-- Reads the items of an array into the fields from some position on.  Fields
that may be left out may be missing at the end. -/
def readItems (rule : RecordRule δ α) : List (FieldRule δ) → Nat → Items → δ → Read δ
  | [], _, .close, draft => .ok draft
  | [], _, .broken fault, _ => .error (.fault fault)
  | [], _, .dangling _, _ => .error (.fault .malformed)
  | [], _, .item _ _, _ => .error (.fault .malformed)
  | field :: fields, position, .close, draft =>
    if field.required then
      .error (.shape (.invalidLength position
        (rule.expected ++ " with " ++ toString rule.fields.length ++ " elements")))
    else
      readItems rule fields (position + 1) .close draft
  | _ :: _, _, .broken fault, _ => .error (.fault fault)
  | _ :: _, _, .dangling fault, _ => .error (.fault fault)
  | field :: fields, position, .item value rest, draft => do
    let next ← field.read value draft
    readItems rule fields (position + 1) rest next

def read (rule : RecordRule δ α) : Tree → Read α
  | .object members => do
    let draft ← rule.readMembers members rule.blank
    return rule.complete draft
  | .array items => do
    let draft ← rule.readItems rule.fields 0 items rule.blank
    return rule.complete draft
  | other => .error (other.unexpected rule.expected)

end RecordRule

/-- Reads a whole text with a reader; nothing but white space may follow. -/
def readText {α : Type} (read : Tree → Read α) (text : String) : Read α := do
  let (tree, rest) := scan text.toList
  let value ← read tree
  if (skipSpace rest).isEmpty then
    return value
  else
    .error (.fault .malformed)

end TableScribe.Json
