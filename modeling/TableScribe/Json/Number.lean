/-
What a JSON number stands for.  Significant digits are kept as long as they fit
into 64 bits; the rest only counts for the magnitude, and the magnitude is
scaled in double precision by powers of ten.
-/
import TableScribe.Decimal.Binary64
import TableScribe.Json.Tree

namespace TableScribe.Json

open Decimal (Binary64)

/-- The value of a number: a whole number of 64 bits, or a double. -/
inductive Number
  | integer (value : Int)
  | double (value : Binary64)

def digitValue (c : Char) : Nat := c.toNat - '0'.toNat

/-- Appends digits to a significand as long as it stays below `2 ^ 64`, and
returns the digits left over. -/
def absorb (significand : Nat) : List Char → Nat × List Char
  | [] => (significand, [])
  | c :: rest =>
    let next := significand * 10 + digitValue c
    if next < 0x10000000000000000 then absorb next rest else (significand, c :: rest)

def powerOfTen (exponent : Nat) : Float := Float.ofScientific 1 false exponent

/-- Divides by powers of ten in steps of 308 until the exponent is above
`-309`; by then a small number has become zero. -/
def scaleDown : Nat → Float → Nat → Float
  | 0, value, _ => value
  | steps + 1, value, exponent =>
    if exponent ≤ 308 then value / powerOfTen exponent
    else if value == 0.0 then value
    else scaleDown steps (value / powerOfTen 308) (exponent - 308)

/-- The double `significand * 10 ^ exponent`; malformed if it is too large. -/
def scaled (significand : Nat) (exponent : Int) : Except Fault Float :=
  let value := (UInt64.ofNat significand).toFloat
  if exponent < 0 then
    .ok (scaleDown 4 value exponent.natAbs)
  else if exponent ≤ 308 then
    let result := value * powerOfTen exponent.natAbs
    if result.isInf then .error .malformed else .ok result
  else if significand = 0 then
    .ok value
  else
    .error .malformed

/-- The exponent that some digits give, if it fits into 31 bits. -/
def exponentOf? (digits : List Char) : Option Nat :=
  let exponent := digits.foldl (fun total c => total * 10 + digitValue c) 0
  if exponent < 0x80000000 then some exponent else none

def clampExponent (exponent : Int) : Int :=
  max (-0x80000000) (min 0x7FFFFFFF exponent)

/-- The double of a significand with the power of ten of its last digit and a
written exponent. -/
def withExponent (significand : Nat) (place : Int) :
    Option (Bool × List Char) → Except Fault Float
  | none => scaled significand place
  | some (negative, digits) =>
    match exponentOf? digits with
    | some exponent =>
      scaled significand (clampExponent (if negative then place - exponent else place + exponent))
    | none => if significand = 0 || negative then .ok 0.0 else .error .malformed

/-- The magnitude of a number that is not written as a whole number of 64
bits. -/
def NumberLiteral.magnitude (literal : NumberLiteral) : Except Fault Float :=
  let (whole, dropped) := absorb 0 literal.whole
  match literal.fraction with
  | none => withExponent whole dropped.length literal.exponent
  | some digits =>
    let (significand, left) := absorb whole digits
    let place := (dropped.length : Int) - (digits.length - left.length : Nat)
    withExponent significand place literal.exponent

/-- The value of a number.  It is whole if it is written without fraction and
exponent and fits into 64 bits; a negative zero is a double. -/
def NumberLiteral.value (literal : NumberLiteral) : Except Fault Number := do
  let (whole, dropped) := absorb 0 literal.whole
  let plain := dropped.isEmpty && literal.fraction.isNone && literal.exponent.isNone
  if plain && !literal.negative then
    return .integer whole
  else if plain && 0 < whole && whole ≤ 0x8000000000000000 then
    return .integer (-whole)
  else
    let magnitude ← literal.magnitude
    return .double (.ofFloat (if literal.negative then -magnitude else magnitude))

end TableScribe.Json
