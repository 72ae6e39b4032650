/-
Writing a double: which decimals are positional, and the two layouts in use.
-/
import TableScribe.Decimal.Shortest

namespace TableScribe.Decimal

/-- How doubles are written.  A number is positional if the place of its
first digit lies between the two bounds, and has a mark and an exponent
otherwise. -/
structure Layout where
  lowest : Int
  highest : Int
  /-- What stands before the digits of an exponent above zero. -/
  plus : List Char
  tie : Tie
deriving Repr

/-- Literals of a source text: positional from `0.0001` to below `10 ^ 16`. -/
def Layout.literal : Layout := ⟨-4, 15, [], .away⟩

/-- Numbers quoted in a message about a document: positional from `0.00001`
to below `10 ^ 16`, with a sign before every exponent. -/
def Layout.message : Layout := ⟨-5, 15, ['+'], .toEven⟩

/-- Positional text, with at least one digit on both sides of the point. -/
def Scientific.positional (s : Scientific) : List Char :=
  if s.exponent < 0 then
    ['0', '.'] ++ List.replicate (-s.exponent - 1).toNat '0' ++ s.digits
  else
    let whole := s.exponent.toNat + 1
    if s.digits.length ≤ whole then
      s.digits ++ List.replicate (whole - s.digits.length) '0' ++ ['.', '0']
    else
      s.digits.take whole ++ '.' :: s.digits.drop whole

/-- The text of an exponent, with a given sign if it is above zero. -/
def exponentText (plus : List Char) (exponent : Int) : List Char :=
  if 0 < exponent then plus ++ (toString exponent).toList else (toString exponent).toList

/-- Text with an exponent; a single digit has no point. -/
def Scientific.exponential (s : Scientific) (plus : List Char) : List Char :=
  let mantissa :=
    match s.digits with
    | [] => []
    | [d] => [d]
    | d :: rest => d :: '.' :: rest
  mantissa ++ 'e' :: exponentText plus s.exponent

/-- The text of a finite double. -/
def Binary64.toText (x : Binary64) (layout : Layout) : String :=
  let sign := if x.isNegative then ['-'] else []
  let magnitude :=
    if x.isZero then ['0', '.', '0']
    else
      let s := x.shortest layout.tie
      if layout.lowest ≤ s.exponent ∧ s.exponent ≤ layout.highest then s.positional
      else s.exponential layout.plus
  String.ofList (sign ++ magnitude)

/-- What a double without a decimal is called. -/
def Binary64.nonFiniteName (x : Binary64) : String :=
  if x.isNaN then "NaN" else if x.isNegative then "-inf" else "inf"

end TableScribe.Decimal
