/-
The shortest decimal that reads back as a given double.  Every finite double
stands for an interval of reals that round to it; grids of one, two, three, …
significant digits are tried until one has a point in that interval.
-/
import TableScribe.Decimal.Binary64

namespace TableScribe.Decimal

/-- Which of two equally near grid points is taken. -/
inductive Tie
  | away
  | toEven
deriving DecidableEq, Repr

/-- A positive decimal: its significant digits, and the power of ten of the
first one. -/
structure Scientific where
  digits : List Char
  exponent : Int
deriving Repr

/-- A grid point and the interval on a common scale: a candidate `a` stands
for `a * unit`. -/
structure Grid where
  unit : Nat
  value : Nat
  low : Nat
  high : Nat
  /-- Whether the ends belong to the interval. -/
  closed : Bool
deriving Repr

def Grid.admits (grid : Grid) (candidate : Nat) : Bool :=
  let point := candidate * grid.unit
  if grid.closed then grid.low ≤ point && point ≤ grid.high
  else grid.low < point && point < grid.high

/-- The candidate in the interval that is nearest to the value. -/
def Grid.nearest? (grid : Grid) (tie : Tie) : Option Nat :=
  let below := grid.value / grid.unit
  let above := below + 1
  match grid.admits below, grid.admits above with
  | false, false => none
  | true, false => some below
  | false, true => some above
  | true, true =>
    let down := grid.value - below * grid.unit
    let up := above * grid.unit - grid.value
    if down < up then some below
    else if up < down then some above
    else match tie with
      | .away => some above
      | .toEven => some (if below % 2 = 0 then below else above)

/-- The grid of the multiples of `10 ^ place` around a finite positive number.
The interval reaches half way to both neighbours; below a power of two the
neighbour is nearer. -/
def Binary64.grid (x : Binary64) (place : Int) : Grid :=
  let m := x.significand
  let scale := x.exponent - 2
  let factor := Nat.pow 2 scale.toNat * Nat.pow 10 (-place).toNat
  let toLow := if x.fractionField = 0 ∧ 1 < x.exponentField then 1 else 2
  { unit := Nat.pow 2 (-scale).toNat * Nat.pow 10 place.toNat
    value := 4 * m * factor
    low := (4 * m - toLow) * factor
    high := (4 * m + 2) * factor
    closed := m % 2 == 0 }

/-- The power of ten of the first digit of a finite positive number.  Scaled
by `10 ^ 350` every such number is above one, so its integer part shows it. -/
def Binary64.leadingPlace (x : Binary64) : Int :=
  let scaled :=
    x.significand * Nat.pow 10 350 * Nat.pow 2 x.exponent.toNat / Nat.pow 2 (-x.exponent).toNat
  ((Nat.toDigits 10 scaled).length : Int) - 351

def dropTrailingZeros (digits : List Char) : List Char :=
  (digits.reverse.dropWhile (· == '0')).reverse

/-- Tries grids of `17 - fuel` and more digits, the last one of 17. -/
def Binary64.searchGrids (x : Binary64) (tie : Tie) (lead : Int) : Nat → Scientific
  | 0 =>
    let grid := x.grid (lead - 16)
    finish (lead - 16) ((grid.nearest? tie).getD (grid.value / grid.unit))
  | fuel + 1 =>
    let place := lead - (16 - (fuel + 1 : Nat))
    match (x.grid place).nearest? tie with
    | some candidate => finish place candidate
    | none => searchGrids x tie lead fuel
where
  /-- The decimal `candidate * 10 ^ place`. -/
  finish (place : Int) (candidate : Nat) : Scientific :=
    let digits := Nat.toDigits 10 candidate
    ⟨dropTrailingZeros digits, place + digits.length - 1⟩

/-- The shortest decimal of a finite positive number. -/
def Binary64.shortest (x : Binary64) (tie : Tie) : Scientific :=
  x.searchGrids tie x.leadingPlace 16

end TableScribe.Decimal
