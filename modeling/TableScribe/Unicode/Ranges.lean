/-
Sets of code points as lists of closed intervals, and case maps as lists of
runs.  Every table of this folder is written in one of these two forms, so a
fact about all characters is checked on the entries of a table.
-/
namespace TableScribe.Unicode

def inRanges (ranges : List (Nat × Nat)) (c : Char) : Bool :=
  ranges.any fun range => range.1 ≤ c.toNat && c.toNat ≤ range.2

/-- Every `step`-th code point from `first` to `last`, mapped to the code
points that start at `target` and keep the same distances. -/
structure CaseRun where
  first : Nat
  last : Nat
  step : Nat
  target : Nat
deriving Repr

/-- The image of a code point under a run, if the run reaches it. -/
def CaseRun.image? (run : CaseRun) (code : Nat) : Option Nat :=
  if run.first ≤ code && code ≤ run.last && (code - run.first) % run.step == 0 then
    some (run.target + (code - run.first))
  else
    none

/-- The image of a code point under the first run that reaches it; a code
point that no run reaches is left alone. -/
def mapByRuns (runs : List CaseRun) (code : Nat) : Nat :=
  (runs.findSome? fun run => run.image? code).getD code

end TableScribe.Unicode
