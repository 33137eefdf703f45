import DocCoverage.Number.Rounding

/-!
# Percentages

The share of documented declarations in whole percent. The counts, their quotient and its hundredfold
are each rounded to 53 binary digits before the last is rounded to a whole number, a half going up.
-/

namespace DocCoverage.Coverage

/-- A share in whole percent, or none where there is nothing to document. -/
inductive Percentage where
  | value (percent : Nat)
  | notApplicable
  deriving DecidableEq, Repr

namespace Percentage

/-- The greatest percentage that is told apart. -/
def limit : Nat := 4294967295

/-- The share of `documented` in `total`. -/
def of (documented total : Nat) : Percentage :=
  if total = 0 then .notApplicable
  else
    let share := ((Ratio.ofNat documented).div (Ratio.ofNat total)).scale 100
    .value (min (divNearestUp share.num share.den) limit)

/-- A percentage as it is shown. -/
def display : Percentage → String
  | value percent => toString percent ++ "%"
  | notApplicable => "N/A"

end Percentage

end DocCoverage.Coverage
