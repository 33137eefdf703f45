/-!
# Rounding to a fixed number of binary digits

A positive ratio is rounded to the nearest number with 53 significant binary digits, a tie going to
the neighbour whose last digit is even. Ratios are kept exactly, as a numerator and a denominator.
-/

namespace DocCoverage

/-- An exact ratio of natural numbers. -/
structure Ratio where
  num : Nat
  den : Nat
  deriving DecidableEq, Repr

/-- The whole number nearest to a quotient, a tie going to the even neighbour. -/
def divNearestEven (num den : Nat) : Nat :=
  let whole := num / den
  let twice := 2 * (num % den)
  if twice < den then whole
  else if den < twice then whole + 1
  else if whole % 2 = 0 then whole else whole + 1

/-- The whole number nearest to a quotient, a tie going up. -/
def divNearestUp (num den : Nat) : Nat := (2 * num + den) / (2 * den)

/-- The number of significant binary digits kept. -/
def precision : Nat := 53

/-- The power of two with an exponent. -/
def twoPow (exponent : Nat) : Nat := Nat.pow 2 exponent

/-- The exponent of the greatest power of two that is at most a positive ratio. -/
def Ratio.exponent (ratio : Ratio) : Int :=
  let estimate : Int := (ratio.num.log2 : Int) - (ratio.den.log2 : Int)
  if ratio.den * twoPow estimate.toNat ≤ ratio.num * twoPow (-estimate).toNat then estimate
  else estimate - 1

/-- A ratio rounded to the nearest number with `precision` significant binary digits. -/
def Ratio.round (ratio : Ratio) : Ratio :=
  if ratio.num = 0 then ⟨0, 1⟩
  else
    let shift : Int := (precision : Int) - 1 - ratio.exponent
    let digits :=
      divNearestEven (ratio.num * twoPow shift.toNat) (ratio.den * twoPow (-shift).toNat)
    ⟨digits * twoPow (-shift).toNat, twoPow shift.toNat⟩

/-- A whole number, rounded. -/
def Ratio.ofNat (n : Nat) : Ratio := Ratio.round ⟨n, 1⟩

/-- The rounded quotient of two ratios. -/
def Ratio.div (a b : Ratio) : Ratio := Ratio.round ⟨a.num * b.den, a.den * b.num⟩

/-- The rounded sum of two ratios. -/
def Ratio.add (a b : Ratio) : Ratio := Ratio.round ⟨a.num * b.den + b.num * a.den, a.den * b.den⟩

/-- Whether a ratio is less than another. -/
def Ratio.lt (a b : Ratio) : Bool := a.num * b.den < b.num * a.den

/-- The rounded product of a ratio and a whole number that needs no rounding itself. -/
def Ratio.scale (a : Ratio) (n : Nat) : Ratio := Ratio.round ⟨a.num * n, a.den⟩

end DocCoverage
