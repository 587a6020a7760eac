import AdvisoryLedger.Number.Binary64
import AdvisoryLedger.Text.Basic

/-!
# Doubles as decimal text

Two ways to write a double in base ten.

`shortest` finds the fewest digits that lead back to the double. The reals that round to a
double form an interval around it, ends included exactly when its significand is even. For
one digit, two digits, and so on, the two neighbours of the double on that decimal grid are
the only candidates; the first grid with one of them in the interval wins, of two in it the
nearer one, and of two equally near the one with an even last digit. Seventeen digits
always suffice.

`toFixed1` rounds the exact value to one decimal, a half to the even digit.
-/

namespace AdvisoryLedger

/-- The positive number `digits * 10 ^ exponent`. -/
structure Decimal where
  digits : Nat
  exponent : Int
  deriving DecidableEq, Repr

namespace Binary64

/-- The reals that round to a positive finite double, as numbers over a common
denominator: the lower end, the double, the upper end, and whether the ends belong. -/
structure Reach where
  low : Nat
  mid : Nat
  high : Nat
  denominator : Nat
  closed : Bool

/-- The interval of a positive finite double. Quarters of its spacing make all three points
whole, for the lower half is narrower below a power of two. -/
def reach (x : Binary64) : Reach :=
  let unit := Nat.pow 2 x.scale
  let mid := 4 * x.significand * unit
  let narrow := x.significand == fractionSize && 0 < x.scale
  { low := mid - (if narrow then unit else 2 * unit)
    mid := mid
    high := mid + 2 * unit
    denominator := 4 * unitsPerOne
    closed := x.significand % 2 == 0 }

/-- The point `n * 10 ^ exponent`, times the denominator and a power of ten that makes it
whole: the point and the factor for the interval. -/
def Reach.onGrid (r : Reach) (n : Nat) (exponent : Int) : Nat × Nat :=
  if 0 ≤ exponent then (n * Nat.pow 10 exponent.toNat * r.denominator, 1)
  else (n * r.denominator, Nat.pow 10 (-exponent).toNat)

def Reach.holds (r : Reach) (n : Nat) (exponent : Int) : Bool :=
  let (point, factor) := r.onGrid n exponent
  if r.closed then r.low * factor ≤ point && point ≤ r.high * factor
  else r.low * factor < point && point < r.high * factor

/-- The greatest point of the grid that is not above the double. -/
def Reach.below (r : Reach) (exponent : Int) : Nat :=
  if 0 ≤ exponent then r.mid / (r.denominator * Nat.pow 10 exponent.toNat)
  else r.mid * Nat.pow 10 (-exponent).toNat / r.denominator

/-- The best point of the grid that lies in the interval. -/
def Reach.best? (r : Reach) (exponent : Int) : Option Nat :=
  let lower := r.below exponent
  let upper := lower + 1
  match 0 < lower && r.holds lower exponent, r.holds upper exponent with
  | false, false => none
  | true, false => some lower
  | false, true => some upper
  | true, true =>
    let (point, factor) := r.onGrid lower exponent
    let (next, _) := r.onGrid upper exponent
    let toLower := r.mid * factor - point
    let toUpper := next - r.mid * factor
    if toLower < toUpper then some lower
    else if toUpper < toLower then some upper
    else some (if lower % 2 = 0 then lower else upper)

/-- The exponent of ten of the leading digit of `num / den`, or one more. -/
def leadingExponent (num den : Nat) : Int :=
  if den ≤ num then ((num / den).log2 * 30103 / 100000 : Nat) + 1
  else -((((den / num).log2 * 30103 / 100000 : Nat) : Int))

/-- The first grid, from coarse to fine, that has a point in the interval. -/
def Reach.search (r : Reach) : Nat → Int → Decimal
  | 0, exponent => ⟨r.below exponent, exponent⟩
  | tries + 1, exponent =>
    match r.best? exponent with
    | some n => ⟨n, exponent⟩
    | none => r.search tries (exponent - 1)

/-- The number of twenty grids reaches past seventeen digits from any first guess. -/
def gridCount : Nat := 20

/-- The fewest digits that lead back to a positive finite double. -/
def shortest (x : Binary64) : Decimal :=
  let r := x.reach
  r.search gridCount (leadingExponent r.mid r.denominator)

def toFixed1 (x : Binary64) : String :=
  let tenths := roundHalfEven (10 * x.units) unitsPerOne
  (if x.isNegative then "-" else "") ++ Text.ofNat (tenths / 10) ++ "." ++ Text.ofNat (tenths % 10)

end Binary64
end AdvisoryLedger
