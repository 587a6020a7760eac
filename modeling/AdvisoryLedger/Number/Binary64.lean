/-!
# Binary floating point numbers

A score is a double, and its bits are part of what this library promises. So a double is
kept as its 64 bits, and rounding is exact arithmetic on natural numbers: a finite double
is a multiple `m` of `2 ^ -1074`, where `m = q * 2 ^ k` for some `q < 2 ^ 53`.

The layout of the bits makes rounding short. For `k` and `q` chosen so that `q` has 53
binary digits, or `k = 0`, the magnitude with value `q * 2 ^ k * 2 ^ -1074` has the bits
`k * 2 ^ 52 + q`; and when rounding carries `q` up to `2 ^ 53`, or beyond the largest
double, the same sum gives the bits of the next magnitude or of infinity.
-/

namespace AdvisoryLedger

/-- A double, by its bits: sign, eleven bits of exponent, 52 bits of fraction. -/
structure Binary64 where
  bits : UInt64
  deriving DecidableEq, Repr

namespace Binary64

/-- The quotient of two naturals rounded to the nearest one, a half to the even one. -/
def roundHalfEven (num den : Nat) : Nat :=
  let q := num / den
  let r := num % den
  if 2 * r < den then q
  else if den < 2 * r then q + 1
  else q + q % 2

def infinityBits : Nat := 0x7FF0000000000000

def ofMagnitude (negative : Bool) (magnitude : Nat) : Binary64 :=
  ⟨UInt64.ofNat (magnitude + if negative then 0x8000000000000000 else 0)⟩

/-- The number of fractions that 52 bits can write. -/
def fractionSize : Nat := 0x10000000000000

/-- How many of the smallest positive doubles make one. -/
def unitsPerOne : Nat := Nat.pow 2 1074

/-- The double nearest to `num / den`. -/
def ofRatio (negative : Bool) (num den : Nat) : Binary64 :=
  let scaled := num * unitsPerOne
  let k := (scaled / den).log2 - 52
  ofMagnitude negative (min (k * fractionSize + roundHalfEven scaled (den * Nat.pow 2 k)) infinityBits)

def ofNat (n : Nat) : Binary64 := ofRatio false n 1

/-- A number half way between two doubles goes to the even one. -/
example : ofNat (2 * fractionSize + 1) = ofNat (2 * fractionSize) := by decide +kernel

def zero (negative : Bool) : Binary64 := ofMagnitude negative 0

def infinity (negative : Bool) : Binary64 := ofMagnitude negative infinityBits

def nan : Binary64 := ⟨0x7FF8000000000000⟩

def isNegative (x : Binary64) : Bool := 0x8000000000000000 ≤ x.bits.toNat

/-- The bits below the sign. -/
def magnitude (x : Binary64) : Nat := x.bits.toNat % 0x8000000000000000

def isNaN (x : Binary64) : Bool := infinityBits < x.magnitude

def isInfinite (x : Binary64) : Bool := x.magnitude == infinityBits

def isFinite (x : Binary64) : Bool := x.magnitude < infinityBits

/-- The `k` of a finite double: its spacing to its neighbours is `2 ^ k * 2 ^ -1074`. -/
def scale (x : Binary64) : Nat := x.magnitude / fractionSize - 1

/-- The `q` of a finite double. -/
def significand (x : Binary64) : Nat := x.magnitude - x.scale * fractionSize

/-- A finite double without its sign, as a multiple of `2 ^ -1074`. -/
def units (x : Binary64) : Nat := x.significand * Nat.pow 2 x.scale

/-- The product of two finite doubles, rounded to the nearest double. -/
def mul (x y : Binary64) : Binary64 :=
  ofRatio (x.isNegative != y.isNegative) (x.units * y.units) (unitsPerOne * unitsPerOne)

/-- The quotient of a finite double by one that is not zero, rounded to the nearest double. -/
def div (x y : Binary64) : Binary64 :=
  ofRatio (x.isNegative != y.isNegative) x.units y.units

def neg (x : Binary64) : Binary64 := ofMagnitude (!x.isNegative) x.magnitude

/-- There are two zeros. -/
theorem magnitude_eq_zero_iff {x : Binary64} :
    x.magnitude = 0 ↔ x = zero false ∨ x = zero true := by
  obtain ⟨bits⟩ := x
  have hlt : bits.toNat < 2 * 0x8000000000000000 := bits.toNat_lt
  rw [mk.injEq, mk.injEq, ← UInt64.toNat_inj, ← UInt64.toNat_inj]
  show bits.toNat % 0x8000000000000000 = 0 ↔ bits.toNat = 0 ∨ bits.toNat = 0x8000000000000000
  omega

end Binary64
end AdvisoryLedger
