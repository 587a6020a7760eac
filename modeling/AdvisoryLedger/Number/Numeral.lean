import AdvisoryLedger.Number.Binary64
import AdvisoryLedger.Text.Basic

/-!
# Numerals

A numeral is the text of a number: digits with an optional point among them and an
optional power of ten. `Numeral` holds the digits without the point and the power of ten
that belongs to the last of them, and `toBinary64` gives the nearest double.

`readNumeral?` reads the free form that a quoted score may have: a sign, digits on at least
one side of the point, an exponent, or one of the words `inf`, `infinity` and `nan` in
letters of any case.
-/

namespace AdvisoryLedger

/-- The number `± digits * 10 ^ exponent`. -/
structure Numeral where
  negative : Bool
  digits : List Char
  exponent : Int
  deriving Repr

namespace Numeral

/-- The numeral as a double. Beyond the exponents that a double can have, the answer is
zero or infinity and no power of ten is computed. -/
def toBinary64 (n : Numeral) : Binary64 :=
  let significant := n.digits.dropWhile (· == '0')
  let leading := significant.length + n.exponent
  if significant.isEmpty || leading < -330 then Binary64.zero n.negative
  else if 310 < leading then Binary64.infinity n.negative
  else
    let whole := Text.decimal significant
    if 0 ≤ n.exponent then Binary64.ofRatio n.negative (whole * Nat.pow 10 n.exponent.toNat) 1
    else Binary64.ofRatio n.negative whole (Nat.pow 10 (-n.exponent).toNat)

end Numeral

namespace Text

/-- An optional sign: whether it is a minus, and the rest. -/
def readSign : List Char → Bool × List Char
  | '-' :: rest => (true, rest)
  | '+' :: rest => (false, rest)
  | cs => (false, cs)

/-- The whole text is an exponent without its letter. -/
def readExponent? (cs : List Char) : Option Int :=
  let (negative, digits) := readSign cs
  if digits.isEmpty || !digits.all isDigit then none
  else some (if negative then -(decimal digits : Int) else decimal digits)

/-- Digits, an optional point with more digits, and an optional exponent. -/
def readDecimal? (negative : Bool) (cs : List Char) : Option Numeral :=
  let whole := cs.takeWhile isDigit
  let afterWhole := cs.dropWhile isDigit
  let fraction := match afterWhole with
    | '.' :: rest => rest.takeWhile isDigit
    | _ => []
  let afterFraction := match afterWhole with
    | '.' :: rest => rest.dropWhile isDigit
    | rest => rest
  if whole.isEmpty && fraction.isEmpty then none
  else
    match afterFraction with
    | [] => some ⟨negative, whole ++ fraction, -(fraction.length : Int)⟩
    | e :: rest =>
      if e = 'e' || e = 'E' then
        (readExponent? rest).map fun x => ⟨negative, whole ++ fraction, x - fraction.length⟩
      else none

/-- The double that a text writes. -/
def readNumeral? (s : String) : Option Binary64 :=
  let (negative, cs) := readSign s.toList
  match readDecimal? negative cs with
  | some n => some n.toBinary64
  | none =>
    let word := String.ofList (cs.map Char.toLower)
    if word = "inf" || word = "infinity" then some (Binary64.infinity negative)
    else if word = "nan" then some Binary64.nan
    else none

end Text
end AdvisoryLedger
