import AdvisoryLedger.Json.Value
import AdvisoryLedger.Number.Shortest

/-!
# Writing JSON

`Value.pretty` writes a value with one member or item on a line, indented by two blanks for
each level; an array or object with nothing in it stays on one line. Strings escape the
quote, the backslash and the controls, and nothing else.

A double is written with the fewest digits that lead back to it, positionally while the
power of ten of its first digit is between -5 and 15, and always with a point or an
exponent so that it reads as no integer. What is not finite is null.
-/

namespace AdvisoryLedger
namespace Json

/-! ### Strings -/

def twoHex (n : Nat) : List Char := [Nat.digitChar (n / 16), Nat.digitChar (n % 16)]

/-- A character as it stands in a string. -/
def writtenChar (c : Char) : List Char :=
  if c = '\x22' then ['\x5c', '\x22']
  else if c = '\x5c' then ['\x5c', '\x5c']
  else if c = '\x08' then ['\x5c', 'b']
  else if c = '\x0c' then ['\x5c', 'f']
  else if c = '\n' then ['\x5c', 'n']
  else if c = '\r' then ['\x5c', 'r']
  else if c = '\t' then ['\x5c', 't']
  else if c.toNat < 0x20 then ['\x5c', 'u', '0', '0'] ++ twoHex c.toNat
  else [c]

def writtenString (s : String) : String :=
  String.ofList ('\x22' :: s.toList.flatMap writtenChar ++ ['\x22'])

/-! ### Numbers -/

/-- The powers of ten of the first digit for which a double is written positionally. -/
def isPositional (power : Int) : Bool := -5 ≤ power && power ≤ 15

/-- A positive decimal, whose digits end in no zero unless they are one digit. -/
def writtenDecimal (d : Decimal) : String :=
  let digits := Nat.toDigits 10 d.digits
  let power : Int := digits.length - 1 + d.exponent
  let chars :=
    if !isPositional power then
      let mantissa := match digits with
        | [one] => [one]
        | first :: rest => first :: '.' :: rest
        | [] => []
      let sign := if power < 0 then '-' else '+'
      mantissa ++ 'e' :: sign :: Nat.toDigits 10 power.natAbs
    else if 0 ≤ d.exponent then
      digits ++ List.replicate d.exponent.toNat '0' ++ ['.', '0']
    else if 0 ≤ power then
      digits.take (power.toNat + 1) ++ '.' :: digits.drop (power.toNat + 1)
    else
      ['0', '.'] ++ List.replicate ((-power).toNat - 1) '0' ++ digits
  String.ofList chars

def writtenDouble (x : Binary64) : String :=
  if !x.isFinite then "null"
  else
    (if x.isNegative then "-" else "")
      ++ (if x.magnitude = 0 then "0.0" else writtenDecimal x.shortest)

def Number.written : Number → String
  | .natural n => Text.ofNat n
  | .negative n => "-" ++ Text.ofNat n
  | .real x => writtenDouble x

/-! ### Values -/

/-- The indentation of a level, after a line end. -/
def newLine (level : Nat) : String :=
  "\n" ++ String.ofList (List.replicate (2 * level) ' ')

/-- Lines between brackets, with commas. -/
def bracketed (opening closing : String) (level : Nat) (parts : List String) : String :=
  if parts.isEmpty then opening ++ closing
  else
    opening ++ newLine (level + 1) ++ ("," ++ newLine (level + 1)).intercalate parts
      ++ newLine level ++ closing

mutual
def Value.prettyAt (level : Nat) : Value → String
  | .null => "null"
  | .bool b => if b then "true" else "false"
  | .number n => n.written
  | .string s => writtenString s
  | .array items => bracketed "[" "]" level (prettyItems (level + 1) items)
  | .object members => bracketed "\x7b" "\x7d" level (prettyMembers (level + 1) members)

def prettyItems (level : Nat) : List Value → List String
  | [] => []
  | v :: vs => v.prettyAt level :: prettyItems level vs

def prettyMembers (level : Nat) : List (String × Value) → List String
  | [] => []
  | (key, v) :: rest => (writtenString key ++ ": " ++ v.prettyAt level) :: prettyMembers level rest
end

/-- A value as indented text. -/
def Value.pretty (v : Value) : String := v.prettyAt 0

end Json
end AdvisoryLedger
