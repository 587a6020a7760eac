import AdvisoryLedger.Number.Numeral
import AdvisoryLedger.Number.Word
import AdvisoryLedger.Time.Instant
import AdvisoryLedger.Toml.Text
import AdvisoryLedger.Toml.Value

/-!
# Numbers, dates and words in TOML

A value without quotes and brackets is a run of characters that has to be, as a whole, one
of the two booleans, an integer, a float, or a date or time. Only a date may have a space
in it, before the time of day.

What a run is shows at its front: decimal digits with nothing behind them are an integer,
with a dash or a colon behind them a date or time, and a point or an exponent makes a float.
The form of a number is checked here, and what it is worth is a second question with an
answer of its own: none, if the digits are no number of the base or one too large.
-/

namespace AdvisoryLedger
namespace Toml

open Text

/-- A character of a value without quotes. -/
def isScalarChar (c : Char) : Bool :=
  !(isSpace c || c = '\r' || c = '\n' || c ∈ ['=', ',', '[', ']', '\x7b', '\x7d', '#'])

/-! ### Underscores -/

/-- The part of a number before an underscore may be followed by one: its last character is a
digit, or it is a sign alone. -/
def mayPrecedeUnderscore (isDigitOf : Char → Bool) (part : List Char) : Bool :=
  match part.reverse with
  | [] => false
  | [c] => isDigitOf c || c = '+' || c = '-'
  | c :: _ => isDigitOf c

/-- The part of a number behind an underscore begins with a digit. -/
def mayFollowUnderscore (isDigitOf : Char → Bool) (part : List Char) : Bool :=
  part.head?.any isDigitOf

/-- The number without its underscores, each of which has to stand between two digits, or
between a sign and a digit. -/
def withoutUnderscores? (isDigitOf : Char → Bool) (cs : List Char) : Option (List Char) :=
  let parts := cs.splitOn '_'
  if parts.dropLast.all (mayPrecedeUnderscore isDigitOf)
      && parts.tail.all (mayFollowUnderscore isDigitOf) then
    some parts.flatten
  else none

def isAnyDigit (c : Char) : Bool := (hexDigit? c).isSome

def isDigitOrUnderscore (c : Char) : Bool := isDigit c || c = '_'

/-! ### Integers -/

/-- The integers that can be read at all. -/
def integerInRange? (n : Int) : Option Int :=
  if Word.fitsSigned Word.size128 n || (0 ≤ n && n < Word.size128) then some n else none

/-- What a row of digits is worth in a base. -/
def worth? (base : Nat) (digits : List Char) : Option Nat := do
  if digits.isEmpty then none
  let values ← digits.mapM hexDigit?
  if values.all (· < base) then some (values.foldl (fun n d => base * n + d) 0) else none

/-- An integer after a mark that gives its base. It may have no digits at all, and is then
worth nothing. -/
def basedInteger? (base : Nat) (cs : List Char) : Option Value := do
  if cs.any fun c => !(c = '_' || (hexDigit? c).any (· < base)) then none
  let digits ← withoutUnderscores? isAnyDigit cs
  some (.integer ((worth? base digits).bind fun n => integerInRange? n))

/-- A decimal integer, without a needless zero in front. What stands behind its first
underscore need not be decimal, but then it is worth nothing. -/
def decimalInteger? (cs : List Char) : Option Value := do
  let body := (readSign cs).2
  if body.isEmpty || (body.head? = some '0' && body.length ≠ 1) then none
  let (negative, digits) := readSign (← withoutUnderscores? isAnyDigit cs)
  some (.integer ((worth? 10 digits).bind fun n =>
    integerInRange? (if negative then -(n : Int) else n)))

/-! ### Floats -/

/-- Digits, with underscores among them, in front of a text: there is at least one. -/
def digitGroup? (cs : List Char) : Option (List Char × List Char) :=
  let front := cs.takeWhile isDigitOrUnderscore
  if front.any isDigit then some (front, cs.dropWhile isDigitOrUnderscore) else none

/-- The digits behind a point, where there is one. -/
def fraction? : List Char → Option (List Char × List Char)
  | '.' :: cs => digitGroup? cs
  | cs => some ([], cs)

/-- The exponent behind its letter, where there is one. -/
def exponent? : List Char → Option (Int × List Char)
  | e :: cs =>
    if e = 'e' || e = 'E' then do
      let (negative, body) := readSign cs
      let (digits, rest) ← digitGroup? body
      let n : Int := decimal (digits.filter isDigit)
      some (if negative then -n else n, rest)
    else some (0, e :: cs)
  | [] => some (0, [])

def finite? (x : Binary64) : Option Binary64 := if x.isInfinite then none else some x

/-- A float with a point or an exponent, without a needless zero in front. -/
def decimalFloat? (cs : List Char) : Option Value := do
  let (negative, body) := readSign cs
  let (whole, rest) ← digitGroup? body
  if whole.head? = some '0' && (whole.filter isDigit).length ≠ 1 then none
  let (fraction, rest) ← fraction? rest
  let (exponent, rest) ← exponent? rest
  if !rest.isEmpty then none
  let _ ← withoutUnderscores? isDigit cs
  let fraction := fraction.filter isDigit
  some (.float (finite? (Numeral.mk negative (whole.filter isDigit ++ fraction)
    (exponent - fraction.length)).toBinary64))

/-- One of the two words for floats that are not finite. -/
def namedFloat? (cs : List Char) : Option Value :=
  let (negative, body) := readSign cs
  if body = ['i', 'n', 'f'] then some (.float (some (Binary64.infinity negative)))
  else if body = ['n', 'a', 'n'] then some (.float (some Binary64.nan))
  else none

/-- A number that does not begin with a mark for its base. -/
def plainNumber? (cs : List Char) : Option Value :=
  match (readSign cs).2.dropWhile isDigit with
  | [] => decimalInteger? cs
  | c :: rest =>
    if (c :: rest).any (· ∈ ['.', 'e', 'E']) then decimalFloat? cs
    else if c = '_' then decimalInteger? cs
    else none

def number? : List Char → Option Value
  | '0' :: 'x' :: cs => basedInteger? 16 cs
  | '0' :: 'o' :: cs => basedInteger? 8 cs
  | '0' :: 'b' :: cs => basedInteger? 2 cs
  | cs => (namedFloat? cs).or (plainNumber? cs)

/-! ### Dates and times -/

/-- Two digits, as a number up to a limit. -/
def twoDigits? (limit : Nat) : Reader Nat
  | a :: b :: rest =>
    if isDigit a && isDigit b && decimal [a, b] ≤ limit then some (decimal [a, b], rest) else none
  | _ => none

def date : Reader Date
  | y₁ :: y₂ :: y₃ :: y₄ :: '-' :: rest => do
    if [y₁, y₂, y₃, y₄].any fun y => !isDigit y then none
    match ← twoDigits? 12 rest with
    | (month, '-' :: rest) => do
      let (day, rest) ← twoDigits? 31 rest
      let d ← Date.of? (decimal [y₁, y₂, y₃, y₄]) month day
      some (d, rest)
    | _ => none
  | _ => none

/-- A time of day, whose seconds may be left out: the text behind it. -/
def afterTime? (cs : List Char) : Option (List Char) := do
  match ← twoDigits? 23 cs with
  | (_, ':' :: rest) =>
    match ← twoDigits? 59 rest with
    | (_, ':' :: rest) =>
      match ← twoDigits? 60 rest with
      | (_, '.' :: rest) =>
        if (rest.takeWhile isDigit).isEmpty then none else some (rest.dropWhile isDigit)
      | (_, rest) => some rest
    | (_, rest) => some rest
  | _ => none

/-- Nothing, or an offset from universal time. -/
def isOffset : List Char → Bool
  | [] => true
  | ['Z'] | ['z'] => true
  | sign :: rest =>
    (sign = '+' || sign = '-') &&
      match twoDigits? 23 rest with
      | some (_, ':' :: rest) =>
        match twoDigits? 59 rest with
        | some (_, []) => true
        | _ => false
      | _ => false

/-- A date, a time, or both with or without an offset. -/
def isDatetime (cs : List Char) : Bool :=
  match date cs with
  | some (_, []) => true
  | some (_, mark :: rest) =>
    (mark = 'T' || mark = 't' || mark = ' ') &&
      match afterTime? rest with
      | some rest => isOffset rest
      | none => false
  | none => afterTime? cs == some []

/-! ### Values -/

/-- The run of characters that a value without quotes takes up. A date that a space and a
digit follow goes on with the time. -/
def scalarRun (cs : List Char) : List Char × List Char :=
  let front := cs.takeWhile isScalarChar
  let rest := cs.dropWhile isScalarChar
  match rest with
  | ' ' :: c :: more =>
    if isDigit c && (date front matches some (_, [])) then
      (front ++ ' ' :: (c :: more).takeWhile isScalarChar, (c :: more).dropWhile isScalarChar)
    else (front, rest)
  | _ => (front, rest)

/-- A value without quotes and brackets. -/
def scalar : Reader Value := fun cs =>
  let (run, rest) := scalarRun cs
  if run = "true".toList then some (.boolean true, rest)
  else if run = "false".toList then some (.boolean false, rest)
  else if isDatetime run then some (.datetime (String.ofList run), rest)
  else (number? run).map (·, rest)

end Toml
end AdvisoryLedger
