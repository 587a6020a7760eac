import AdvisoryLedger.Text.Basic
import AdvisoryLedger.Time.Instant

/-!
# Timestamps

The text of an instant: date and time with a letter or a space between them, an optional
fraction of a second, and the offset from universal time. `Instant.ofTimestamp?` reads it
and goes over to universal time. Digits of the fraction beyond the ninth do not count, and
second 60 is a leap second in any minute.

`Instant.timestamp` writes universal time with the shortest fraction of three, six or nine
digits that is exact, or none. A year that four digits cannot write has a sign.
-/

namespace AdvisoryLedger

open Text

namespace Timestamp

/-- A number of exactly so many digits, and the rest. -/
def digits? (count : Nat) (cs : List Char) : Option (Nat × List Char) :=
  let front := cs.take count
  if front.length = count && front.all isDigit then some (decimal front, cs.drop count) else none

/-- The rest after one of the given characters. -/
def mark? (marks : List Char) : List Char → Option (List Char)
  | c :: cs => if c ∈ marks then some cs else none
  | [] => none

/-- An optional point and digits, as nanoseconds. -/
def fraction? : List Char → Option (Nat × List Char)
  | '.' :: cs =>
    let front := cs.takeWhile isDigit
    let nine := (front ++ List.replicate 9 '0').take 9
    if front.isEmpty then none else some (decimal nine, cs.dropWhile isDigit)
  | cs => some (0, cs)

/-- The offset in minutes at the end of a timestamp. -/
def offset? : List Char → Option Int
  | ['Z'] | ['z'] => some 0
  | sign :: cs => do
    let negative ← if sign = '+' then some false
      else if sign = '-' || sign = '−' then some true
      else none
    let (hours, cs) ← digits? 2 cs
    let cs ← mark? [':'] cs
    let (minutes, cs) ← digits? 2 cs
    if cs.isEmpty && hours < 24 && minutes < 60 then
      let total : Int := 60 * hours + minutes
      some (if negative then -total else total)
    else none
  | [] => none

end Timestamp

namespace Instant

open Timestamp

/-- The reading with the given numbers, where there is one. Second 60 stands for the leap
second after second 59. -/
def of? (year month day hour minute second nano : Nat) : Option Instant := do
  let date ← Date.of? year month day
  if h : (hour < 24 ∧ minute < 60) ∧ second ≤ 60 ∧ nano < nanosPerSecond then
    if hs : second < 60 then
      some ⟨date, hour, minute, second, nano, h.1.1, h.1.2, hs, by have := h.2.2; omega,
        fun hn => absurd h.2.2 (by omega)⟩
    else
      some ⟨date, hour, minute, 59, nano + nanosPerSecond, h.1.1, h.1.2, by omega,
        by have := h.2.2; omega, fun _ => rfl⟩
  else none

def ofTimestamp? (s : String) : Option Instant := do
  let (year, cs) ← digits? 4 s.toList
  let (month, cs) ← digits? 2 (← mark? ['-'] cs)
  let (day, cs) ← digits? 2 (← mark? ['-'] cs)
  let (hour, cs) ← digits? 2 (← mark? ['T', 't', ' '] cs)
  let (minute, cs) ← digits? 2 (← mark? [':'] cs)
  let (second, cs) ← digits? 2 (← mark? [':'] cs)
  let (nano, cs) ← fraction? cs
  let offset ← offset? cs
  let t ← of? year month day hour minute second nano
  some (t.addMinutes (-offset))

/-- The instant so many seconds after the beginning of 1970. Days are counted in years that
begin in March, so that the day that only some years have is the last one. -/
def ofEpoch? (seconds nano : Nat) : Option Instant :=
  let days := seconds / 86400 + 719468
  let era := days / 146097
  let dayOfEra := days % 146097
  let yearOfEra := (dayOfEra - dayOfEra / 1460 + dayOfEra / 36524 - dayOfEra / 146096) / 365
  let dayOfYear := dayOfEra - (365 * yearOfEra + yearOfEra / 4 - yearOfEra / 100)
  let monthFromMarch := (5 * dayOfYear + 2) / 153
  let day := dayOfYear - (153 * monthFromMarch + 2) / 5 + 1
  let month := if monthFromMarch < 10 then monthFromMarch + 3 else monthFromMarch - 9
  let year := yearOfEra + 400 * era + if month ≤ 2 then 1 else 0
  of? year month day (seconds / 3600 % 24) (seconds / 60 % 60) (seconds % 60) nano

/-- The year with four digits, or with a sign and at least four. -/
def yearText (year : Int) : String :=
  if 0 ≤ year ∧ year ≤ 9999 then padded 4 year.toNat
  else (if year < 0 then "-" else "+") ++ padded 4 year.natAbs

/-- The shortest exact fraction with its point. -/
def fractionText (nano : Nat) : String :=
  if nano = 0 then ""
  else if nano % 1000000 = 0 then "." ++ padded 3 (nano / 1000000)
  else if nano % 1000 = 0 then "." ++ padded 6 (nano / 1000)
  else "." ++ padded 9 nano

def timestamp (t : Instant) : String :=
  yearText t.date.year ++ "-" ++ padded 2 t.date.month ++ "-" ++ padded 2 t.date.day ++ "T"
    ++ padded 2 t.hour ++ ":" ++ padded 2 t.minute ++ ":" ++ padded 2 t.shownSecond
    ++ fractionText t.shownNano ++ "+00:00"

end Instant
end AdvisoryLedger
