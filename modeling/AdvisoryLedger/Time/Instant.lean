/-!
# Instants

An instant is a reading of the universal calendar and clock down to the nanosecond. The
readings are what is written and compared, so an instant is kept as its reading and no
count of seconds is needed.

A leap second has a reading of its own: second 59 with a billion nanoseconds or more, so
that it comes after every other reading of its minute and before the next minute. Since a
shift to another offset goes by whole minutes, it never moves the seconds.
-/

namespace AdvisoryLedger

def isLeapYear (year : Int) : Bool := year % 4 == 0 && (year % 100 != 0 || year % 400 == 0)

def daysInMonth (year : Int) (month : Nat) : Nat :=
  if month = 2 then (if isLeapYear year then 29 else 28)
  else if month = 4 ∨ month = 6 ∨ month = 9 ∨ month = 11 then 30
  else 31

theorem daysInMonth_pos (year : Int) (month : Nat) : 1 ≤ daysInMonth year month := by
  unfold daysInMonth
  repeat' split
  all_goals decide

structure Date where
  year : Int
  month : Nat
  day : Nat
  one_le_month : 1 ≤ month
  month_le : month ≤ 12
  one_le_day : 1 ≤ day
  day_le : day ≤ daysInMonth year month
  deriving DecidableEq

namespace Date

/-- The day with the given numbers, where there is one. -/
def of? (year : Int) (month day : Nat) : Option Date :=
  if h : (1 ≤ month ∧ month ≤ 12) ∧ 1 ≤ day ∧ day ≤ daysInMonth year month then
    some ⟨year, month, day, h.1.1, h.1.2, h.2.1, h.2.2⟩
  else none

def next (d : Date) : Date :=
  if h : d.day + 1 ≤ daysInMonth d.year d.month then
    ⟨d.year, d.month, d.day + 1, d.one_le_month, d.month_le, by omega, h⟩
  else if h' : d.month + 1 ≤ 12 then
    ⟨d.year, d.month + 1, 1, by omega, h', by omega, daysInMonth_pos _ _⟩
  else ⟨d.year + 1, 1, 1, by omega, by omega, by omega, daysInMonth_pos _ _⟩

def previous (d : Date) : Date :=
  if h : 1 ≤ d.day - 1 then
    ⟨d.year, d.month, d.day - 1, d.one_le_month, d.month_le, h, by have := d.day_le; omega⟩
  else if h' : 1 ≤ d.month - 1 then
    ⟨d.year, d.month - 1, daysInMonth d.year (d.month - 1), h', by have := d.month_le; omega,
      daysInMonth_pos _ _, Nat.le_refl _⟩
  else ⟨d.year - 1, 12, 31, by omega, by omega, by omega, by simp [daysInMonth]⟩

end Date

def nanosPerSecond : Nat := 1000000000

/-- A reading of the universal calendar and clock. -/
structure Instant where
  date : Date
  hour : Nat
  minute : Nat
  second : Nat
  nano : Nat
  hour_lt : hour < 24
  minute_lt : minute < 60
  second_lt : second < 60
  nano_lt : nano < 2 * nanosPerSecond
  leap : nanosPerSecond ≤ nano → second = 59
  deriving DecidableEq

namespace Instant

def minutesPerDay : Nat := 1440

/-- The reading with another date and another minute of the day. -/
def withMinutes (t : Instant) (date : Date) (minutes : Nat) (h : minutes < minutesPerDay) :
    Instant :=
  { t with
    date := date
    hour := minutes / 60
    minute := minutes % 60
    hour_lt := by unfold minutesPerDay at h; omega
    minute_lt := Nat.mod_lt _ (by decide) }

/-- The instant some minutes later, or earlier, by less than a day. Minutes beyond that count
as the last minute of the neighbouring day. -/
def addMinutes (t : Instant) (minutes : Int) : Instant :=
  let total : Int := 60 * t.hour + t.minute + minutes
  if total < 0 then
    let m := (total + minutesPerDay).toNat
    t.withMinutes t.date.previous (min m 1439)
      (by unfold minutesPerDay; omega)
  else if total < minutesPerDay then
    t.withMinutes t.date (min total.toNat 1439) (by unfold minutesPerDay; omega)
  else
    let m := (total - minutesPerDay).toNat
    t.withMinutes t.date.next (min m 1439) (by unfold minutesPerDay; omega)

def isLeap (t : Instant) : Bool := nanosPerSecond ≤ t.nano

/-- The second as a clock shows it, where a leap second is number 60. -/
def shownSecond (t : Instant) : Nat := if t.isLeap then t.second + 1 else t.second

/-- The part of the second as a clock shows it. -/
def shownNano (t : Instant) : Nat := t.nano % nanosPerSecond

/-- The numbers of a reading from the year down, which are in the order of time. -/
def key (t : Instant) : Int × List Nat :=
  (t.date.year, [t.date.month, t.date.day, t.hour, t.minute, t.second, t.nano])

def before (s t : Instant) : Prop :=
  s.key.1 < t.key.1 ∨ (s.key.1 = t.key.1 ∧ s.key.2 < t.key.2)

end Instant
end AdvisoryLedger
