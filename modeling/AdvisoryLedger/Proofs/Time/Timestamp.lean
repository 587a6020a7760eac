import AdvisoryLedger.Proofs.Text.Digits
import AdvisoryLedger.Time.Rfc3339

/-!
# Timestamps are read back

An instant that is written as a timestamp and read again is the same instant, down to the
nanosecond and in a leap second too. That is so for the years that four digits can write;
another year is written with a sign, and no timestamp begins with one.

The text is taken apart from the left: each field is read by a lemma on that field followed
by any rest, and the lemmas on the parts of an instant come last.
-/

namespace AdvisoryLedger

open Text

namespace Timestamp

theorem digits?_padded {count n : Nat} (hcount : 0 < count) (h : n < 10 ^ count)
    (rest : List Char) : digits? count ((padded count n).toList ++ rest) = some (n, rest) := by
  have hlength := length_padded hcount h
  have htake : ((padded count n).toList ++ rest).take count = (padded count n).toList :=
    List.take_left' hlength
  have hdrop : ((padded count n).toList ++ rest).drop count = rest := List.drop_left' hlength
  have hall : (padded count n).toList.all isDigit = true :=
    List.all_eq_true.mpr fun _ hc => isDigit_of_mem_padded hc
  unfold digits?
  simp only [htake, hdrop, hall, hlength, decide_true, Bool.and_self, if_true, decimal_padded]

theorem digits?_lt {count n : Nat} {cs rest : List Char} (h : digits? count cs = some (n, rest)) :
    n < 10 ^ count := by
  unfold digits? at h
  dsimp only at h
  split at h
  · next hdigits =>
    rw [Bool.and_eq_true, decide_eq_true_eq, List.all_eq_true] at hdigits
    obtain ⟨rfl, -⟩ := Prod.mk.inj (Option.some.inj h)
    have hlt := decimal_lt hdigits.2
    rwa [hdigits.1] at hlt
  · cases h

/-- A text that begins with something else has no number in front. -/
theorem digits?_eq_none {count : Nat} (hcount : 0 < count) {c : Char} (hc : isDigit c = false)
    (cs : List Char) : digits? count (c :: cs) = none := by
  obtain ⟨count, rfl⟩ := Nat.exists_eq_add_one.mpr hcount
  unfold digits?
  simp [hc]

theorem mark?_cons {marks : List Char} {c : Char} (h : c ∈ marks) (cs : List Char) :
    mark? marks (c :: cs) = some cs :=
  if_pos h

/-! ### The fraction of a second -/

theorem fraction?_padded {count more n : Nat} (hcount : 0 < count) (hnine : count + more = 9)
    (h : n < 10 ^ count) {rest : List Char} (hrest : ∀ c ∈ rest.head?, isDigit c = false) :
    fraction? ('.' :: ((padded count n).toList ++ rest)) = some (n * 10 ^ more, rest) := by
  have hlength := length_padded hcount h
  have hnil : (padded count n).toList ≠ [] := by
    rw [← List.length_pos_iff, hlength]
    exact hcount
  have htake : ((padded count n).toList ++ List.replicate 9 '0').take 9
      = (padded count n).toList ++ List.replicate more '0' := by
    rw [List.take_append, List.take_of_length_le (by omega), hlength, List.take_replicate,
      show min (9 - count) 9 = more by omega]
  unfold fraction?
  simp only [takeWhile_padded rest hrest, dropWhile_padded rest hrest, htake,
    List.isEmpty_eq_false_iff.mpr hnil, decimal_append_zeros, decimal_padded, Bool.false_eq_true,
    if_false]

/-- The shortest exact fraction is read back, and none is zero. -/
theorem fraction?_fractionText {nano : Nat} (h : nano < nanosPerSecond) (cs : List Char) :
    fraction? ((Instant.fractionText nano).toList ++ '+' :: cs) = some (nano, '+' :: cs) := by
  have hsign : ∀ c ∈ ('+' :: cs).head?, isDigit c = false := by
    intro c hc
    cases hc
    rfl
  -- a field of three, six or nine digits that holds the whole fraction
  have hfield (count more : Nat) {n : Nat} (hcount : 0 < count) (hnine : count + more = 9)
      (hn : n < 10 ^ count) (hexact : n * 10 ^ more = nano) :
      fraction? (("." ++ padded count n).toList ++ '+' :: cs) = some (nano, '+' :: cs) := by
    have hdot : ".".toList = ['.'] := rfl
    rw [String.toList_append, hdot, List.append_assoc, List.singleton_append, ← hexact]
    exact fraction?_padded hcount hnine hn hsign
  unfold nanosPerSecond at h
  unfold Instant.fractionText
  split
  · next hzero =>
    subst hzero
    rfl
  · split
    · exact hfield 3 6 (by decide) rfl (by omega) (by omega)
    · split
      · exact hfield 6 3 (by decide) rfl (by omega) (by omega)
      · exact hfield 9 0 (by decide) rfl (by omega) (by omega)

end Timestamp

namespace Instant

open Timestamp

/-! ### The parts of an instant -/

theorem of?_date (d : Date) : Date.of? d.year d.month d.day = some d :=
  dif_pos ⟨⟨d.one_le_month, d.month_le⟩, d.one_le_day, d.day_le⟩

theorem daysInMonth_le (year : Int) (month : Nat) : daysInMonth year month ≤ 31 := by
  unfold daysInMonth
  repeat' split
  all_goals decide

/-- The numbers that a clock shows tell the instant. -/
theorem of?_shown (t : Instant) (hyear : 0 ≤ t.date.year) :
    of? t.date.year.toNat t.date.month t.date.day t.hour t.minute t.shownSecond t.shownNano
      = some t := by
  have hdate : Date.of? (t.date.year.toNat : Int) t.date.month t.date.day = some t.date := by
    rw [Int.toNat_of_nonneg hyear]
    exact of?_date t.date
  have hns : nanosPerSecond = 1000000000 := rfl
  unfold of?
  rw [hdate]
  obtain ⟨date, hour, minute, second, nano, hhour, hminute, hsecond, hnano, hleap⟩ := t
  simp only [Option.bind_eq_bind, Option.bind_some, shownSecond, shownNano, isLeap,
    decide_eq_true_eq]
  by_cases hn : nanosPerSecond ≤ nano
  · -- the second after second 59
    have h59 := hleap hn
    have hmod : nano % nanosPerSecond = nano - nanosPerSecond := by
      rw [Nat.mod_eq_sub_mod hn, Nat.mod_eq_of_lt (by omega)]
    simp only [if_pos hn, hmod]
    rw [dif_pos (by omega), dif_neg (by omega)]
    simp only [Option.some.injEq, Instant.mk.injEq, true_and]
    omega
  · simp only [if_neg hn, Nat.mod_eq_of_lt (Nat.lt_of_not_le hn)]
    rw [dif_pos (by omega), dif_pos (by omega)]

/-- Going over from no offset changes nothing. -/
theorem addMinutes_zero (t : Instant) : t.addMinutes 0 = t := by
  have hhour := t.hour_lt
  have hminute := t.minute_lt
  unfold addMinutes minutesPerDay
  dsimp only
  rw [if_neg (by omega), if_pos (by omega)]
  obtain ⟨date, hour, minute, second, nano, _, _, _, _, _⟩ := t
  simp only [withMinutes, Instant.mk.injEq, true_and, and_true]
  simp only at hhour hminute
  omega

/-! ### Whole timestamps -/

/-- The year can be written with four digits. -/
def hasPlainYear (t : Instant) : Bool := decide (0 ≤ t.date.year ∧ t.date.year ≤ 9999)

theorem toList_timestamp {t : Instant} (h : t.hasPlainYear = true) :
    t.timestamp.toList = (padded 4 t.date.year.toNat).toList ++ ('-' ::
      ((padded 2 t.date.month).toList ++ ('-' :: ((padded 2 t.date.day).toList ++ ('T' ::
      ((padded 2 t.hour).toList ++ (':' :: ((padded 2 t.minute).toList ++ (':' ::
      ((padded 2 t.shownSecond).toList ++ ((fractionText t.shownNano).toList ++
      ['+', '0', '0', ':', '0', '0']))))))))))) := by
  have hdash : "-".toList = ['-'] := rfl
  have hcolon : ":".toList = [':'] := rfl
  have hletter : "T".toList = ['T'] := rfl
  have hzone : "+00:00".toList = ['+', '0', '0', ':', '0', '0'] := rfl
  unfold timestamp yearText
  rw [if_pos (of_decide_eq_true h)]
  simp only [String.toList_append, List.append_assoc, hdash, hcolon, hletter, hzone,
    List.cons_append, List.nil_append]

theorem bind_of_eq_some {α β : Type} {o : Option α} {a : α} {f : α → Option β} (h : o = some a) :
    o.bind f = f a := by
  rw [h, Option.bind_some]

theorem ofTimestamp?_timestamp {t : Instant} (h : t.hasPlainYear = true) :
    ofTimestamp? t.timestamp = some t := by
  obtain ⟨hyear, hyear'⟩ := of_decide_eq_true h
  have hmonth := t.date.month_le
  have hday := t.date.day_le
  have hdays := daysInMonth_le t.date.year t.date.month
  have hhour := t.hour_lt
  have hminute := t.minute_lt
  have hsecond : t.shownSecond < 10 ^ 2 := by
    have := t.second_lt
    unfold shownSecond
    split <;> omega
  have hnano : t.shownNano < nanosPerSecond := Nat.mod_lt _ (by decide)
  have hdash (cs : List Char) : mark? ['-'] ('-' :: cs) = some cs := mark?_cons (by decide) cs
  have hletter (cs : List Char) : mark? ['T', 't', ' '] ('T' :: cs) = some cs :=
    mark?_cons (by decide) cs
  have hcolon (cs : List Char) : mark? [':'] (':' :: cs) = some cs := mark?_cons (by decide) cs
  have hoffset : offset? ['+', '0', '0', ':', '0', '0'] = some 0 := by decide
  unfold ofTimestamp?
  rw [toList_timestamp h]
  -- the fields in their order, each with the mark after it
  refine (bind_of_eq_some (digits?_padded (by decide) (by omega) _)).trans ?_
  refine (bind_of_eq_some (hdash _)).trans ?_
  refine (bind_of_eq_some (digits?_padded (by decide) (by omega) _)).trans ?_
  refine (bind_of_eq_some (hdash _)).trans ?_
  refine (bind_of_eq_some (digits?_padded (by decide) (by omega) _)).trans ?_
  refine (bind_of_eq_some (hletter _)).trans ?_
  refine (bind_of_eq_some (digits?_padded (by decide) (by omega) _)).trans ?_
  refine (bind_of_eq_some (hcolon _)).trans ?_
  refine (bind_of_eq_some (digits?_padded (by decide) (by omega) _)).trans ?_
  refine (bind_of_eq_some (hcolon _)).trans ?_
  refine (bind_of_eq_some (digits?_padded (by decide) hsecond _)).trans ?_
  refine (bind_of_eq_some (fraction?_fractionText hnano _)).trans ?_
  refine (bind_of_eq_some hoffset).trans ?_
  refine (bind_of_eq_some (of?_shown t hyear)).trans ?_
  rw [Int.neg_zero, addMinutes_zero]

/-- Any other year has a sign in front. -/
theorem exists_sign_of_hasPlainYear {t : Instant} (h : t.hasPlainYear = false) :
    ∃ sign cs, (sign = '-' ∨ sign = '+') ∧ t.timestamp.toList = sign :: cs := by
  unfold timestamp yearText
  rw [if_neg (of_decide_eq_false h)]
  simp only [String.toList_append, List.append_assoc]
  split
  · exact ⟨'-', _, .inl rfl, rfl⟩
  · exact ⟨'+', _, .inr rfl, rfl⟩

theorem ofTimestamp?_timestamp_eq_none {t : Instant} (h : t.hasPlainYear = false) :
    ofTimestamp? t.timestamp = none := by
  obtain ⟨sign, cs, hsign, htext⟩ := exists_sign_of_hasPlainYear h
  have hdigit : isDigit sign = false := by
    rcases hsign with rfl | rfl <;> decide
  unfold ofTimestamp?
  rw [htext, digits?_eq_none (by decide) hdigit]
  rfl

/-! ### The years that are read

A text has a year of four digits. Its offset is less than a day, so it leads to universal time
within these years or to a day next to them.
-/

theorem next_year (d : Date) : d.next.year = d.year ∨
    d.next.year = d.year + 1 ∧ d.next.month = 1 ∧ d.next.day = 1 := by
  unfold Date.next
  split
  · exact .inl rfl
  · split
    · exact .inl rfl
    · exact .inr ⟨rfl, rfl, rfl⟩

theorem previous_year (d : Date) : d.previous.year = d.year ∨
    d.previous.year = d.year - 1 ∧ d.previous.month = 12 ∧ d.previous.day = 31 := by
  unfold Date.previous
  split
  · exact .inl rfl
  · split
    · exact .inl rfl
    · exact .inr ⟨rfl, rfl, rfl⟩

theorem addMinutes_date (t : Instant) (minutes : Int) :
    (t.addMinutes minutes).date = t.date ∨ (t.addMinutes minutes).date = t.date.previous ∨
      (t.addMinutes minutes).date = t.date.next := by
  unfold addMinutes
  dsimp only
  split
  · exact .inr (.inl rfl)
  · split
    · exact .inl rfl
    · exact .inr (.inr rfl)

theorem year_of_of? {year month day hour minute second nano : Nat} {t : Instant}
    (h : of? year month day hour minute second nano = some t) : t.date.year = year := by
  obtain ⟨date, hdate, h⟩ := Option.bind_eq_some_iff.mp h
  have hyear : date.year = year := by
    unfold Date.of? at hdate
    split at hdate
    · cases hdate
      rfl
    · cases hdate
  split at h
  · split at h <;> cases h <;> exact hyear
  · cases h

/-- A field with a mark before it is there if what follows it is read. -/
theorem exists_of_field {α β γ : Type} {mark : Option α} {field : α → Option β}
    {next : β → Option γ} {c : γ} (h : (mark >>= fun rest => field rest >>= next) = some c) :
    ∃ b, next b = some c := by
  obtain ⟨_, -, h⟩ := Option.bind_eq_some_iff.mp h
  obtain ⟨b, -, h⟩ := Option.bind_eq_some_iff.mp h
  exact ⟨b, h⟩

/-- What a text tells before its offset is taken away. -/
theorem exists_reading_of_ofTimestamp? {text : String} {t : Instant}
    (h : ofTimestamp? text = some t) :
    ∃ (reading : Instant) (offset : Int), 0 ≤ reading.date.year ∧ reading.date.year ≤ 9999 ∧
      t = reading.addMinutes (-offset) := by
  unfold ofTimestamp? at h
  obtain ⟨⟨year, _⟩, hyear, h⟩ := Option.bind_eq_some_iff.mp h
  -- after the year come five fields, each with a mark before it
  obtain ⟨_, h⟩ := exists_of_field h
  obtain ⟨_, h⟩ := exists_of_field h
  obtain ⟨_, h⟩ := exists_of_field h
  obtain ⟨_, h⟩ := exists_of_field h
  obtain ⟨_, h⟩ := exists_of_field h
  obtain ⟨_, -, h⟩ := Option.bind_eq_some_iff.mp h
  obtain ⟨offset, -, h⟩ := Option.bind_eq_some_iff.mp h
  obtain ⟨reading, hreading, h⟩ := Option.bind_eq_some_iff.mp h
  have hlt := digits?_lt hyear
  rw [← Option.some.inj h]
  refine ⟨reading, offset, ?_, ?_, rfl⟩ <;> rw [year_of_of? hreading] <;> omega

/-- The first day after the years of four digits, or the last one before them. -/
def IsOutside (t : Instant) : Prop :=
  t.date.year = 10000 ∧ t.date.month = 1 ∧ t.date.day = 1 ∨
    t.date.year = -1 ∧ t.date.month = 12 ∧ t.date.day = 31

/-- An instant that was read has a year of four digits or is a day away from one. -/
theorem isOutside_of_ofTimestamp?_eq_some {text : String} {t : Instant}
    (h : ofTimestamp? text = some t) (hyear : t.hasPlainYear = false) : t.IsOutside := by
  have hyear := of_decide_eq_false hyear
  obtain ⟨reading, offset, hpos, hle, rfl⟩ := exists_reading_of_ofTimestamp? h
  unfold IsOutside
  rcases addMinutes_date reading (-offset) with hdate | hdate | hdate <;> rw [hdate] at hyear ⊢
  · omega
  · have := previous_year reading.date
    omega
  · have := next_year reading.date
    omega

end Instant
end AdvisoryLedger
