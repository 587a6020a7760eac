import AdvisoryLedger.Proofs.Time.Timestamp

/-!
# Timestamps are in the order of time

Whoever sorts instants by their text sorts them by time, as long as four digits can write
their years. The fields from the year down to the second have a fixed width each, so they
compare as numbers. The fraction has no digits, three, six or nine; where the shorter one ends
the offset begins, and its sign comes before the point of a fraction and before every digit. A
leap second is written as second 60 and so stays behind the second that it extends.
-/

namespace AdvisoryLedger
namespace Instant

open Text Timestamp

/-! ### Fractions -/

/-- A fraction that is not zero is a point and at most nine digits that write it exactly. -/
theorem exists_fractionText {nano : Nat} (h : nano < nanosPerSecond) (hpos : nano ≠ 0) :
    ∃ digits, (fractionText nano).toList = '.' :: digits ∧ (∀ c ∈ digits, isDigit c = true) ∧
      digits.length ≤ 9 ∧ placed 9 digits = nano := by
  have hfield (count : Nat) {n : Nat} (hcount : 0 < count) (hnine : count ≤ 9)
      (hn : n < 10 ^ count) (hexact : n * 10 ^ (9 - count) = nano) :
      ∃ digits, ("." ++ padded count n).toList = '.' :: digits ∧
        (∀ c ∈ digits, isDigit c = true) ∧ digits.length ≤ 9 ∧ placed 9 digits = nano := by
    have hlength := length_padded hcount hn
    refine ⟨(padded count n).toList, ?_, fun c hc => isDigit_of_mem_padded hc, ?_, ?_⟩
    · rw [String.toList_append]
      rfl
    · rw [hlength]
      exact hnine
    · rw [placed, decimal_padded, hlength]
      exact hexact
  unfold nanosPerSecond at h
  unfold fractionText
  rw [if_neg hpos]
  split
  · exact hfield 3 (by decide) (by decide) (by omega) (by omega)
  · split
    · exact hfield 6 (by decide) (by decide) (by omega) (by omega)
    · exact hfield 9 (by decide) (by decide) (by omega) (by omega)

theorem fractionText_append_lt {m n : Nat} (hn : n < nanosPerSecond) (h : m < n)
    {zone zone' : List Char} (hzone : zone.head? = some '+') :
    (fractionText m).toList ++ zone < (fractionText n).toList ++ zone' := by
  obtain ⟨ys, hys, hydigits, hylength, hyplaced⟩ := exists_fractionText hn (by omega)
  rw [hys]
  by_cases hzero : m = 0
  · -- the sign comes before the point
    obtain ⟨zone, rfl⟩ := List.head?_eq_some_iff.mp hzone
    subst hzero
    exact List.cons_lt_cons_iff.mpr (.inl (by decide))
  · obtain ⟨xs, hxs, hxdigits, hxlength, hxplaced⟩ :=
      exists_fractionText (Nat.lt_trans h hn) hzero
    rw [hxs]
    refine List.cons_lt_cons_iff.mpr (.inr ⟨rfl, ?_⟩)
    apply append_lt_append_of_placed_lt hxdigits hydigits hxlength hylength
    · rw [hxplaced, hyplaced]
      exact h
    · exact .inr hzone

/-- Fractions before an offset are in the order of their numbers. -/
theorem fractionText_append_lt_iff {m n : Nat} (hm : m < nanosPerSecond)
    (hn : n < nanosPerSecond) {zone : List Char} (hzone : zone.head? = some '+') :
    (fractionText m).toList ++ zone < (fractionText n).toList ++ zone ↔ m < n := by
  rcases Nat.lt_trichotomy m n with h | rfl | h
  · exact iff_of_true (fractionText_append_lt hn h hzone) h
  · exact iff_of_false (List.lt_irrefl _) (Nat.lt_irrefl m)
  · refine iff_of_false (fun hback => ?_) (by omega)
    exact List.lt_irrefl _ (List.lt_trans hback (fractionText_append_lt hm h hzone))

/-! ### Whole timestamps -/

theorem isLeap_iff {t : Instant} : t.isLeap = true ↔ nanosPerSecond ≤ t.nano :=
  decide_eq_true_iff

/-- What a clock shows of the second is in the order of the reading, in leap seconds too. -/
theorem shown_lt_iff (s t : Instant) :
    (s.shownSecond < t.shownSecond ∨ s.shownSecond = t.shownSecond ∧ s.shownNano < t.shownNano) ↔
      (s.second < t.second ∨ s.second = t.second ∧ s.nano < t.nano) := by
  have hs := s.second_lt
  have ht := t.second_lt
  have hsleap := s.leap
  have htleap := t.leap
  have hsnano := s.nano_lt
  have htnano := t.nano_lt
  unfold shownSecond shownNano
  simp only [isLeap_iff]
  unfold nanosPerSecond at *
  split <;> split <;> omega

theorem shownSecond_lt (t : Instant) : t.shownSecond < 10 ^ 2 := by
  have := t.second_lt
  unfold shownSecond
  split <;> omega

theorem shownNano_lt (t : Instant) : t.shownNano < nanosPerSecond := Nat.mod_lt _ (by decide)

theorem month_lt (t : Instant) : t.date.month < 10 ^ 2 :=
  Nat.lt_of_le_of_lt t.date.month_le (by decide)

theorem day_lt (t : Instant) : t.date.day < 10 ^ 2 :=
  Nat.lt_of_le_of_lt (Nat.le_trans t.date.day_le (daysInMonth_le _ _)) (by decide)

/-- The order of time, field by field. -/
theorem before_iff {s t : Instant} : s.before t ↔
    s.date.year < t.date.year ∨ s.date.year = t.date.year ∧
      (s.date.month < t.date.month ∨ s.date.month = t.date.month ∧
      (s.date.day < t.date.day ∨ s.date.day = t.date.day ∧
      (s.hour < t.hour ∨ s.hour = t.hour ∧
      (s.minute < t.minute ∨ s.minute = t.minute ∧
      (s.second < t.second ∨ s.second = t.second ∧ s.nano < t.nano))))) := by
  simp [before, key, List.cons_lt_cons_iff]

theorem toNat_year_lt {t : Instant} (h : t.hasPlainYear = true) :
    t.date.year.toNat < 10 ^ 4 := by
  have := of_decide_eq_true h
  omega

/-- The texts of two instants are in the order of the instants. -/
theorem timestamp_lt_iff {s t : Instant} (hs : s.hasPlainYear = true)
    (ht : t.hasPlainYear = true) : s.timestamp < t.timestamp ↔ s.before t := by
  have hshour : s.hour < 10 ^ 2 := Nat.lt_trans s.hour_lt (by decide)
  have hthour : t.hour < 10 ^ 2 := Nat.lt_trans t.hour_lt (by decide)
  have hsminute : s.minute < 10 ^ 2 := Nat.lt_trans s.minute_lt (by decide)
  have htminute : t.minute < 10 ^ 2 := Nat.lt_trans t.minute_lt (by decide)
  have hmark (c : Char) (r r' : List Char) : c :: r < c :: r' ↔ r < r' := by simp
  have hyear : s.date.year.toNat < t.date.year.toNat ↔ s.date.year < t.date.year := by
    have := of_decide_eq_true hs
    have := of_decide_eq_true ht
    omega
  have hyear' : s.date.year.toNat = t.date.year.toNat ↔ s.date.year = t.date.year := by
    have := of_decide_eq_true hs
    have := of_decide_eq_true ht
    omega
  show s.timestamp.toList < t.timestamp.toList ↔ s.before t
  rw [toList_timestamp hs, toList_timestamp ht, before_iff]
  -- the fields in their order, each with the mark after it
  rw [padded_append_lt_iff (by decide) (toNat_year_lt hs) (toNat_year_lt ht), hmark,
    padded_append_lt_iff (by decide) s.month_lt t.month_lt, hmark,
    padded_append_lt_iff (by decide) s.day_lt t.day_lt, hmark,
    padded_append_lt_iff (by decide) hshour hthour, hmark,
    padded_append_lt_iff (by decide) hsminute htminute, hmark,
    padded_append_lt_iff (by decide) s.shownSecond_lt t.shownSecond_lt,
    fractionText_append_lt_iff s.shownNano_lt t.shownNano_lt rfl, shown_lt_iff, hyear, hyear']

/-- The text of any other year comes before all of them, since a sign comes before every digit. -/
theorem timestamp_lt_of_hasPlainYear {s t : Instant} (hs : s.hasPlainYear = false)
    (ht : t.hasPlainYear = true) : s.timestamp < t.timestamp := by
  obtain ⟨sign, cs, hsign, hstext⟩ := exists_sign_of_hasPlainYear hs
  obtain ⟨digit, ds, hdigits⟩ : ∃ digit ds, (padded 4 t.date.year.toNat).toList = digit :: ds :=
    List.exists_cons_of_length_eq_add_one (length_padded (by decide) (toNat_year_lt ht))
  have hdigit : isDigit digit = true :=
    isDigit_of_mem_padded (hdigits ▸ List.mem_cons_self)
  have hlt : sign < digit := by
    have hcode := (isDigit_iff.mp hdigit).1
    have hbelow : sign.toNat < 48 := by
      rcases hsign with rfl | rfl <;> decide
    exact lt_iff_toNat_lt.mpr (Nat.lt_of_lt_of_le hbelow hcode)
  show s.timestamp.toList < t.timestamp.toList
  rw [hstext, toList_timestamp ht, hdigits, List.cons_append]
  exact List.cons_lt_cons_iff.mpr (.inl hlt)

/-- An instant is known by its text. -/
theorem timestamp_inj {s t : Instant} (hs : s.hasPlainYear = true) (ht : t.hasPlainYear = true) :
    s.timestamp = t.timestamp ↔ s = t := by
  refine ⟨fun h => ?_, congrArg timestamp⟩
  apply Option.some.inj
  rw [← ofTimestamp?_timestamp hs, ← ofTimestamp?_timestamp ht, h]

end Instant
end AdvisoryLedger
