import AdvisoryLedger.Advisory.Shape
import AdvisoryLedger.Proofs.Text.Digits

/-!
# Shapes and the calendar

A version tag selects the older shape where its date comes before the first one whose responses
list issues. The tag is text, and so is what it is compared with. For a date of four, two and two
digits that is the order of the calendar: the three fields have one width each, so they compare as
numbers, the year first (`WrittenDate.text_lt_iff`).

Not every text that is compared is such a date. What counts is that it has ten characters, digits
or hyphens, wherever the hyphens are. The texts that pass for dates and are none (`IsMisdated`)
are compared all the same, and those that come first select the older shape too. With them
`ofVersionTag_eq_package_iff` says all there is to say, since every other tag selects the newer one.
-/

namespace AdvisoryLedger

open Text

/-! ## Dates in digits -/

/-- A date in digits, four of them for the year and two each for the month and the day. -/
structure WrittenDate where
  year : List Char
  month : List Char
  day : List Char
  length_year : year.length = 4
  length_month : month.length = 2
  length_day : day.length = 2
  isDigit_year : ∀ c ∈ year, isDigit c = true
  isDigit_month : ∀ c ∈ month, isDigit c = true
  isDigit_day : ∀ c ∈ day, isDigit c = true

namespace WrittenDate

/-- The date with hyphens between its fields. -/
def text (d : WrittenDate) : List Char := d.year ++ '-' :: (d.month ++ '-' :: d.day)

/-- The numbers of the year, the month and the day. -/
def numbers (d : WrittenDate) : List Nat := [decimal d.year, decimal d.month, decimal d.day]

theorem length_text (d : WrittenDate) : d.text.length = 10 := by
  simp [text, d.length_year, d.length_month, d.length_day]

/-- Dates are in the order of the calendar when they are in the order of their texts. -/
theorem text_lt_iff (d e : WrittenDate) : d.text < e.text ↔ d.numbers < e.numbers := by
  have hmark (r s : List Char) : '-' :: r < '-' :: s ↔ r < s := by simp
  have hday : d.day < e.day ↔ decimal d.day < decimal e.day := by
    have h := digits_append_lt_iff d.isDigit_day e.isDigit_day
      (d.length_day.trans e.length_day.symm) [] []
    simpa using h
  unfold text numbers
  rw [digits_append_lt_iff d.isDigit_year e.isDigit_year (d.length_year.trans e.length_year.symm),
    hmark, digits_append_lt_iff d.isDigit_month e.isDigit_month
      (d.length_month.trans e.length_month.symm), hmark, hday]
  simp [List.cons_lt_cons_iff]

end WrittenDate

namespace ResponseShape

/-- The first date whose responses list issues, by its fields. -/
def firstOfIssues : WrittenDate where
  year := ['2', '0', '2', '2']
  month := ['0', '4']
  day := ['0', '6']
  length_year := rfl
  length_month := rfl
  length_day := rfl
  isDigit_year := List.all_eq_true.mp rfl
  isDigit_month := List.all_eq_true.mp rfl
  isDigit_day := List.all_eq_true.mp rfl

theorem text_firstOfIssues : firstOfIssues.text = issuesSince.toList := by decide

theorem numbers_firstOfIssues : firstOfIssues.numbers = [2022, 4, 6] := by decide

/-! ## Texts that pass for dates -/

theorem looksDated_iff {date : List Char} :
    looksDated date = true ↔ date.length = 10 ∧ ∀ c ∈ date, isDigit c = true ∨ c = '-' := by
  have hlength : issuesSince.length = 10 := by decide
  simp [looksDated, hlength]

/-- A date passes for one. -/
theorem looksDated_text (d : WrittenDate) : looksDated d.text = true := by
  rw [looksDated_iff]
  refine ⟨d.length_text, ?_⟩
  intro c hc
  simp only [WrittenDate.text, List.mem_append, List.mem_cons] at hc
  rcases hc with hyear | hmark | hmonth | hmark | hday
  · exact .inl (d.isDigit_year c hyear)
  · exact .inr hmark
  · exact .inl (d.isDigit_month c hmonth)
  · exact .inr hmark
  · exact .inl (d.isDigit_day c hday)

/-- Ten digits or hyphens that are not in the form of a date. -/
def IsMisdated (date : List Char) : Prop :=
  looksDated date = true ∧ ∀ d : WrittenDate, date ≠ d.text

theorem ofVersionTag_eq_package {tag : String} :
    ofVersionTag tag = .package ↔
      looksDated (tagDate tag) = true ∧ tagDate tag < issuesSince.toList := by
  unfold ofVersionTag
  simp

/-- **Tags go by the calendar, but for those that only pass for dated.** A tag selects the older
shape exactly if, without what follows a tilde and without blanks around it, it is a date before
the 6th of April 2022, or ten digits or hyphens that are no date and come before `2022-04-06` in
the order of characters. -/
theorem ofVersionTag_eq_package_iff (tag : String) :
    ofVersionTag tag = .package ↔
      (∃ d : WrittenDate, tagDate tag = d.text ∧ d.numbers < [2022, 4, 6]) ∨
        IsMisdated (tagDate tag) ∧ tagDate tag < "2022-04-06".toList := by
  rw [ofVersionTag_eq_package]
  have hbefore (d : WrittenDate) : d.text < issuesSince.toList ↔ d.numbers < [2022, 4, 6] := by
    rw [← text_firstOfIssues, ← numbers_firstOfIssues]
    exact d.text_lt_iff firstOfIssues
  constructor
  · rintro ⟨hlooks, hlt⟩
    by_cases hdated : ∃ d : WrittenDate, tagDate tag = d.text
    · obtain ⟨d, hd⟩ := hdated
      rw [hd, hbefore] at hlt
      exact .inl ⟨d, hd, hlt⟩
    · exact .inr ⟨⟨hlooks, fun d hd => hdated ⟨d, hd⟩⟩, hlt⟩
  · rintro (⟨d, hd, hlt⟩ | ⟨hmisdated, hlt⟩)
    · rw [hd, hbefore]
      exact ⟨looksDated_text d, hlt⟩
    · exact ⟨hmisdated.1, hlt⟩

/-- A moment in seconds has ten digits and selects the older shape, and it is no date. -/
theorem ofVersionTag_seconds :
    ¬ (ofVersionTag "1636000000" = .package ↔
      ∃ d : WrittenDate, tagDate "1636000000" = d.text ∧ d.numbers < [2022, 4, 6]) := by
  have hselected : ofVersionTag "1636000000" = .package := by decide
  rw [iff_true_left hselected]
  rintro ⟨d, hd, -⟩
  have hmark : '-' ∈ d.text := by simp [WrittenDate.text]
  rw [← hd] at hmark
  exact absurd hmark (by decide)

end ResponseShape
end AdvisoryLedger
