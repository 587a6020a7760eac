import AdvisoryLedger.Proofs.Text.Digits
import AdvisoryLedger.Proofs.Text.Slices
import AdvisoryLedger.Text.Casing
import AdvisoryLedger.Vulnerability.Weakness
import Mathlib.Data.List.Basic

/-!
# How weaknesses are named

The texts that name a weakness are given by a grammar: four letters or none, a sign or none, and
then digits, as many as there may be (`WrittenId`). Reading a text gives a number exactly if the
text is written so and the number fits a word of 32 bits. So nothing else has a number, in
particular no text with blanks inside, with the letters twice, or with a minus sign.

The four letters are looked for in the first four bytes and taken off with them. Where letters
have more than one byte it is no matter of course that this divides none of them. `parseIdSlicing?`
reads with slices of bytes, and it comes to the same and never fails to have a slice.
-/

namespace AdvisoryLedger
namespace Weakness

open Text

/-! ## The letters in front -/

/-- The four letters of the enumeration, small or capital. -/
def IsLabel (cs : List Char) : Prop :=
  ∃ c ∈ ['c', 'C'], ∃ w ∈ ['w', 'W'], ∃ e ∈ ['e', 'E'], cs = [c, w, e, '-']

theorem toNat_toLower (c : Char) :
    c.toLower.toNat = if 65 ≤ c.toNat ∧ c.toNat ≤ 90 then c.toNat + 32 else c.toNat := by
  unfold Char.toLower
  split
  · next h =>
    have hcapital : 65 ≤ c.toNat ∧ c.toNat ≤ 90 := h
    rw [if_pos hcapital]
    show (c.toNat + 32) % 2 ^ 32 = c.toNat + 32
    omega
  · next h => exact (if_neg h).symm

theorem toNat_toUpper (c : Char) :
    c.toUpper.toNat = if 97 ≤ c.toNat ∧ c.toNat ≤ 122 then c.toNat - 32 else c.toNat := by
  unfold Char.toUpper
  split
  · next h =>
    have hsmall : 97 ≤ c.toNat ∧ c.toNat ≤ 122 := h
    rw [if_pos hsmall]
    -- the difference of the letters is a word too, so that the sum runs over
    have hdifference : ('A'.val - 'a'.val).toNat = 4294967264 := by decide
    show (c.val + ('A'.val - 'a'.val)).toNat = c.toNat - 32
    rw [UInt32.toNat_add, hdifference, Char.toNat_val]
    omega
  · next h => exact (if_neg h).symm

/-- A small letter is that of itself and of its capital. -/
theorem toLower_eq_iff {c l : Char} (hl : l.toLower = l) :
    c.toLower = l ↔ c = l ∨ c = l.toUpper := by
  rw [← Char.toNat_inj, toNat_toLower] at hl ⊢
  rw [← Char.toNat_inj, ← Char.toNat_inj, toNat_toUpper]
  split at hl <;> split <;> split <;> omega

/-- The letters are `cwe-` when their case does not count. -/
theorem isLabel_iff {cs : List Char} : IsLabel cs ↔ cs.map Char.toLower = ['c', 'w', 'e', '-'] := by
  have hletter {c l : Char} (hl : l.toLower = l) : c ∈ [l, l.toUpper] ↔ c.toLower = l := by
    rw [toLower_eq_iff hl, List.mem_pair]
  have hc {c : Char} : c ∈ ['c', 'C'] ↔ c.toLower = 'c' := hletter rfl
  have hw {c : Char} : c ∈ ['w', 'W'] ↔ c.toLower = 'w' := hletter rfl
  have he {c : Char} : c ∈ ['e', 'E'] ↔ c.toLower = 'e' := hletter rfl
  have hdash {c : Char} : c = '-' ↔ c.toLower = '-' := by
    rw [toLower_eq_iff rfl]
    exact (or_self_iff).symm
  unfold IsLabel
  simp only [hc, hw, he, List.map_eq_cons_iff, List.map_eq_nil_iff]
  constructor
  · rintro ⟨c, hc, w, hw, e, he, rfl⟩
    exact ⟨c, _, rfl, hc, w, _, rfl, hw, e, _, rfl, he, '-', _, rfl, rfl, rfl⟩
  · rintro ⟨c, _, rfl, hc, w, _, rfl, hw, e, _, rfl, he, dash, _, rfl, hdash', rfl⟩
    exact ⟨c, hc, w, hw, e, he, by rw [hdash.mpr hdash']⟩

theorem withoutLabel_append {label : List Char} (h : IsLabel label) (rest : List Char) :
    withoutLabel (label ++ rest) = rest := by
  have hlower := isLabel_iff.mp h
  obtain ⟨c, -, w, -, e, -, rfl⟩ := h
  exact if_pos hlower

theorem withoutLabel_eq_self {cs : List Char} (h : ∀ c ∈ cs.head?, c.toLower ≠ 'c') :
    withoutLabel cs = cs := by
  unfold withoutLabel
  split
  · next c w e dash rest =>
    apply if_neg
    intro hlower
    exact h c rfl (List.cons.inj hlower).1
  · rfl

/-- Nothing is taken off, or the letters. -/
theorem withoutLabel_cases (cs : List Char) :
    withoutLabel cs = cs ∨ ∃ label, IsLabel label ∧ cs = label ++ withoutLabel cs := by
  unfold withoutLabel
  split
  · next c w e dash rest =>
    split
    · next hlower => exact .inr ⟨[c, w, e, dash], isLabel_iff.mpr hlower, rfl⟩
    · exact .inl rfl
  · exact .inl rfl

/-! ## The sign -/

/-- The text without a plus sign in front. -/
def withoutSign (cs : List Char) : List Char :=
  match cs with
  | '+' :: rest => rest
  | cs => cs

theorem withoutSign_eq_self {cs : List Char} (h : ∀ c ∈ cs.head?, c ≠ '+') :
    withoutSign cs = cs := by
  unfold withoutSign
  split
  · exact absurd rfl (h '+' rfl)
  · rfl

/-- Nothing is taken off, or one sign. -/
theorem withoutSign_cases (cs : List Char) :
    withoutSign cs = cs ∨ cs = '+' :: withoutSign cs := by
  unfold withoutSign
  split
  · exact .inr rfl
  · exact .inl rfl

/-- What stands behind the sign are digits of a number that fits. -/
theorem number?_eq_some_iff {cs : List Char} {n : Nat} : number? cs = some n ↔
    withoutSign cs ≠ [] ∧ (∀ c ∈ withoutSign cs, isDigit c = true) ∧
      decimal (withoutSign cs) = n ∧ n ≤ 4294967295 := by
  have hdef : number? cs =
      if (withoutSign cs).isEmpty || !(withoutSign cs).all isDigit then none
      else if decimal (withoutSign cs) < Word.size32 then some (decimal (withoutSign cs))
      else none := rfl
  have hfits : decimal (withoutSign cs) < Word.size32 ↔ decimal (withoutSign cs) ≤ 4294967295 :=
    Nat.lt_succ_iff
  rw [hdef]
  split
  · next h =>
    simp only [Bool.or_eq_true, List.isEmpty_iff, Bool.not_eq_true', List.all_eq_false] at h
    refine iff_of_false nofun ?_
    rintro ⟨hne, hdigits, -⟩
    rcases h with hnil | ⟨c, hc, hnot⟩
    · exact hne hnil
    · exact hnot (hdigits c hc)
  · next h =>
    simp only [Bool.or_eq_true, List.isEmpty_iff, Bool.not_eq_true', not_or, Bool.not_eq_false,
      List.all_eq_true] at h
    rw [Option.ite_none_right_eq_some, hfits, Option.some_inj]
    constructor
    · rintro ⟨hle, rfl⟩
      exact ⟨h.1, h.2, rfl, hle⟩
    · rintro ⟨-, -, rfl, hle⟩
      exact ⟨hle, rfl⟩

/-! ## The grammar -/

/-- The number of a weakness as it may be written. -/
structure WrittenId where
  label : List Char
  sign : List Char
  digits : List Char
  label_spec : label = [] ∨ IsLabel label
  sign_spec : sign = [] ∨ sign = ['+']
  digits_ne_nil : digits ≠ []
  isDigit_digits : ∀ c ∈ digits, isDigit c = true

namespace WrittenId

def text (w : WrittenId) : List Char := w.label ++ (w.sign ++ w.digits)

def number (w : WrittenId) : Nat := decimal w.digits

/-- What stands behind the letters begins with a sign or with a digit. -/
theorem head_sign_append (w : WrittenId) :
    ∀ c ∈ (w.sign ++ w.digits).head?, c = '+' ∨ isDigit c = true := by
  intro c hc
  rcases w.sign_spec with hsign | hsign
  · rw [hsign, List.nil_append] at hc
    exact .inr (w.isDigit_digits c (List.mem_of_mem_head? hc))
  · rw [hsign] at hc
    exact .inl (Option.some.inj hc).symm

theorem withoutLabel_text (w : WrittenId) : withoutLabel w.text = w.sign ++ w.digits := by
  unfold text
  rcases w.label_spec with hlabel | hlabel
  · rw [hlabel, List.nil_append]
    apply withoutLabel_eq_self
    intro c hc hlower
    -- neither letter is a sign or a digit
    rcases (toLower_eq_iff rfl).mp hlower with rfl | rfl <;>
      exact absurd (w.head_sign_append _ hc) (by decide)
  · exact withoutLabel_append hlabel _

theorem withoutSign_append (w : WrittenId) : withoutSign (w.sign ++ w.digits) = w.digits := by
  rcases w.sign_spec with hsign | hsign
  · rw [hsign, List.nil_append]
    apply withoutSign_eq_self
    rintro c hc rfl
    exact absurd (w.isDigit_digits '+' (List.mem_of_mem_head? hc)) (by decide)
  · rw [hsign]
    rfl

theorem number?_text (w : WrittenId) (h : w.number ≤ 4294967295) :
    number? (withoutLabel w.text) = some w.number := by
  rw [w.withoutLabel_text, number?_eq_some_iff, w.withoutSign_append]
  exact ⟨w.digits_ne_nil, w.isDigit_digits, rfl, h⟩

/-- What has a number is written so. -/
theorem exists_of_number? {cs : List Char} {n : Nat} (h : number? (withoutLabel cs) = some n) :
    ∃ w : WrittenId, cs = w.text ∧ w.number = n ∧ n ≤ 4294967295 := by
  obtain ⟨hne, hdigits, hn, hle⟩ := number?_eq_some_iff.mp h
  obtain ⟨label, hlabel, hcs⟩ : ∃ label, (label = [] ∨ IsLabel label) ∧
      cs = label ++ withoutLabel cs := by
    rcases withoutLabel_cases cs with hself | ⟨label, hlabel, hcs⟩
    · exact ⟨[], .inl rfl, hself.symm⟩
    · exact ⟨label, .inr hlabel, hcs⟩
  obtain ⟨sign, hsign, hrest⟩ : ∃ sign, (sign = [] ∨ sign = ['+']) ∧
      withoutLabel cs = sign ++ withoutSign (withoutLabel cs) := by
    rcases withoutSign_cases (withoutLabel cs) with hself | hplus
    · exact ⟨[], .inl rfl, hself.symm⟩
    · exact ⟨['+'], .inr rfl, hplus⟩
  refine ⟨⟨label, sign, _, hlabel, hsign, hne, hdigits⟩, ?_, hn, hle⟩
  show cs = label ++ (sign ++ withoutSign (withoutLabel cs))
  rw [← hrest, ← hcs]

end WrittenId

/-! ## Slices of bytes -/

/-- The text without the letters, which are looked for in the first four bytes and taken off with
them. There is none if what is behind them cannot be sliced off. -/
def withoutLabelSlicing? (id : String) : Option String :=
  match sliceTo? 4 id with
  | some label => if equalIgnoringAsciiCase label "CWE-" then sliceFrom? 4 id else some id
  | none => some id

/-- The number of the weakness that a text names, read with slices of bytes. -/
def parseIdSlicing? (s : String) : Option (Option Nat) :=
  (withoutLabelSlicing? (trimmed s)).map fun digits => number? digits.toList

theorem equalIgnoringAsciiCase_iff_isLabel {label : String} :
    equalIgnoringAsciiCase label "CWE-" = true ↔ IsLabel label.toList := by
  unfold equalIgnoringAsciiCase
  rw [beq_iff_eq, isLabel_iff]
  rfl

/-- The letters have one byte each. -/
theorem IsLabel.length_utf8 {label : String} (h : IsLabel label.toList) :
    (utf8 label).length = 4 := by
  obtain ⟨c, hc, w, hw, e, he, hlabel⟩ := h
  rw [length_utf8_of_ascii, hlabel]
  · rfl
  · rw [hlabel]
    simp only [List.mem_cons, List.not_mem_nil, or_false] at hc hw he ⊢
    rintro d (rfl | rfl | rfl | rfl)
    · rcases hc with rfl | rfl <;> decide
    · rcases hw with rfl | rfl <;> decide
    · rcases he with rfl | rfl <;> decide
    · decide

/-- Slices of bytes take off the letters and nothing else, and every slice is there. -/
theorem withoutLabelSlicing?_eq (id : String) :
    withoutLabelSlicing? id = some (String.ofList (withoutLabel id.toList)) := by
  unfold withoutLabelSlicing?
  by_cases h : ∃ label after, id = label ++ after ∧ IsLabel label.toList
  · obtain ⟨label, after, rfl, hlabel⟩ := h
    have hto := sliceTo?_append label after
    have hfrom := sliceFrom?_append label after
    rw [hlabel.length_utf8] at hto hfrom
    rw [hto, String.toList_append, withoutLabel_append hlabel, String.ofList_toList]
    exact (if_pos (equalIgnoringAsciiCase_iff_isLabel.mpr hlabel)).trans hfrom
  · have hself : withoutLabel id.toList = id.toList := by
      refine (withoutLabel_cases id.toList).resolve_right ?_
      rintro ⟨label, hlabel, hid⟩
      refine h ⟨String.ofList label, String.ofList (withoutLabel id.toList), ?_, ?_⟩
      · rw [← String.ofList_append, ← hid, String.ofList_toList]
      · rwa [String.toList_ofList]
    rw [hself, String.ofList_toList]
    split
    · next label hslice =>
      obtain ⟨after, hid, -⟩ := exists_of_sliceTo? hslice
      exact if_neg fun hequal => h ⟨label, after, hid, equalIgnoringAsciiCase_iff_isLabel.mp hequal⟩
    · rfl

theorem parseIdSlicing?_eq (s : String) : parseIdSlicing? s = some (parseId? s) := by
  unfold parseIdSlicing? parseId? trimmed
  rw [withoutLabelSlicing?_eq, Option.map_some, String.toList_ofList, String.toList_ofList]

/-- Exactly the texts of the grammar name a weakness, by their number if it fits, and reading them
by bytes comes to the same. -/
theorem parseId?_eq_some_iff_written :
    (∀ (s : String) (n : Nat), parseId? s = some n ↔
      ∃ w : WrittenId, trim s.toList = w.text ∧ w.number = n ∧ n ≤ 4294967295) ∧
    ∀ s : String, parseIdSlicing? s = some (parseId? s) := by
  refine ⟨fun s n => ⟨WrittenId.exists_of_number?, ?_⟩, parseIdSlicing?_eq⟩
  rintro ⟨w, hw, rfl, hle⟩
  unfold parseId?
  rw [hw, w.number?_text hle]

example : parseId? " cwe-+079\n" = some 79 := by decide

/-- The letters are taken off once. -/
example : parseId? "CWE-CWE-79" = none := by decide

end Weakness
end AdvisoryLedger
