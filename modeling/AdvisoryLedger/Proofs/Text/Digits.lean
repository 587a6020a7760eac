import AdvisoryLedger.Text.Basic
import Mathlib.Algebra.Group.Nat.Defs

/-!
# Numbers in digits

A number that is written in a field of so many digits is read back from them, where the field
is wide enough. Core knows what reading the digits of a number gives; a field has zeros in
front of them, which do not count.

Digits are also in the order of the numbers that they write, letter by letter: those of a field
always, and those after a point where the shorter ones are followed by a sign.
-/

namespace AdvisoryLedger
namespace Text

theorem isDigit_eq (c : Char) : isDigit c = c.isDigit := by
  simp [isDigit, Char.isDigit, Char.le_def]

theorem decimal_eq_ofDigitChars (digits : List Char) :
    decimal digits = Nat.ofDigitChars 10 digits 0 := rfl

/-- Zeros at the end are powers of ten. -/
theorem decimal_append_zeros (digits : List Char) (count : Nat) :
    decimal (digits ++ List.replicate count '0') = decimal digits * 10 ^ count := by
  rw [decimal_eq_ofDigitChars, decimal_eq_ofDigitChars, Nat.ofDigitChars_append,
    Nat.ofDigitChars_replicate_zero, Nat.mul_comm]

section Padded

variable {width n : Nat}

theorem toList_padded (width n : Nat) :
    (padded width n).toList
      = List.replicate (width - (Nat.toDigits 10 n).length) '0' ++ Nat.toDigits 10 n :=
  String.toList_ofList

/-- A field is as wide as it should be. -/
theorem length_padded (hwidth : 0 < width) (h : n < 10 ^ width) :
    (padded width n).toList.length = width := by
  have hle := (Nat.length_toDigits_le_iff (by decide) hwidth).mpr h
  rw [toList_padded, List.length_append, List.length_replicate]
  omega

theorem isDigit_of_mem_padded {c : Char} (hc : c ∈ (padded width n).toList) : isDigit c = true := by
  rw [toList_padded] at hc
  rcases List.mem_append.mp hc with hzero | hdigit
  · rw [List.eq_of_mem_replicate hzero]
    rfl
  · rw [isDigit_eq]
    exact Nat.isDigit_of_mem_toDigits (by decide) (by decide) hdigit

theorem decimal_padded (width n : Nat) : decimal (padded width n).toList = n := by
  rw [toList_padded, decimal_eq_ofDigitChars, Nat.ofDigitChars_append,
    Nat.ofDigitChars_replicate_zero, Nat.mul_zero,
    Nat.ofDigitChars_toDigits (by decide) (by decide)]

/-- The digits of a field end where something else begins. -/
theorem takeWhile_padded (rest : List Char) (h : ∀ c ∈ rest.head?, isDigit c = false) :
    ((padded width n).toList ++ rest).takeWhile isDigit = (padded width n).toList := by
  rw [List.takeWhile_append_of_pos fun c hc => isDigit_of_mem_padded hc]
  cases rest with
  | nil => simp
  | cons c rest => simp [h c rfl]

theorem dropWhile_padded (rest : List Char) (h : ∀ c ∈ rest.head?, isDigit c = false) :
    ((padded width n).toList ++ rest).dropWhile isDigit = rest := by
  rw [List.dropWhile_append_of_pos fun c hc => isDigit_of_mem_padded hc]
  cases rest with
  | nil => rfl
  | cons c rest => simp [h c rfl]

end Padded

/-! ### Digits in order -/

theorem decimal_cons (c : Char) (cs : List Char) :
    decimal (c :: cs) = digitValue c * 10 ^ cs.length + decimal cs := by
  rw [decimal_eq_ofDigitChars, decimal_eq_ofDigitChars, Nat.ofDigitChars_cons,
    Nat.ofDigitChars_eq_ofDigitChars_zero, Nat.mul_zero, Nat.zero_add, Nat.mul_comm]
  rfl

theorem isDigit_iff {c : Char} : isDigit c = true ↔ 48 ≤ c.toNat ∧ c.toNat ≤ 57 := by
  simp [isDigit, Char.le_def, UInt32.le_iff_toNat_le]

theorem digitValue_eq (c : Char) : digitValue c = c.toNat - 48 := rfl

theorem digitValue_le {c : Char} (h : isDigit c = true) : digitValue c ≤ 9 := by
  rw [isDigit_iff] at h
  rw [digitValue_eq]
  omega

theorem lt_iff_toNat_lt {c d : Char} : c < d ↔ c.toNat < d.toNat := by
  rw [Char.lt_def, UInt32.lt_iff_toNat_lt]
  rfl

theorem lt_of_digitValue_lt {c d : Char} (hc : isDigit c = true)
    (h : digitValue c < digitValue d) : c < d := by
  rw [isDigit_iff] at hc
  rw [digitValue_eq, digitValue_eq] at h
  rw [lt_iff_toNat_lt]
  omega

theorem eq_of_digitValue_eq {c d : Char} (hc : isDigit c = true) (hd : isDigit d = true)
    (h : digitValue c = digitValue d) : c = d := by
  rw [isDigit_iff] at hc hd
  rw [digitValue_eq, digitValue_eq] at h
  apply Char.toNat_inj.mp
  omega

/-- A sign comes before every digit. -/
theorem plus_lt_of_isDigit {c : Char} (h : isDigit c = true) : '+' < c := by
  rw [isDigit_iff] at h
  rw [lt_iff_toNat_lt]
  exact Nat.lt_of_lt_of_le (by decide) h.1

theorem decimal_lt {cs : List Char} (h : ∀ c ∈ cs, isDigit c = true) :
    decimal cs < 10 ^ cs.length := by
  induction cs with
  | nil => decide
  | cons c cs ih =>
      have hc := digitValue_le (h c (by simp))
      have hcs := ih (fun d hd => h d (List.mem_cons_of_mem c hd))
      rw [decimal_cons, List.length_cons, Nat.pow_succ]
      have := Nat.mul_le_mul_right (10 ^ cs.length) hc
      omega

/-- The number that digits write after a point, with so many places. -/
def placed (width : Nat) (digits : List Char) : Nat :=
  decimal digits * 10 ^ (width - digits.length)

theorem pow_length_mul_pow {width : Nat} {cs : List Char} (h : cs.length ≤ width) :
    10 ^ cs.length * 10 ^ (width - cs.length) = 10 ^ width := by
  rw [← Nat.pow_add, Nat.add_sub_cancel' h]

theorem placed_cons {width : Nat} {c : Char} {cs : List Char} (h : cs.length ≤ width) :
    placed (width + 1) (c :: cs) = digitValue c * 10 ^ width + placed width cs := by
  unfold placed
  rw [decimal_cons, List.length_cons, Nat.add_sub_add_right, Nat.add_mul, Nat.mul_assoc,
    pow_length_mul_pow h]

theorem placed_lt {width : Nat} {cs : List Char} (h : ∀ c ∈ cs, isDigit c = true)
    (hlen : cs.length ≤ width) : placed width cs < 10 ^ width := by
  unfold placed
  rw [← pow_length_mul_pow hlen]
  exact Nat.mul_lt_mul_of_pos_right (decimal_lt h) (Nat.pow_pos (by decide))

/-- Digits are in the order of what they write, where both have as many of them or the lower
ones are followed by a sign, which comes before every digit. -/
theorem append_lt_append_of_placed_lt {width : Nat} {x y r s : List Char}
    (hx : ∀ c ∈ x, isDigit c = true) (hy : ∀ c ∈ y, isDigit c = true)
    (hxw : x.length ≤ width) (hyw : y.length ≤ width) (h : placed width x < placed width y)
    (hr : x.length = y.length ∨ r.head? = some '+') : x ++ r < y ++ s := by
  induction x generalizing y width with
  | nil =>
      cases y with
      | nil => simp at h
      | cons d y =>
          obtain ⟨r', rfl⟩ : ∃ r', r = '+' :: r' := by
            rcases hr with hlen | hhead
            · simp at hlen
            · exact List.head?_eq_some_iff.mp hhead
          exact List.cons_lt_cons_iff.mpr (.inl (plus_lt_of_isDigit (hy d (by simp))))
  | cons c x ih =>
      cases y with
      | nil => simp [placed, decimal] at h
      | cons d y =>
          obtain ⟨width, rfl⟩ := Nat.exists_eq_add_one_of_ne_zero (n := width)
            (by simp at hxw; omega)
          simp only [List.length_cons, Nat.add_le_add_iff_right] at hxw hyw
          have hx' : ∀ e ∈ x, isDigit e = true := fun e he => hx e (List.mem_cons_of_mem c he)
          have hy' : ∀ e ∈ y, isDigit e = true := fun e he => hy e (List.mem_cons_of_mem d he)
          rw [placed_cons hxw, placed_cons hyw] at h
          have hlt := placed_lt hy' hyw
          apply List.cons_lt_cons_iff.mpr
          rcases Nat.lt_trichotomy (digitValue c) (digitValue d) with hcd | hcd | hcd
          · exact .inl (lt_of_digitValue_lt (hx c (by simp)) hcd)
          · refine .inr ⟨eq_of_digitValue_eq (hx c (by simp)) (hy d (by simp)) hcd, ?_⟩
            rw [hcd, Nat.add_lt_add_iff_left] at h
            exact ih hx' hy' hxw hyw h (by simpa using hr)
          · -- a higher digit in front cannot be made up for
            have := Nat.mul_le_mul_right (10 ^ width) (Nat.succ_le_of_lt hcd)
            rw [Nat.succ_mul] at this
            omega

/-- What two lists begin with alike does not matter for their order. -/
theorem append_lt_append_left_iff {α : Type} [LT α] [Std.Irrefl (α := α) (· < ·)]
    (x r s : List α) : x ++ r < x ++ s ↔ r < s := by
  induction x with
  | nil => rfl
  | cons a x ih => simp [ih]

/-- Digits of one width that write one number are the same. -/
theorem eq_of_decimal_eq {x y : List Char} (hx : ∀ c ∈ x, isDigit c = true)
    (hy : ∀ c ∈ y, isDigit c = true) (hlen : x.length = y.length) (h : decimal x = decimal y) :
    x = y := by
  induction x generalizing y with
  | nil => exact (List.length_eq_zero_iff.mp hlen.symm).symm
  | cons c x ih =>
      obtain ⟨d, y, rfl⟩ := List.exists_cons_of_length_eq_add_one hlen.symm
      rw [List.length_cons, List.length_cons, Nat.add_right_cancel_iff] at hlen
      have hx' : ∀ e ∈ x, isDigit e = true := fun e he => hx e (List.mem_cons_of_mem c he)
      have hy' : ∀ e ∈ y, isDigit e = true := fun e he => hy e (List.mem_cons_of_mem d he)
      have hxlt := decimal_lt hx'
      have hylt := decimal_lt hy'
      rw [decimal_cons, decimal_cons, hlen] at h
      rw [hlen] at hxlt
      have hpos : 0 < 10 ^ y.length := Nat.pow_pos (by decide)
      have hfirst : digitValue c = digitValue d := by
        have hdiv := congrArg (· / 10 ^ y.length) h
        simpa only [Nat.mul_comm _ (10 ^ y.length), Nat.mul_add_div hpos, Nat.div_eq_of_lt hxlt,
          Nat.div_eq_of_lt hylt, Nat.add_zero] using hdiv
      rw [hfirst, Nat.add_left_cancel_iff] at h
      rw [eq_of_digitValue_eq (hx c (by simp)) (hy d (by simp)) hfirst, ih hx' hy' hlen h]

/-- Digits of one width are in the order of their numbers, whatever follows. -/
theorem digits_append_lt_iff {x y : List Char} (hx : ∀ c ∈ x, isDigit c = true)
    (hy : ∀ c ∈ y, isDigit c = true) (hlen : x.length = y.length) (r s : List Char) :
    x ++ r < y ++ s ↔ decimal x < decimal y ∨ decimal x = decimal y ∧ r < s := by
  have hlt {x y : List Char} (hx : ∀ c ∈ x, isDigit c = true)
      (hy : ∀ c ∈ y, isDigit c = true) (hlen : x.length = y.length)
      (h : decimal x < decimal y) (r s : List Char) : x ++ r < y ++ s :=
    append_lt_append_of_placed_lt hx hy (Nat.le_refl _) (Nat.le_of_eq hlen.symm)
      (by simpa [placed, hlen] using h) (.inl hlen)
  rcases Nat.lt_trichotomy (decimal x) (decimal y) with h | h | h
  · exact iff_of_true (hlt hx hy hlen h r s) (.inl h)
  · rw [eq_of_decimal_eq hx hy hlen h, append_lt_append_left_iff]
    simp
  · refine iff_of_false (fun hback => ?_) (by omega)
    exact List.lt_irrefl _ (List.lt_trans hback (hlt hy hx hlen.symm h s r))

theorem padded_append_lt_iff {width m n : Nat} (hwidth : 0 < width) (hm : m < 10 ^ width)
    (hn : n < 10 ^ width) (r s : List Char) :
    (padded width m).toList ++ r < (padded width n).toList ++ s ↔ m < n ∨ m = n ∧ r < s := by
  rw [digits_append_lt_iff (fun _ h => isDigit_of_mem_padded h)
    (fun _ h => isDigit_of_mem_padded h)
    ((length_padded hwidth hm).trans (length_padded hwidth hn).symm), decimal_padded,
    decimal_padded]

end Text
end AdvisoryLedger
