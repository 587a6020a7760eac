import AdvisoryLedger.Proofs.Text.Digits
import AdvisoryLedger.Text.Casing

/-!
# Small letters stay small

Lower case has nothing left to change: `lower_lower`. The table of letters is checked for it
run by run (`avoids_of_mem_lowerRuns`). No letter is moved to a number that some run begins from, nor to
a blank, nor into ASCII, apart from the sign for kelvins, which becomes a `k`. The same check
shows that lower case leaves the characters alone that are no letters of any kind: they come
through in their order, so that none of them is lost or added (`countP_lower`).
-/

namespace AdvisoryLedger
namespace Text

/-- Blanks, and what is no letter in ASCII. -/
def isCaseless (c : Char) : Bool :=
  isBlank c || (c.toNat < 0x80 && !(('a' ≤ c && c ≤ 'z') || ('A' ≤ c && c ≤ 'Z')))

/-- Lower case keeps the character wherever it stands. -/
def IsSmall (c : Char) : Prop := lowerChar c = [c] ∧ c ≠ 'Σ'

instance (c : Char) : Decidable (IsSmall c) := inferInstanceAs (Decidable (_ ∧ _))

/-! ## The table -/

/-- The numbers from which a run begins. -/
def sources (r : Nat × Nat × Nat × Int) : CharRun := ⟨r.1, r.2.1, r.2.2.1⟩

/-- The number to which a run moves another. -/
def moved (r : Nat × Nat × Nat × Int) (n : Nat) : Nat := (n + r.2.2.2).toNat

theorem contains_iff {q : CharRun} {n : Nat} :
    q.contains n = true ↔ q.first ≤ n ∧ n ≤ q.last ∧ (n - q.first) % q.step = 0 := by
  simp [CharRun.contains, and_assoc]

/-- A run moves nothing into another one. They are apart, or one of them is a single number
that the other one leaves out, or they take turns. -/
def Avoids (r : Nat × Nat × Nat × Int) (q : CharRun) : Prop :=
  moved r r.2.1 < q.first ∨ q.last < moved r r.1 ∨
    (r.1 = r.2.1 ∧ q.contains (moved r r.1) = false) ∨
    (r.2.2.1 = 2 ∧ q.step = 2 ∧ (moved r r.1 + q.first) % 2 = 1)

instance (r : Nat × Nat × Nat × Int) (q : CharRun) : Decidable (Avoids r q) :=
  inferInstanceAs (Decidable (_ ∨ _ ∨ _ ∧ _ ∨ _ ∧ _ ∧ _))

theorem Avoids.not_contains {r : Nat × Nat × Nat × Int} {q : CharRun} {n : Nat}
    (h : Avoids r q) (hpos : 0 ≤ r.1 + r.2.2.2) (hn : (sources r).contains n = true) :
    q.contains (moved r n) = false := by
  obtain ⟨first, last, step, distance⟩ := r
  rw [contains_iff] at hn
  obtain ⟨hfirst, hlast, hstep⟩ := hn
  rw [← Bool.not_eq_true]
  intro hcontains
  obtain ⟨hfirst', hlast', hstep'⟩ := contains_iff.mp hcontains
  simp only [sources, Avoids, moved] at *
  rcases h with h | h | ⟨h, hout⟩ | ⟨rfl, h, hodd⟩
  · omega
  · omega
  · obtain rfl : n = first := by omega
    rw [hout] at hcontains
    cases hcontains
  · rw [h] at hstep'
    omega

/-- The blanks beyond ASCII. -/
def wideBlanks : List Nat :=
  [0x85, 0xA0, 0x1680, 0x2000, 0x2001, 0x2002, 0x2003, 0x2004, 0x2005, 0x2006, 0x2007, 0x2008,
    0x2009, 0x200A, 0x2028, 0x2029, 0x202F, 0x205F, 0x3000]

theorem mem_wideBlanks {c : Char} (hascii : ¬ c.toNat < 0x80) (h : isBlank c = true) :
    c.toNat ∈ wideBlanks := by
  unfold isBlank at h
  dsimp only at h
  generalize c.toNat = n at *
  simp only [Bool.or_eq_true, Bool.and_eq_true, decide_eq_true_eq, beq_iff_eq] at h
  simp only [wideBlanks, List.mem_cons, List.not_mem_nil, or_false]
  omega

/-- Numbers that no letter is moved to: of blanks, of ASCII but for the `k`, of the dotted
capital I, and of no character. -/
def unreached : List CharRun :=
  [⟨0, 0x6A, 1⟩, ⟨0x6C, 0x7F, 1⟩, ⟨0x130, 0x130, 1⟩, ⟨0xD800, 0xDFFF, 1⟩]
    ++ wideBlanks.map fun n => ⟨n, n, 1⟩

/-- What a run of the table moves is no blank, and it is moved to none of these numbers and to
no letter that is moved itself. -/
theorem avoids_of_mem_lowerRuns : ∀ r ∈ lowerRuns,
    0 ≤ r.1 + r.2.2.2 ∧ moved r r.2.1 < 0x110000 ∧
      (∀ n ∈ wideBlanks, (sources r).contains n = false) ∧
      (∀ q ∈ lowerRuns, Avoids r (sources q)) ∧ ∀ q ∈ unreached, Avoids r q := by
  decide +kernel

/-! ## Characters -/

theorem toNat_ofNat {n : Nat} (h : n.isValidChar) : (Char.ofNat n).toNat = n := by
  unfold Char.ofNat
  rw [dif_pos h]
  rfl

/-- Beyond ASCII a run of the table moves a character, or none has it. -/
theorem lowerChar_of_not_ascii {c : Char} (hascii : ¬ c.toNat < 0x80) (hdotted : c ≠ '\u0130') :
    lowerChar c = [c] ∨ ∃ r ∈ lowerRuns, (sources r).contains c.toNat = true ∧
      lowerChar c = [Char.ofNat (moved r c.toNat)] := by
  unfold lowerChar
  rw [if_neg hascii, if_neg hdotted]
  split
  · next hfind =>
    have hcontains := List.find?_some hfind
    exact .inr ⟨_, List.mem_of_find?_eq_some hfind, hcontains, rfl⟩
  · exact .inl rfl

theorem lowerChar_eq_self {c : Char} (hascii : ¬ c.toNat < 0x80) (hdotted : c ≠ '\u0130')
    (hnone : ∀ r ∈ lowerRuns, (sources r).contains c.toNat = false) : lowerChar c = [c] := by
  refine (lowerChar_of_not_ascii hascii hdotted).resolve_right ?_
  rintro ⟨r, hr, hcontains, -⟩
  rw [hnone r hr] at hcontains
  cases hcontains

theorem isCaseless_of_not_ascii {c : Char} (hascii : ¬ c.toNat < 0x80) :
    isCaseless c = isBlank c := by
  simp [isCaseless, hascii]

section moved

variable {r : Nat × Nat × Nat × Int} {n : Nat}

theorem moved_not_between (hr : r ∈ lowerRuns) (hn : (sources r).contains n = true) {a b : Nat}
    (h : ⟨a, b, 1⟩ ∈ unreached) : ¬ (a ≤ moved r n ∧ moved r n ≤ b) := by
  obtain ⟨hpos, -, -, -, hunreached⟩ := avoids_of_mem_lowerRuns r hr
  have hout := (hunreached _ h).not_contains hpos hn
  rw [← Bool.not_eq_true, contains_iff] at hout
  exact fun hin => hout ⟨hin.1, hin.2, Nat.mod_one _⟩

theorem moved_not_source (hr : r ∈ lowerRuns) (hn : (sources r).contains n = true)
    {q : Nat × Nat × Nat × Int} (hq : q ∈ lowerRuns) : (sources q).contains (moved r n) = false := by
  obtain ⟨hpos, -, -, hsources, -⟩ := avoids_of_mem_lowerRuns r hr
  exact (hsources q hq).not_contains hpos hn

/-- A letter is moved to the `k` or to a character beyond ASCII that is no blank. -/
theorem moved_cases (hr : r ∈ lowerRuns) (hn : (sources r).contains n = true) :
    moved r n = 0x6B ∨ 0x80 ≤ moved r n ∧ moved r n ≠ 0x130 ∧ (moved r n).isValidChar ∧
      moved r n ∉ wideBlanks := by
  have hlow := moved_not_between hr hn (show ⟨0, 0x6A, 1⟩ ∈ unreached by simp [unreached])
  have hhigh := moved_not_between hr hn (show ⟨0x6C, 0x7F, 1⟩ ∈ unreached by simp [unreached])
  have hdotted := moved_not_between hr hn (show ⟨0x130, 0x130, 1⟩ ∈ unreached by simp [unreached])
  have hsurrogate := moved_not_between hr hn
    (show ⟨0xD800, 0xDFFF, 1⟩ ∈ unreached by simp [unreached])
  have hmax := (avoids_of_mem_lowerRuns r hr).2.1
  have hle : moved r n ≤ moved r r.2.1 := by
    have := (contains_iff.mp hn).2.1
    simp only [moved, sources] at this ⊢
    omega
  refine Decidable.or_iff_not_imp_left.mpr fun hk => ⟨by omega, by omega, ?_, fun hblank => ?_⟩
  · unfold Nat.isValidChar
    omega
  · have hmem : ⟨moved r n, moved r n, 1⟩ ∈ unreached :=
      List.mem_append_right _ (List.mem_map_of_mem hblank)
    exact moved_not_between hr hn hmem ⟨Nat.le_refl _, Nat.le_refl _⟩

/-- What the table makes of a letter is small, and no blank or mark. -/
theorem isSmall_moved (hr : r ∈ lowerRuns) (hn : (sources r).contains n = true) :
    IsSmall (Char.ofNat (moved r n)) ∧ isCaseless (Char.ofNat (moved r n)) = false := by
  have hsource {q : Nat × Nat × Nat × Int} (hq : q ∈ lowerRuns) := moved_not_source hr hn hq
  rcases moved_cases hr hn with hk | ⟨hascii, hdotted, hvalid, hblank⟩
  · -- the sign for kelvins
    rw [hk]
    exact ⟨⟨by decide +kernel, by decide⟩, by decide⟩
  rw [← toNat_ofNat hvalid] at hascii hdotted hblank hsource
  generalize Char.ofNat (moved r n) = c at *
  have hwide : ¬ c.toNat < 0x80 := Nat.not_lt.mpr hascii
  refine ⟨⟨lowerChar_eq_self hwide ?_ fun q hq => hsource hq, ?_⟩, ?_⟩
  · rintro rfl
    exact hdotted (by decide)
  · -- a capital sigma is moved by the table
    rintro rfl
    have hsigma : (0x3a3, 0x3ab, 1, 32) ∈ lowerRuns := by decide +kernel
    exact absurd (hsource hsigma) (by decide)
  · rw [isCaseless_of_not_ascii hwide, ← Bool.not_eq_true]
    exact fun hc => hblank (mem_wideBlanks hwide hc)

end moved

/-- A capital letter of ASCII. -/
theorem isSmall_ascii {c : Char} (h : 'A' ≤ c ∧ c ≤ 'Z') :
    isCaseless c = false ∧ IsSmall (Char.ofNat (c.toNat + 0x20)) ∧
      isCaseless (Char.ofNat (c.toNat + 0x20)) = false := by
  have hall : ∀ n < 26, isCaseless (Char.ofNat (65 + n)) = false ∧
      IsSmall (Char.ofNat (65 + n + 0x20)) ∧
      isCaseless (Char.ofNat (65 + n + 0x20)) = false := by decide +kernel
  have hlow : 65 ≤ c.toNat := Char.le_def.mp h.1
  have hhigh : c.toNat ≤ 90 := Char.le_def.mp h.2
  have hc := hall (c.toNat - 65) (by omega)
  rw [Nat.add_sub_cancel' hlow, Char.ofNat_toNat] at hc
  exact hc

/-- The dotted capital I becomes a small one with a dot of its own. -/
theorem isSmall_dotted : ∀ x ∈ lowerChar '\u0130', IsSmall x ∧ isCaseless x = false := by
  have hi : IsSmall 'i' ∧ isCaseless 'i' = false := by decide +kernel
  have hdot : IsSmall '\u0307' ∧ isCaseless '\u0307' = false := by decide +kernel
  show ∀ x ∈ ['i', '\u0307'], IsSmall x ∧ isCaseless x = false
  rw [List.forall_mem_cons, List.forall_mem_singleton]
  exact ⟨hi, hdot⟩

/-- Either lower case keeps a character, or it is a letter of which lower case makes small ones. -/
theorem lowerChar_cases {c : Char} (hsigma : c ≠ 'Σ') : IsSmall c ∨
    isCaseless c = false ∧ ∀ x ∈ lowerChar c, IsSmall x ∧ isCaseless x = false := by
  by_cases hascii : c.toNat < 0x80
  · by_cases hcapital : 'A' ≤ c ∧ c ≤ 'Z'
    · right
      obtain ⟨hc, hsmall⟩ := isSmall_ascii hcapital
      refine ⟨hc, fun x hx => ?_⟩
      rw [lowerChar, if_pos hascii, if_pos (by simpa using hcapital)] at hx
      rw [List.mem_singleton.mp hx]
      exact hsmall
    · left
      refine ⟨?_, hsigma⟩
      rw [lowerChar, if_pos hascii, if_neg (by simpa using hcapital)]
  by_cases hdotted : c = '\u0130'
  · subst hdotted
    exact .inr ⟨by decide +kernel, isSmall_dotted⟩
  rcases lowerChar_of_not_ascii hascii hdotted with hkeep | ⟨r, hr, hcontains, hmove⟩
  · exact .inl ⟨hkeep, hsigma⟩
  · right
    constructor
    · rw [isCaseless_of_not_ascii hascii, ← Bool.not_eq_true]
      intro hblank
      obtain ⟨-, -, hkept, -⟩ := avoids_of_mem_lowerRuns r hr
      rw [hkept _ (mem_wideBlanks hascii hblank)] at hcontains
      cases hcontains
    · rw [hmove, List.forall_mem_singleton]
      exact isSmall_moved hr hcontains

/-! ## Texts -/

theorem lowerAfter_eq_self {cs : List Char} (h : ∀ c ∈ cs, IsSmall c) (before : List Char) :
    lowerAfter before cs = cs := by
  induction cs generalizing before with
  | nil => rfl
  | cons c cs ih =>
      obtain ⟨hc, hsigma⟩ := h c (List.mem_cons_self ..)
      rw [lowerAfter, if_neg hsigma, hc, ih fun d hd => h d (List.mem_cons_of_mem c hd)]
      rfl

theorem lowerChar_ne_nil (c : Char) : lowerChar c ≠ [] := by
  unfold lowerChar
  split
  · exact List.cons_ne_nil _ _
  · split
    · exact List.cons_ne_nil _ _
    · split <;> exact List.cons_ne_nil _ _

/-- What lower case makes of one character is small, and a character that is no letter is
left alone. -/
theorem lowerAfter_cons (before : List Char) (c : Char) (cs : List Char) :
    ∃ small, lowerAfter before (c :: cs) = small ++ lowerAfter (c :: before) cs ∧ small ≠ [] ∧
      (∀ x ∈ small, IsSmall x) ∧ small.filter isCaseless = [c].filter isCaseless := by
  refine ⟨_, rfl, ?_⟩
  by_cases hsigma : c = 'Σ'
  · subst hsigma
    rw [if_pos rfl]
    split <;> exact ⟨List.cons_ne_nil _ _, List.forall_mem_singleton.mpr (by decide +kernel),
      by decide +kernel⟩
  · rw [if_neg hsigma]
    refine ⟨lowerChar_ne_nil c, ?_⟩
    rcases lowerChar_cases hsigma with hc | ⟨hc, hsmall⟩
    · rw [hc.1]
      exact ⟨fun x hx => by rwa [List.mem_singleton.mp hx], rfl⟩
    · refine ⟨fun x hx => (hsmall x hx).1, ?_⟩
      rw [List.filter_eq_nil_iff.mpr fun x hx => by simp [(hsmall x hx).2]]
      simp [hc]

/-- So it is with a whole text. -/
theorem lowerAfter_spec (before cs : List Char) : (∀ x ∈ lowerAfter before cs, IsSmall x) ∧
    (lowerAfter before cs).filter isCaseless = cs.filter isCaseless := by
  induction cs generalizing before with
  | nil => exact ⟨fun _ hx => absurd hx List.not_mem_nil, rfl⟩
  | cons c cs ih =>
      obtain ⟨small, heq, -, hsmall, hfilter⟩ := lowerAfter_cons before c cs
      obtain ⟨hrest, hfilter'⟩ := ih (c :: before)
      rw [heq]
      refine ⟨fun x hx => (List.mem_append.mp hx).elim (hsmall x) (hrest x), ?_⟩
      rw [List.filter_append, hfilter, hfilter', ← List.filter_append]
      rfl

/-- Lower case has nothing to change in what it made. -/
theorem lower_lower (s : String) : lower (lower s) = lower s := by
  unfold lower
  rw [String.toList_ofList, lowerAfter_eq_self (lowerAfter_spec [] s.toList).1]

theorem lower_ne_empty {s : String} (h : s ≠ "") : lower s ≠ "" := by
  intro hlower
  cases hs : s.toList with
  | nil => exact h (String.toList_eq_nil_iff.mp hs)
  | cons c cs =>
      obtain ⟨small, heq, hne, -⟩ := lowerAfter_cons [] c cs
      rw [lower, hs, heq, String.ofList_eq_empty_iff] at hlower
      exact hne (List.append_eq_nil_iff.mp hlower).1

/-- Lower case leaves as many of any characters that are no letters. -/
theorem countP_lower {p : Char → Bool} (hp : ∀ c, p c = true → isCaseless c = true) (s : String) :
    (lower s).toList.countP p = s.toList.countP p := by
  have hfilter (cs : List Char) : cs.countP p = (cs.filter isCaseless).countP p := by
    rw [List.countP_filter]
    apply List.countP_congr
    intro c _
    simpa using fun h => hp c h
  rw [hfilter, hfilter s.toList, lower, String.toList_ofList, (lowerAfter_spec [] s.toList).2]

end Text
end AdvisoryLedger
