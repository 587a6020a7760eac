import AdvisoryLedger.Text.Quoted
import Mathlib.Data.List.Basic

/-!
# Quoted texts

A quoted text changes characters, and it marks each one that it changes with a backslash. What
follows the backslash tells which character stands there, by a letter or by its number in braces,
and where it ends. So a quoted text can be read in one way only, and no two texts are quoted alike
(`quoted_inj`).
-/

namespace AdvisoryLedger
namespace Text

/-! ## Hexadecimal digits -/

theorem brace_notMem_toDigits (n : Nat) : '\x7d' ∉ Nat.toDigits 16 n := by
  have hdigit (k : Nat) : '\x7d' ≠ k.digitChar := (Nat.digitChar_ne '\x7d' rfl).symm
  induction n using Nat.strongRecOn with
  | ind n ih =>
    rw [Nat.toDigits_eq_if (by decide)]
    split
    · rw [List.mem_singleton]
      exact hdigit n
    · next hn =>
      rw [List.mem_append, List.mem_singleton, not_or]
      exact ⟨ih (n / 16) (Nat.div_lt_self (by omega) (by decide)), hdigit (n % 16)⟩

theorem digitChar_inj {m n : Nat} (hm : m < 16) (hn : n < 16) (h : m.digitChar = n.digitChar) :
    m = n := by
  have hall : ∀ m < 16, ∀ n < 16, m.digitChar = n.digitChar → m = n := by decide
  exact hall m hm n hn h

/-- A number is told by its digits. -/
theorem toDigits_inj {m n : Nat} (h : Nat.toDigits 16 m = Nat.toDigits 16 n) : m = n := by
  have hlonger (k : Nat) (d e : Char) : [d] ≠ Nat.toDigits 16 k ++ [e] := by
    intro heq
    have hlen := congrArg List.length heq
    have := List.length_pos_of_ne_nil (Nat.toDigits_ne_nil (n := k) (b := 16))
    simp only [List.length_append, List.length_singleton] at hlen
    omega
  induction m using Nat.strongRecOn generalizing n with
  | ind m ih =>
    rw [Nat.toDigits_eq_if (n := m) (by decide), Nat.toDigits_eq_if (n := n) (by decide)] at h
    split at h
    · next hm =>
      split at h
      · next hn => exact digitChar_inj hm hn (List.cons.inj h).1
      · exact absurd h (hlonger _ _ _)
    · next hm =>
      split at h
      · exact absurd h.symm (hlonger _ _ _)
      · obtain ⟨hhigh, hlow⟩ := List.append_inj' h rfl
        have hdiv := ih (m / 16) (Nat.div_lt_self (by omega) (by decide)) hhigh
        have hmod := digitChar_inj (Nat.mod_lt m (by decide)) (Nat.mod_lt n (by decide))
          (List.cons.inj hlow).1
        omega

/-- A mark that is not in front of it ends what is in front. -/
theorem append_cons_inj {mark : Char} {x y r s : List Char} (hx : mark ∉ x) (hy : mark ∉ y)
    (h : x ++ mark :: r = y ++ mark :: s) : x = y ∧ r = s := by
  have hbefore {x : List Char} (hx : mark ∉ x) (r : List Char) :
      (x ++ mark :: r).takeWhile (· ≠ mark) = x := by
    rw [List.takeWhile_append_of_pos fun c hc => decide_eq_true (ne_of_mem_of_not_mem hc hx)]
    simp
  have hxy : x = y := by rw [← hbefore hx r, h, hbefore hy s]
  rw [hxy] at h
  exact ⟨hxy, (List.cons.inj (List.append_cancel_left h)).2⟩

/-! ## Characters -/

/-- The letters that stand behind a backslash, with what they say. -/
def letters : List (Char × Char) :=
  [('0', '\x00'), ('t', '\t'), ('r', '\r'), ('n', '\n'), ('\x22', '\x22'), ('\x5c', '\x5c')]

/-- Texts that a character may have in a quoted one. -/
inductive Quotes : Char → List Char → Prop
  | letter {c l : Char} (h : (l, c) ∈ letters) : Quotes c ['\x5c', l]
  | number (c : Char) :
      Quotes c ('\x5c' :: 'u' :: '\x7b' :: (Nat.toDigits 16 c.toNat ++ ['\x7d']))
  | itself {c : Char} (h : c ≠ '\x5c') : Quotes c [c]

theorem quotes_quotedChar (c : Char) : Quotes c (quotedChar c) := by
  unfold quotedChar
  split_ifs with hnull htab hreturn hline hquote hbackslash
  · exact .letter (by rw [hnull]; decide)
  · exact .letter (by rw [htab]; decide)
  · exact .letter (by rw [hreturn]; decide)
  · exact .letter (by rw [hline]; decide)
  · exact .letter (by rw [hquote]; decide)
  · exact .letter (by rw [hbackslash]; decide)
  · exact .number c
  · exact .itself hbackslash

namespace Quotes

variable {c d : Char} {x y : List Char}

theorem ne_nil (h : Quotes c x) : x ≠ [] := by
  cases h <;> exact List.cons_ne_nil _ _

/-- It shows in a text which character comes first and where it ends. -/
theorem inj (hc : Quotes c x) (hd : Quotes d y) {r s : List Char} (h : x ++ r = y ++ s) :
    c = d ∧ r = s := by
  have hletters : ∀ p ∈ letters, ∀ q ∈ letters, p.1 = q.1 → p.2 = q.2 := by decide
  have hnumber : ∀ p ∈ letters, p.1 ≠ 'u' := by decide
  cases hc with
  | letter hc =>
    cases hd with
    | letter hd =>
      obtain ⟨hl, hrest⟩ := List.cons.inj (List.cons.inj h).2
      exact ⟨hletters _ hc _ hd hl, hrest⟩
    | number => exact absurd (List.cons.inj (List.cons.inj h).2).1 (hnumber _ hc)
    | itself hd => exact absurd (List.cons.inj h).1.symm hd
  | number =>
    cases hd with
    | letter hd => exact absurd (List.cons.inj (List.cons.inj h).2).1.symm (hnumber _ hd)
    | number =>
      simp only [List.cons_append, List.append_assoc, List.nil_append, List.cons.injEq,
        true_and] at h
      obtain ⟨hdigits, hrest⟩ :=
        append_cons_inj (brace_notMem_toDigits c.toNat) (brace_notMem_toDigits d.toNat) h
      exact ⟨Char.toNat_inj.mp (toDigits_inj hdigits), hrest⟩
    | itself hd => exact absurd (List.cons.inj h).1.symm hd
  | itself hc =>
    cases hd with
    | letter => exact absurd (List.cons.inj h).1 hc
    | number => exact absurd (List.cons.inj h).1 hc
    | itself => exact List.cons.inj h

end Quotes

/-! ## Texts -/

theorem flatMap_quotedChar_inj {cs ds : List Char}
    (h : cs.flatMap quotedChar = ds.flatMap quotedChar) : cs = ds := by
  induction cs generalizing ds with
  | nil =>
    cases ds with
    | nil => rfl
    | cons d ds =>
      rw [List.flatMap_nil, List.flatMap_cons] at h
      exact absurd (List.append_eq_nil_iff.mp h.symm).1 (quotes_quotedChar d).ne_nil
  | cons c cs ih =>
    cases ds with
    | nil =>
      rw [List.flatMap_nil, List.flatMap_cons] at h
      exact absurd (List.append_eq_nil_iff.mp h).1 (quotes_quotedChar c).ne_nil
    | cons d ds =>
      rw [List.flatMap_cons, List.flatMap_cons] at h
      obtain ⟨rfl, hrest⟩ := (quotes_quotedChar c).inj (quotes_quotedChar d) h
      rw [ih hrest]

/-- No two texts are quoted alike. -/
theorem quoted_inj {s t : String} : quoted s = quoted t ↔ s = t := by
  refine ⟨fun h => ?_, congrArg quoted⟩
  have hchars := List.cons.inj (String.ofList_injective h)
  exact String.toList_inj.mp (flatMap_quotedChar_inj (List.append_cancel_right hchars.2))

end Text
end AdvisoryLedger
