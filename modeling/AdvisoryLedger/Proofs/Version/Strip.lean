import AdvisoryLedger.Version.Range
import Mathlib.Data.List.Basic
import Mathlib.Logic.Function.Iterate

/-!
# What is left of a clause

A clause loses blanks and tokens at both ends until a round changes nothing. `Stripped` says
what that comes to: nothing but blanks and tokens is lost, and the text that is left has no
blank and no token at an end.

This determines the text that is left when tokens can be told apart by the characters at
their ends (`IsCode`), as those of every operator can: a version among blanks and tokens is
what is left, as long as no token has a character in common with the ends of the version
(`Stripped.eq`).
-/

namespace AdvisoryLedger

open Text

/-! ## Padding -/

/-- A token, or a single blank. -/
def IsPiece (tokens : List (List Char)) (p : List Char) : Prop :=
  p ∈ tokens ∨ ∃ c, isBlank c = true ∧ p = [c]

/-- The text is made of tokens and blanks. -/
def IsPadding (tokens : List (List Char)) (x : List Char) : Prop :=
  ∃ pieces : List (List Char), (∀ p ∈ pieces, IsPiece tokens p) ∧ x = pieces.flatten

section Padding

variable {tokens : List (List Char)} {x y p q : List Char}

theorem IsPadding.nil : IsPadding tokens [] := ⟨[], by simp, rfl⟩

theorem IsPadding.append (hx : IsPadding tokens x) (hy : IsPadding tokens y) :
    IsPadding tokens (x ++ y) := by
  obtain ⟨ps, hps, rfl⟩ := hx
  obtain ⟨qs, hqs, rfl⟩ := hy
  refine ⟨ps ++ qs, ?_, List.flatten_append.symm⟩
  intro p hp
  exact (List.mem_append.mp hp).elim (hps p) (hqs p)

theorem IsPadding.token {t : List Char} (ht : t ∈ tokens) : IsPadding tokens t := by
  refine ⟨[t], ?_, by simp⟩
  intro p hp
  exact .inl (List.mem_singleton.mp hp ▸ ht)

theorem IsPadding.blanks (hx : ∀ c ∈ x, isBlank c = true) : IsPadding tokens x := by
  refine ⟨x.map ([·]), ?_, by simp [← List.flatMap_def]⟩
  intro p hp
  obtain ⟨c, hc, rfl⟩ := List.mem_map.mp hp
  exact .inr ⟨c, hx c hc, rfl⟩

theorem IsPadding.flatMap {α : Type} {as : List α} {f : α → List Char}
    (h : ∀ a ∈ as, IsPadding tokens (f a)) : IsPadding tokens (as.flatMap f) := by
  induction as with
  | nil => exact .nil
  | cons a as ih =>
      rw [List.flatMap_cons]
      exact (h a (List.mem_cons_self ..)).append (ih fun b hb => h b (List.mem_cons_of_mem _ hb))

theorem IsPadding.exists_piece (h : IsPadding tokens x) (hx : x ≠ []) :
    ∃ p y, IsPiece tokens p ∧ IsPadding tokens y ∧ x = p ++ y := by
  obtain ⟨ps, hps, rfl⟩ := h
  cases ps with
  | nil => exact absurd rfl hx
  | cons p ps =>
      refine ⟨p, ps.flatten, hps p (List.mem_cons_self ..), ⟨ps, ?_, rfl⟩, rfl⟩
      exact fun q hq => hps q (List.mem_cons_of_mem _ hq)

/-- A character of padding is a blank or stands in a token. -/
theorem IsPadding.of_mem (h : IsPadding tokens x) {c : Char} (hc : c ∈ x) :
    isBlank c = true ∨ ∃ t ∈ tokens, c ∈ t := by
  obtain ⟨ps, hps, rfl⟩ := h
  obtain ⟨p, hp, hc⟩ := List.mem_flatten.mp hc
  rcases hps p hp with ht | ⟨b, hb, rfl⟩
  · exact .inr ⟨p, ht, hc⟩
  · exact .inl (List.mem_singleton.mp hc ▸ hb)

theorem IsPadding.reverse (h : IsPadding tokens x) :
    IsPadding (tokens.map List.reverse) x.reverse := by
  obtain ⟨ps, hps, rfl⟩ := h
  refine ⟨(ps.map List.reverse).reverse, ?_, List.reverse_flatten⟩
  intro p hp
  obtain ⟨q, hq, rfl⟩ := List.mem_map.mp (List.mem_reverse.mp hp)
  rcases hps q hq with ht | ⟨c, hc, rfl⟩
  · exact .inl (List.mem_map_of_mem ht)
  · exact .inr ⟨c, hc, rfl⟩

theorem IsPadding.of_reverse (h : IsPadding (tokens.map List.reverse) x) :
    IsPadding tokens x.reverse := by
  have hback := h.reverse
  have hid : (List.reverse ∘ List.reverse : List Char → List Char) = id :=
    funext List.reverse_reverse
  rwa [List.map_map, hid, List.map_id] at hback

/-! ### Tokens that can be told apart -/

/-- The first character of a token says which token it is, and that it is no blank. -/
structure IsCode (tokens : List (List Char)) : Prop where
  ne_nil : ∀ t ∈ tokens, t ≠ []
  solid : ∀ t ∈ tokens, ∀ c ∈ t.head?, isBlank c = false
  inj : ∀ t ∈ tokens, ∀ t' ∈ tokens, t.head? = t'.head? → t = t'

theorem IsPiece.ne_nil (h : IsCode tokens) (hp : IsPiece tokens p) : p ≠ [] := by
  rcases hp with ht | ⟨c, -, rfl⟩
  · exact h.ne_nil p ht
  · simp

theorem IsPiece.eq_of_head? (h : IsCode tokens) (hp : IsPiece tokens p) (hq : IsPiece tokens q)
    (hhead : p.head? = q.head?) : p = q := by
  rcases hp with ht | ⟨c, hc, rfl⟩ <;> rcases hq with ht' | ⟨c', hc', rfl⟩
  · exact h.inj p ht q ht' hhead
  · have hsolid := h.solid p ht c' hhead
    simp [hc'] at hsolid
  · have hsolid := h.solid q ht' c hhead.symm
    simp [hc] at hsolid
  · simpa using hhead

/-- What follows padding in padding is padding. -/
theorem IsPadding.of_append (h : IsCode tokens) (hx : IsPadding tokens x)
    (hxy : IsPadding tokens (x ++ y)) : IsPadding tokens y := by
  obtain ⟨ps, hps, rfl⟩ := hx
  induction ps with
  | nil => exact hxy
  | cons p ps ih =>
      have hp := hps p (List.mem_cons_self ..)
      have hpne := hp.ne_nil h
      obtain ⟨q, z, hq, hz, heq⟩ := hxy.exists_piece (by simp [hpne])
      rw [List.flatten_cons, List.append_assoc] at heq
      -- both readings of the text begin with the same piece
      have hpq : p = q := by
        apply hp.eq_of_head? h hq
        obtain ⟨c, p', rfl⟩ := List.exists_cons_of_ne_nil hpne
        obtain ⟨c', q', rfl⟩ := List.exists_cons_of_ne_nil (hq.ne_nil h)
        exact congrArg some (List.cons.inj heq).1
      subst hpq
      rw [← List.append_cancel_left heq] at hz
      exact ih (fun q hq => hps q (List.mem_cons_of_mem _ hq)) hz

/-- What comes before padding in padding is padding. -/
theorem IsPadding.of_append_right (h : IsCode (tokens.map List.reverse)) (hy : IsPadding tokens y)
    (hxy : IsPadding tokens (x ++ y)) : IsPadding tokens x := by
  have hrev := hxy.reverse
  rw [List.reverse_append] at hrev
  have hx := (hy.reverse.of_append h hrev).of_reverse
  rwa [List.reverse_reverse] at hx

end Padding

namespace Clause

variable {tokens : List (List Char)} {cs r : List Char}

/-! ## Stripping takes off padding -/

/-- Only padding stands around the second text in the first one. -/
def Around (tokens : List (List Char)) (cs r : List Char) : Prop :=
  ∃ x y, IsPadding tokens x ∧ IsPadding tokens y ∧ cs = x ++ r ++ y

theorem Around.refl (cs : List Char) : Around tokens cs cs := ⟨[], [], .nil, .nil, by simp⟩

theorem Around.trans {as bs : List Char} (h : Around tokens cs bs) (h' : Around tokens bs as) :
    Around tokens cs as := by
  obtain ⟨x, y, hx, hy, rfl⟩ := h
  obtain ⟨x', y', hx', hy', rfl⟩ := h'
  exact ⟨x ++ x', y' ++ y, hx.append hx', hy'.append hy, by simp⟩

theorem Around.eq_of_length_le (h : Around tokens cs r) (hlen : cs.length ≤ r.length) : r = cs := by
  obtain ⟨x, y, -, -, rfl⟩ := h
  simp only [List.length_append] at hlen
  have hx : x = [] := List.eq_nil_of_length_eq_zero (by omega)
  have hy : y = [] := List.eq_nil_of_length_eq_zero (by omega)
  rw [hx, hy, List.nil_append, List.append_nil]

theorem around_trim (cs : List Char) : Around tokens cs (trim cs) := by
  obtain ⟨g, g', hg, hg', h⟩ := exists_trim cs
  exact ⟨g, g', .blanks hg, .blanks hg', h⟩

theorem around_dropFirst? {t : List Char} (ht : t ∈ tokens) (cs : List Char) :
    Around tokens cs ((dropFirst? t cs).getD cs) := by
  cases h : dropFirst? t cs with
  | none => exact .refl cs
  | some rest => exact ⟨t, [], .token ht, .nil, by simpa using eq_append_of_dropFirst? h⟩

theorem around_dropLast? {t : List Char} (ht : t ∈ tokens) (cs : List Char) :
    Around tokens cs ((dropLast? t cs).getD cs) := by
  cases h : dropLast? t cs with
  | none => exact .refl cs
  | some rest => exact ⟨[], t, .nil, .token ht, by simpa using eq_append_of_dropLast? h⟩

theorem around_stripToken {t : List Char} (ht : t ∈ tokens) (cs : List Char) :
    Around tokens cs (stripToken cs t) := by
  unfold stripToken
  exact (around_dropFirst? ht cs).trans <| (around_trim _).trans <|
    (around_dropLast? ht _).trans (around_trim _)

theorem around_stripOnce {ts : List (List Char)} (hts : ts ⊆ tokens) (cs : List Char) :
    Around tokens cs (stripOnce ts cs) := by
  induction ts generalizing cs with
  | nil => exact .refl cs
  | cons t ts ih =>
      have ht := hts (List.mem_cons_self ..)
      exact (around_stripToken ht cs).trans
        (ih (List.Subset.trans (List.subset_cons_self ..) hts) _)

theorem around_strip (tokens : List (List Char)) (cs : List Char) :
    Around tokens cs (strip tokens cs) := by
  induction cs using strip.induct tokens with
  | case1 cs hlt ih =>
      rw [strip, if_pos hlt]
      exact (around_stripOnce (List.Subset.refl _) cs).trans ih
  | case2 cs hle =>
      rw [strip, if_neg hle]
      exact .refl cs

/-! ## Stripping stops when nothing is left to take -/

/-- A round that does not shorten the text does not change it. -/
theorem stripOnce_eq_self (h : ¬(stripOnce tokens cs).length < cs.length) :
    stripOnce tokens cs = cs :=
  (around_stripOnce (List.Subset.refl tokens) cs).eq_of_length_le (Nat.le_of_not_lt h)

/-- One more round changes nothing. -/
theorem stripOnce_strip (tokens : List (List Char)) (cs : List Char) :
    stripOnce tokens (strip tokens cs) = strip tokens cs := by
  induction cs using strip.induct tokens with
  | case1 cs hlt ih =>
      rw [strip, if_pos hlt]
      exact ih
  | case2 cs hle =>
      rw [strip, if_neg hle]
      exact stripOnce_eq_self hle

/-- The rounds come to an end, after no more of them than the text has characters: each one
before the last changes the text, and the last one does not. -/
theorem exists_rounds (tokens : List (List Char)) (cs : List Char) :
    ∃ n ≤ cs.length,
      (∀ k < n, (stripOnce tokens)^[k + 1] cs ≠ (stripOnce tokens)^[k] cs) ∧
      (stripOnce tokens)^[n + 1] cs = (stripOnce tokens)^[n] cs ∧
      strip tokens cs = (stripOnce tokens)^[n] cs := by
  induction cs using strip.induct tokens with
  | case1 cs hlt ih =>
      obtain ⟨n, hn, hchanges, hends, hstrip⟩ := ih
      refine ⟨n + 1, by omega, ?_, hends, ?_⟩
      · intro k hk
        cases k with
        | zero =>
            intro heq
            have hsame : stripOnce tokens cs = cs := heq
            rw [hsame] at hlt
            exact Nat.lt_irrefl _ hlt
        | succ k => exact hchanges k (by omega)
      · rw [strip, if_pos hlt]
        exact hstrip
  | case2 cs hle =>
      refine ⟨0, Nat.zero_le _, ?_, stripOnce_eq_self hle, ?_⟩
      · intro k hk
        cases hk
      · rw [strip, if_neg hle]
        rfl

/-- What a round leaves as it is, each of its tokens leaves as it is. -/
theorem stripToken_eq_self {ts : List (List Char)} (h : stripOnce ts cs = cs) :
    ∀ t ∈ ts, stripToken cs t = cs := by
  induction ts with
  | nil =>
      intro t ht
      cases ht
  | cons t ts ih =>
      have hrest : stripOnce ts (stripToken cs t) = cs := h
      have hfirst : stripToken cs t = cs := by
        apply (around_stripToken (List.mem_singleton_self t) cs).eq_of_length_le
        have hlen := length_stripOnce_le ts (stripToken cs t)
        rwa [hrest] at hlen
      intro t' ht'
      rcases List.mem_cons.mp ht' with rfl | ht'
      · exact hfirst
      · rw [hfirst] at hrest
        exact ih hrest t' ht'

theorem isTrimmed_of_stripToken {t : List Char} (h : stripToken cs t = cs) : IsTrimmed cs := by
  rw [← h]
  exact isTrimmed_trim _

theorem begins_of_stripToken {t : List Char} (ht : t ≠ []) (h : stripToken cs t = cs) :
    begins t cs = false := by
  by_contra hbegins
  rw [Bool.not_eq_false] at hbegins
  obtain ⟨rest, rfl⟩ := exists_of_begins hbegins
  have hle : (stripToken (t ++ rest) t).length ≤ rest.length := by
    unfold stripToken
    rw [dropFirst?_append, Option.getD_some]
    exact Nat.le_trans (length_trim_le _)
      (Nat.le_trans (length_getD_dropLast?_le _ _) (length_trim_le _))
  rw [h, List.length_append] at hle
  exact ht (List.eq_nil_of_length_eq_zero (by omega))

theorem ends_of_stripToken {t : List Char} (ht : t ≠ []) (h : stripToken cs t = cs) :
    ends t cs = false := by
  by_contra hends
  rw [Bool.not_eq_false] at hends
  have hfront : trim ((dropFirst? t cs).getD cs) = cs := by
    rw [dropFirst?_eq_none (begins_of_stripToken ht h)]
    exact (isTrimmed_of_stripToken h).trim_eq
  obtain ⟨rest, rfl⟩ := exists_of_ends hends
  have hle : (stripToken (rest ++ t) t).length ≤ rest.length := by
    simp only [stripToken, hfront, dropLast?_append, Option.getD_some]
    exact length_trim_le rest
  rw [h, List.length_append] at hle
  exact ht (List.eq_nil_of_length_eq_zero (by omega))

/-! ## The text that is left -/

/-- The second text is left of the first one when all padding is taken off its ends. -/
structure Stripped (tokens : List (List Char)) (cs r : List Char) : Prop where
  around : Around tokens cs r
  trimmed : IsTrimmed r
  begins : ∀ t ∈ tokens, begins t r = false
  ends : ∀ t ∈ tokens, ends t r = false

theorem strip_spec (htokens : tokens ≠ []) (hne : ∀ t ∈ tokens, t ≠ []) (cs : List Char) :
    Stripped tokens cs (strip tokens cs) := by
  have hleft := stripToken_eq_self (stripOnce_strip tokens cs)
  obtain ⟨t, ht⟩ := List.exists_mem_of_ne_nil _ htokens
  exact {
    around := around_strip tokens cs
    trimmed := isTrimmed_of_stripToken (hleft t ht)
    begins := fun t ht => begins_of_stripToken (hne t ht) (hleft t ht)
    ends := fun t ht => ends_of_stripToken (hne t ht) (hleft t ht) }

/-- No padding is left in front. -/
theorem Stripped.eq_nil_of_prefix {x rest : List Char} (h : Stripped tokens cs (x ++ rest))
    (hx : IsPadding tokens x) : x = [] := by
  by_contra hne
  obtain ⟨p, y, hp, -, rfl⟩ := hx.exists_piece hne
  rcases hp with ht | ⟨c, hc, rfl⟩
  · have hbegins := h.begins p ht
    rw [List.append_assoc, begins_append] at hbegins
    cases hbegins
  · have hhead := h.trimmed.head c rfl
    simp [hc] at hhead

/-- Nor is any left behind. -/
theorem Stripped.eq_nil_of_suffix {y rest : List Char} (h : Stripped tokens cs (rest ++ y))
    (hy : IsPadding tokens y) : y = [] := by
  obtain ⟨ps, hps, rfl⟩ := hy
  rcases List.eq_nil_or_concat ps with rfl | ⟨ps, p, rfl⟩
  · rfl
  · rw [List.concat_eq_append, List.flatten_append, List.flatten_singleton,
      ← List.append_assoc] at h
    rcases hps p (by simp) with ht | ⟨c, hc, rfl⟩
    · have hends := h.ends p ht
      rw [ends_append] at hends
      cases hends
    · have hlast := h.trimmed.last c (by simp)
      simp [hc] at hlast

/-! ### A version among padding -/

/-- A character that padding may have. -/
def IsPaddingChar (tokens : List (List Char)) (c : Char) : Prop :=
  isBlank c = true ∨ ∃ t ∈ tokens, c ∈ t

theorem isPaddingChar_reverse {c : Char} :
    IsPaddingChar (tokens.map List.reverse) c ↔ IsPaddingChar tokens c := by
  simp only [IsPaddingChar, List.mem_map, exists_exists_and_eq_and, List.mem_reverse]

variable {v x y z rest : List Char}

/-- Padding in front of a version goes no further than to the version. -/
theorem exists_of_append_eq (hcode : IsCode tokens) (hx : IsPadding tokens x)
    (hz : IsPadding tokens z) (hv : v ≠ []) (hhead : ∀ c ∈ v.head?, ¬IsPaddingChar tokens c)
    (heq : x ++ (v ++ rest) = z ++ r) : ∃ x', IsPadding tokens x' ∧ r = x' ++ (v ++ rest) := by
  rcases List.append_eq_append_iff.mp heq with ⟨z', rfl, hr⟩ | ⟨x', rfl, hr⟩
  · -- what `z` has more than `x` would begin with a character of the version
    cases z' with
    | nil => exact ⟨[], .nil, by simpa using hr.symm⟩
    | cons c z' =>
        obtain ⟨a, v, rfl⟩ := List.exists_cons_of_ne_nil hv
        obtain rfl : a = c := (List.cons.inj hr).1
        exact absurd (hz.of_mem (by simp)) (hhead a rfl)
  · exact ⟨x', hz.of_append hcode hx, hr⟩

/-- Of a version among padding the version is left. -/
theorem Stripped.eq (h : Stripped tokens (x ++ (v ++ y)) r) (hcode : IsCode tokens)
    (hcode' : IsCode (tokens.map List.reverse)) (hx : IsPadding tokens x) (hy : IsPadding tokens y)
    (hv : v ≠ []) (hhead : ∀ c ∈ v.head?, ¬IsPaddingChar tokens c)
    (hlast : ∀ c ∈ v.getLast?, ¬IsPaddingChar tokens c) : r = v := by
  obtain ⟨z, w, hz, hw, heq⟩ := h.around
  rw [List.append_assoc] at heq
  obtain ⟨x', hx', hr⟩ := exists_of_append_eq hcode hx hz hv hhead heq
  -- the same from behind
  have hrev : y.reverse ++ (v.reverse ++ x'.reverse) = w.reverse ++ r.reverse := by
    simpa using congrArg List.reverse hr.symm
  obtain ⟨y', hy', hr'⟩ := exists_of_append_eq hcode' hy.reverse hw.reverse (by simpa using hv)
    (by simpa only [List.head?_reverse, isPaddingChar_reverse] using hlast) hrev
  have hsides : r = x' ++ (v ++ y'.reverse) := by
    simpa using congrArg List.reverse hr'
  subst hsides
  have hnil : x' = [] := h.eq_nil_of_prefix hx'
  rw [hnil, List.nil_append] at h ⊢
  rw [h.eq_nil_of_suffix hy'.of_reverse, List.append_nil]

/-- Of nothing but padding nothing is left. -/
theorem Stripped.eq_nil (h : Stripped tokens cs r) (hcode : IsCode tokens)
    (hcode' : IsCode (tokens.map List.reverse)) (hcs : IsPadding tokens cs) : r = [] := by
  obtain ⟨x, y, hx, hy, rfl⟩ := h.around
  rw [List.append_assoc] at hcs
  have hr : IsPadding tokens r := hy.of_append_right hcode' (hx.of_append hcode hcs)
  have hwhole : Stripped tokens (x ++ r ++ y) (r ++ []) := by rwa [List.append_nil]
  exact hwhole.eq_nil_of_prefix hr

end Clause

/-! ## The tokens of operators -/

theorem Operator.isCode_tokens (op : Operator) : IsCode op.tokens := by
  cases op <;> constructor <;> simp [Operator.tokens, Operator.opening, Operator.closing, isBlank]

theorem Operator.isCode_reverse_tokens (op : Operator) : IsCode (op.tokens.map List.reverse) := by
  cases op <;> constructor <;> simp [Operator.tokens, Operator.opening, Operator.closing, isBlank]

theorem Operator.tokens_ne_nil (op : Operator) : op.tokens ≠ [] := by
  cases op <;> decide

/-- What a clause with an operator is stripped to. -/
theorem Clause.strip_tokens (op : Operator) (cs : List Char) :
    Stripped op.tokens cs (strip op.tokens cs) :=
  strip_spec op.tokens_ne_nil op.isCode_tokens.ne_nil cs

end AdvisoryLedger
