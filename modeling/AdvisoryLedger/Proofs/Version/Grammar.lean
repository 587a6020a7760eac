import AdvisoryLedger.Proofs.Version.Range
import AdvisoryLedger.Proofs.Version.Strip
import AdvisoryLedger.Version.Grammar

/-!
# Reading range expressions as they are written

Reading takes an expression apart at its commas and looks at each clause for operators in a
fixed order. This module shows that what is read is what `AdvisoryLedger.Version.Grammar`
says of the phrases that were written.

* The operators that come before that of a sign do not show: each of their tokens has a
  reserved character, and all reserved characters of a phrase are of its sign.
* The operator of the sign shows, for the sign is still at its end of the phrase when the
  blanks are trimmed.
* What the tokens of that operator and the blanks leave of the phrase is its version, or
  nothing if it has none.
-/

namespace AdvisoryLedger

open Text

/-! ## Operators that show -/

namespace Operator

/-- An operator that a text shows has all characters of one of its tokens there. -/
theorem exists_subset_of_marks {op : Operator} {cs : List Char} (h : op.marks cs = true) :
    ∃ t ∈ op.tokens, t ⊆ cs := by
  unfold marks at h
  rw [Bool.or_eq_true, List.any_eq_true, List.any_eq_true] at h
  rcases h with ⟨t, ht, h⟩ | ⟨t, ht, h⟩
  · obtain ⟨rest, rfl⟩ := exists_of_begins h
    exact ⟨t, List.mem_append_left _ ht, List.subset_append_left _ _⟩
  · obtain ⟨rest, rfl⟩ := exists_of_ends h
    exact ⟨t, List.mem_append_right _ ht, List.subset_append_right _ _⟩

/-- The operators that a clause is tried for before this one. -/
def before (op : Operator) : List Operator := all.takeWhile (· ≠ op)

theorem exists_all_eq (op : Operator) : ∃ after, all = op.before ++ op :: after := by
  cases op <;> exact ⟨_, rfl⟩

theorem find?_marks {op : Operator} {cs : List Char} (h : op.marks cs = true)
    (hbefore : ∀ op' ∈ op.before, op'.marks cs = false) : all.find? (·.marks cs) = some op := by
  obtain ⟨after, hall⟩ := op.exists_all_eq
  rw [List.find?_eq_some_iff_append]
  exact ⟨h, op.before, after, hall, fun op' hop' => by simp [hbefore op' hop']⟩

theorem tokens_reserved (op : Operator) : ∀ t ∈ op.tokens, ∀ c ∈ t, c ∈ reserved := by
  cases op <;> simp [tokens, opening, closing, reserved]

end Operator

theorem not_reserved_of_isBlank {c : Char} (h : isBlank c = true) : c ∉ reserved := by
  intro hc
  have hsolid : ∀ c ∈ reserved, isBlank c = false := by simp [reserved, isBlank]
  rw [hsolid c hc] at h
  cases h

/-! ## Versions and signs -/

namespace CleanVersion

variable (v : CleanVersion)

theorem toList_ne_nil : v.text.toList ≠ [] := by
  simpa using v.ne_empty

/-- No token has a character of a version. -/
theorem not_mem_token {op : Operator} {t : List Char} (ht : t ∈ op.tokens) {c : Char}
    (hc : c ∈ v.text.toList) : c ∉ t := by
  intro hct
  exact v.unreserved c hc (op.tokens_reserved t ht c hct)

theorem head_not_padding (op : Operator) :
    ∀ c ∈ v.text.toList.head?, ¬Clause.IsPaddingChar op.tokens c := by
  rintro c hc (hblank | ⟨t, ht, hct⟩)
  · rw [v.trimmed.head c hc] at hblank
    cases hblank
  · exact v.not_mem_token ht (List.mem_of_mem_head? hc) hct

theorem last_not_padding (op : Operator) :
    ∀ c ∈ v.text.toList.getLast?, ¬Clause.IsPaddingChar op.tokens c := by
  rintro c hc (hblank | ⟨t, ht, hct⟩)
  · rw [v.trimmed.last c hc] at hblank
    cases hblank
  · exact v.not_mem_token ht (List.mem_of_mem_getLast? hc) hct

end CleanVersion

namespace Sign

/-- The operator that the sign is a token of. -/
def operator : Sign → Operator
  | atLeast | openSquare => .startIncluding
  | above | openRound => .startExcluding
  | atMost | closeSquare => .endIncluding
  | below | closeRound => .endExcluding
  | pin => .exact

variable (sign : Sign) (gaps : List Gap)

theorem bound_eq (b : VersionBounds) (version : String) :
    sign.bound b version = b.set sign.operator version := by
  cases sign <;> rfl

theorem token_mem : sign.token ∈ sign.operator.tokens := by
  cases sign <;> decide

theorem token_ne_nil : sign.token ≠ [] := by
  cases sign <;> decide

theorem isTrimmed_token : IsTrimmed sign.token := by
  cases sign <;> constructor <;> simp [token, isBlank]

/-- Each operator that is tried before that of the sign has in each of its tokens a character
that the sign does not have. -/
theorem exists_not_mem :
    ∀ op ∈ sign.operator.before, ∀ t ∈ op.tokens, ∃ c ∈ t, c ∉ sign.token := by
  cases sign <;> simp [operator, Operator.before, Operator.all, Operator.tokens, Operator.opening,
    Operator.closing, token]

theorem isPadding_leading : IsPadding sign.operator.tokens (sign.leading gaps) :=
  .flatMap fun g _ => (IsPadding.token sign.token_mem).append (.blanks g.property)

theorem isPadding_trailing : IsPadding sign.operator.tokens (sign.trailing gaps) :=
  .flatMap fun g _ => (IsPadding.blanks g.property).append (.token sign.token_mem)

/-- A run of signs begins with the sign. -/
theorem leading_cons (gap : Gap) (more : List Gap) :
    sign.leading (gap :: more) = sign.token ++ (gap.val ++ sign.leading more) := by
  simp [leading]

/-- It ends with the sign and a gap. -/
theorem exists_leading_eq (gap : Gap) (more : List Gap) :
    ∃ (front : List Char) (last : Gap),
      sign.leading (gap :: more) = front ++ sign.token ++ last.val := by
  have hlast := List.dropLast_append_getLast (List.cons_ne_nil gap more)
  refine ⟨sign.leading (gap :: more).dropLast, (gap :: more).getLast (List.cons_ne_nil _ _), ?_⟩
  conv_lhs => rw [← hlast]
  simp [leading]

theorem exists_trailing_eq (gap : Gap) (more : List Gap) :
    ∃ front : List Char, sign.trailing (gap :: more) = front ++ sign.token := by
  have hlast := List.dropLast_append_getLast (List.cons_ne_nil gap more)
  refine ⟨sign.trailing (gap :: more).dropLast
    ++ ((gap :: more).getLast (List.cons_ne_nil _ _)).val, ?_⟩
  conv_lhs => rw [← hlast]
  simp [trailing]

/-- A character of a run of signs is a blank or one of the sign. -/
theorem of_mem_leading {c : Char} (hc : c ∈ sign.leading gaps) :
    isBlank c = true ∨ c ∈ sign.token := by
  obtain ⟨g, -, hc⟩ := List.mem_flatMap.mp hc
  rcases List.mem_append.mp hc with htoken | hgap
  · exact .inr htoken
  · exact .inl (g.property c hgap)

theorem of_mem_trailing {c : Char} (hc : c ∈ sign.trailing gaps) :
    isBlank c = true ∨ c ∈ sign.token := by
  obtain ⟨g, -, hc⟩ := List.mem_flatMap.mp hc
  rcases List.mem_append.mp hc with hgap | htoken
  · exact .inl (g.property c hgap)
  · exact .inr htoken

/-- A sign in front of everything but blanks shows its operator. -/
theorem marks_opening (hopening : sign.isClosing = false) {g : List Char}
    (hg : ∀ c ∈ g, isBlank c = true) (rest : List Char) :
    sign.operator.marks (trim (g ++ (sign.token ++ rest))) = true := by
  have hmem : sign.token ∈ sign.operator.opening := by
    cases sign <;> revert hopening <;> decide
  have hbegins := begins_trim sign.isTrimmed_token sign.token_ne_nil rest
  rw [trim_append_left hg, Operator.marks, List.any_eq_true.mpr ⟨_, hmem, hbegins⟩, Bool.true_or]

/-- A closing sign behind everything but blanks shows its operator. -/
theorem marks_closing (hclosing : sign.isClosing = true) (rest : List Char) {g : List Char}
    (hg : ∀ c ∈ g, isBlank c = true) :
    sign.operator.marks (trim (rest ++ sign.token ++ g)) = true := by
  have hmem : sign.token ∈ sign.operator.closing := by
    cases sign <;> revert hclosing <;> decide
  have hends := ends_trim sign.isTrimmed_token sign.token_ne_nil rest
  rw [trim_append_right hg, Operator.marks, List.any_eq_true.mpr ⟨_, hmem, hends⟩, Bool.or_true]

end Sign

/-! ## Reading a phrase -/

/-- A text without reserved characters is no clause. -/
theorem Clause.read?_eq_none {cs : List Char} (h : ∀ c ∈ cs, c ∉ reserved) :
    Clause.read? (String.ofList cs) = none := by
  unfold Clause.read?
  rw [String.toList_ofList, Option.map_eq_none_iff, List.find?_eq_none]
  intro op _ hmarks
  obtain ⟨t, ht, hsub⟩ := Operator.exists_subset_of_marks hmarks
  obtain ⟨c, hc⟩ := List.exists_mem_of_ne_nil _ (op.isCode_tokens.ne_nil t ht)
  exact h c (trim_subset cs (hsub hc)) (op.tokens_reserved t ht c hc)

/-- A text of blanks, one sign and a version is a clause with the operator of the sign. -/
theorem Clause.read?_eq_some {sign : Sign} {cs r : List Char}
    (hmarks : sign.operator.marks (trim cs) = true)
    (hchars : ∀ c ∈ cs, c ∈ reserved → c ∈ sign.token)
    (hr : ∀ r', Stripped sign.operator.tokens cs r' → r' = r) :
    Clause.read? (String.ofList cs) = some ⟨sign.operator, String.ofList r⟩ := by
  have hfind : Operator.all.find? (·.marks (trim cs)) = some sign.operator := by
    apply Operator.find?_marks hmarks
    intro op hop
    by_contra hother
    rw [Bool.not_eq_false] at hother
    obtain ⟨t, ht, hsub⟩ := Operator.exists_subset_of_marks hother
    -- that token has a character that stands nowhere in the text
    obtain ⟨c, hc, hnot⟩ := sign.exists_not_mem op hop t ht
    exact hnot (hchars c (trim_subset cs (hsub hc)) (op.tokens_reserved t ht c hc))
  have hstrip := Clause.strip_tokens sign.operator (trim cs)
  have hr' := hr _ { hstrip with around := (around_trim cs).trans hstrip.around }
  unfold Clause.read?
  rw [String.toList_ofList]
  simp only [hfind, hr', Option.map_some]

namespace Phrase

/-- The sign in a phrase. -/
def sign? : Phrase → Option Sign
  | blank _ | unsigned .. => none
  | bare _ sign .. | signed _ sign .. => some sign

/-- A reserved character of a phrase is one of its sign. -/
theorem exists_sign_of_mem (p : Phrase) {c : Char} (hc : c ∈ p.chars) (hreserved : c ∈ reserved) :
    ∃ sign ∈ p.sign?, c ∈ sign.token := by
  have hgap (g : Gap) : c ∉ g.val := fun hg => not_reserved_of_isBlank (g.property c hg) hreserved
  have hversion (v : CleanVersion) : c ∉ v.text.toList := fun hv => v.unreserved c hv hreserved
  have hrun (sign : Sign) (gaps : List Gap)
      (h : c ∈ sign.leading gaps ∨ c ∈ sign.trailing gaps) : c ∈ sign.token := by
    have hside := h.elim (sign.of_mem_leading gaps) (sign.of_mem_trailing gaps)
    exact hside.resolve_left fun hblank => not_reserved_of_isBlank hblank hreserved
  cases p with
  | blank gap => exact absurd hc (hgap gap)
  | unsigned before v after => simp [chars, hgap, hversion] at hc
  | bare before sign gap more =>
      simp only [chars, List.mem_append, hgap, false_or] at hc
      exact ⟨sign, rfl, hrun sign _ (.inl hc)⟩
  | signed before sign gap more v after =>
      refine ⟨sign, rfl, hrun sign (gap :: more) ?_⟩
      rw [chars] at hc
      split at hc
      · simp only [List.mem_append, hgap, hversion, false_or, or_false] at hc
        exact .inr hc
      · simp only [List.mem_append, hgap, hversion, false_or, or_false] at hc
        exact .inl hc

/-- A phrase without a sign is no clause. -/
theorem read?_of_sign?_eq_none {p : Phrase} (h : p.sign? = none) : Clause.read? p.text = none := by
  apply Clause.read?_eq_none
  intro c hc hreserved
  obtain ⟨sign, hsign, -⟩ := p.exists_sign_of_mem hc hreserved
  rw [h] at hsign
  cases hsign

/-- A sign alone is a clause without a version. -/
theorem read?_bare (before : Gap) (sign : Sign) (gap : Gap) (more : List Gap) :
    Clause.read? (bare before sign gap more).text = some ⟨sign.operator, ""⟩ := by
  apply Clause.read?_eq_some
  · cases hsign : sign.isClosing with
    | false =>
        rw [chars, sign.leading_cons]
        exact sign.marks_opening hsign before.property _
    | true =>
        obtain ⟨front, last, hrun⟩ := sign.exists_leading_eq gap more
        rw [chars, hrun, ← List.append_assoc, ← List.append_assoc]
        exact sign.marks_closing hsign _ last.property
  · intro c hc hreserved
    obtain ⟨sign', hsign, htoken⟩ := exists_sign_of_mem _ hc hreserved
    exact Option.some.inj hsign ▸ htoken
  · intro r hr
    apply hr.eq_nil sign.operator.isCode_tokens sign.operator.isCode_reverse_tokens
    exact (IsPadding.blanks before.property).append (sign.isPadding_leading _)

/-- The characters of a signed phrase are padding around the version. -/
theorem exists_signed_chars (before : Gap) (sign : Sign) (gap : Gap) (more : List Gap)
    (v : CleanVersion) (after : Gap) :
    ∃ x y, IsPadding sign.operator.tokens x ∧ IsPadding sign.operator.tokens y ∧
      (signed before sign gap more v after).chars = x ++ (v.text.toList ++ y) := by
  cases hsign : sign.isClosing with
  | false =>
      refine ⟨before.val ++ sign.leading (gap :: more), after.val, ?_, .blanks after.property, ?_⟩
      · exact (IsPadding.blanks before.property).append (sign.isPadding_leading _)
      · simp [chars, hsign]
  | true =>
      refine ⟨before.val, sign.trailing (gap :: more) ++ after.val, .blanks before.property, ?_, ?_⟩
      · exact (sign.isPadding_trailing _).append (.blanks after.property)
      · simp [chars, hsign]

/-- A signed phrase is a clause with the version. -/
theorem read?_signed (before : Gap) (sign : Sign) (gap : Gap) (more : List Gap) (v : CleanVersion)
    (after : Gap) :
    Clause.read? (signed before sign gap more v after).text = some ⟨sign.operator, v.text⟩ := by
  have hread : Clause.read? (signed before sign gap more v after).text
      = some ⟨sign.operator, String.ofList v.text.toList⟩ := by
    apply Clause.read?_eq_some
    · cases hsign : sign.isClosing with
      | false =>
          rw [chars, if_neg (by simp [hsign]), sign.leading_cons]
          simp only [List.append_assoc]
          exact sign.marks_opening hsign before.property _
      | true =>
          obtain ⟨front, hrun⟩ := sign.exists_trailing_eq gap more
          rw [chars, if_pos hsign, hrun, ← List.append_assoc]
          exact sign.marks_closing hsign _ after.property
    · intro c hc hreserved
      obtain ⟨sign', hsign, htoken⟩ := exists_sign_of_mem _ hc hreserved
      exact Option.some.inj hsign ▸ htoken
    · intro r hr
      obtain ⟨x, y, hx, hy, hchars⟩ := exists_signed_chars before sign gap more v after
      rw [hchars] at hr
      exact hr.eq sign.operator.isCode_tokens sign.operator.isCode_reverse_tokens hx hy
        v.toList_ne_nil (v.head_not_padding _) (v.last_not_padding _)
  rwa [String.ofList_toList] at hread

/-! ## Reading an expression -/

/-- As a clause, a phrase adds what it says. -/
theorem addClause_chars (b : VersionBounds) (p : Phrase) : b.addClause p.chars = p.add b := by
  unfold VersionBounds.addClause
  rw [← text]
  cases p with
  | blank gap =>
      rw [read?_of_sign?_eq_none rfl]
      rfl
  | unsigned before v after =>
      rw [read?_of_sign?_eq_none rfl]
      rfl
  | bare before sign gap more =>
      rw [read?_bare]
      rfl
  | signed before sign gap more v after =>
      have hne : v.text.isEmpty = false := by simpa using v.ne_empty
      rw [read?_signed, add, sign.bound_eq]
      simp [hne]

theorem comma_not_mem (p : Phrase) : ',' ∉ p.chars := by
  intro hc
  obtain ⟨sign, -, htoken⟩ := p.exists_sign_of_mem hc (by decide)
  cases sign <;> revert htoken <;> decide

theorem toList_expression (phrases : List Phrase) :
    (expression phrases).toList = [','].intercalate (phrases.map chars) := by
  have htexts : (phrases.map text).map String.toList = phrases.map chars := by
    rw [List.map_map]
    exact List.map_congr_left fun p _ => String.toList_ofList
  rw [expression, String.toList_intercalate, htexts]
  rfl

/-- **An expression is read as it was written.** Its phrases count from the left to the right,
and each one that has a sign and a version sets the bounds of the sign. -/
theorem ofExpression_expression (phrases : List Phrase) :
    VersionBounds.ofExpression (expression phrases) = phrases.foldl add .empty := by
  have hfold (b : VersionBounds) :
      (phrases.map chars).foldl VersionBounds.addClause b = phrases.foldl add b := by
    rw [List.foldl_map]
    have hstep : (fun b p => VersionBounds.addClause b (chars p)) = add :=
      funext fun b => funext fun p => addClause_chars b p
    rw [hstep]
  unfold VersionBounds.ofExpression
  rw [toList_expression]
  by_cases hnil : phrases = []
  · -- no phrase is written like one blank phrase
    subst hnil
    exact addClause_chars .empty (blank ⟨[], by simp⟩)
  · rw [List.splitOn_intercalate ',' _ (by simpa using hnil), hfold]
    intro chars hchars
    obtain ⟨p, -, rfl⟩ := List.mem_map.mp hchars
    exact p.comma_not_mem

/-- A sign may be repeated and stand apart, and a later phrase counts more than an earlier one. -/
example : VersionBounds.ofExpression " >= >=1.0, [1.5 , 2.0 ) ,, 3, (" =
    ⟨some "1.5", none, none, some "2.0"⟩ := by
  cbv

end Phrase
end AdvisoryLedger
