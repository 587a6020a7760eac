import AdvisoryLedger.Failure

/-!
# What a package URL is read as

The type of a coordinate that was read is made of small letters, digits and the marks that a
type may have, since it is checked as it stands in the URL. Scope and name are decoded after
the parts were found and are not checked again but for slashes, so escapes can bring any
other character into them.
-/

namespace AdvisoryLedger
namespace PackageUrl

/-! ### Words -/

theorem mem_of_isWord {marks cs : List Char} (h : isWord marks cs = true) {a : Char}
    (ha : a ∈ cs) : isAsciiLetter a = true ∨ Text.isDigit a = true ∨ a ∈ marks := by
  cases cs with
  | nil => cases ha
  | cons c cs =>
      simp only [isWord, Bool.and_eq_true, List.all_eq_true, Bool.or_eq_true,
        decide_eq_true_eq] at h
      exact or_assoc.mp (h.2 a ha)

theorem toLower_of_isAsciiLetter {a : Char} (h : isAsciiLetter a = true) :
    'a' ≤ a.toLower ∧ a.toLower ≤ 'z' := by
  simp only [isAsciiLetter, Bool.or_eq_true, Bool.and_eq_true, decide_eq_true_eq] at h
  unfold Char.toLower
  split
  · next hupper =>
    simp [Char.le_def, UInt32.le_iff_toNat_le] at hupper ⊢
    omega
  · next hupper =>
    simp [Char.le_def, UInt32.le_iff_toNat_le] at hupper h ⊢
    omega

theorem toLower_of_isDigit {a : Char} (h : Text.isDigit a = true) : a.toLower = a := by
  simp only [Text.isDigit, Bool.and_eq_true, decide_eq_true_eq] at h
  apply dif_neg
  simp [Char.le_def, UInt32.le_iff_toNat_le] at h ⊢
  omega

/-! ### Types -/

/-- The type of a coordinate that was read has been checked. -/
theorem exists_typeAndRest_of_read {text : String} {c : Coordinate} (h : read text = .ok c) :
    ∃ cs rest, typeAndRest cs = .ok (c.type, rest) := by
  unfold read at h
  obtain ⟨cs, -, h⟩ := exists_of_bind_eq_ok h
  dsimp only at h
  split at h
  -- with and without a subpath
  all_goals
    obtain ⟨segments, -, h⟩ := exists_of_bind_eq_ok h
    obtain ⟨-, -, h⟩ := exists_of_bind_eq_ok h
    split at h
  -- with and without a version
  all_goals
    obtain ⟨version, -, h⟩ := exists_of_bind_eq_ok h
    obtain ⟨⟨type, rest⟩, htype, h⟩ := exists_of_bind_eq_ok h
    refine ⟨_, rest, htype.trans ?_⟩
    split at h
  -- with and without a scope
  all_goals
    split at h
    · cases h
    · obtain ⟨name, -, h⟩ := exists_of_bind_eq_ok h
      obtain ⟨scope, -, h⟩ := exists_of_bind_eq_ok h
      split at h
      · cases h
      · cases h
        rfl

theorem mem_of_typeAndRest {cs rest : List Char} {type : String}
    (h : typeAndRest cs = .ok (type, rest)) {a : Char} (ha : a ∈ type.toList) :
    ('a' ≤ a ∧ a ≤ 'z') ∨ Text.isDigit a = true ∨ a ∈ ['.', '-', '+'] := by
  unfold typeAndRest at h
  split at h
  · cases h
  · next written _ _ =>
    split at h
    · next hword =>
      obtain ⟨rfl, -⟩ := Prod.mk.inj (Except.ok.inj h)
      rw [String.toList_ofList] at ha
      obtain ⟨b, hb, rfl⟩ := List.mem_map.mp ha
      rcases mem_of_isWord hword hb with hletter | hdigit | hmark
      · exact .inl (toLower_of_isAsciiLetter hletter)
      · rw [toLower_of_isDigit hdigit]
        exact .inr (.inl hdigit)
      · right; right
        simp only [List.mem_cons, List.not_mem_nil, or_false] at hmark
        rcases hmark with rfl | rfl | rfl <;> decide
    · cases h

/-- The type of a coordinate is made of small letters, digits and the marks of types. -/
theorem mem_type_of_read {text : String} {c : Coordinate} (h : read text = .ok c) {a : Char}
    (ha : a ∈ c.type.toList) :
    ('a' ≤ a ∧ a ≤ 'z') ∨ Text.isDigit a = true ∨ a ∈ ['.', '-', '+'] := by
  obtain ⟨cs, rest, htype⟩ := exists_typeAndRest_of_read h
  exact mem_of_typeAndRest htype ha

end PackageUrl
end AdvisoryLedger
