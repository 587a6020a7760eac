import AdvisoryLedger.Proofs.Package.Url
import AdvisoryLedger.Proofs.Text.Casing

/-!
# Types, names and scopes as they are written

A type is written in small letters. What it makes of a name or a scope it leaves as it is from
then on, and nothing that is no letter gets lost on the way, apart from the underscores that
`pypi` writes as hyphens.
-/

namespace AdvisoryLedger
namespace PackageUrl

open Text

/-! ## Types -/

/-- A character that a type may have. -/
def isOfType (a : Char) : Bool := isAsciiLetter a || isDigit a || a ∈ ['.', '-', '+']

theorem isWord_cons {a : Char} {cs : List Char} : isWord ['.', '-', '+'] (a :: cs) = true ↔
    isDigit a = false ∧ ∀ b ∈ a :: cs, isOfType b = true := by
  simp only [isWord, isOfType, Bool.and_eq_true, Bool.not_eq_true', List.all_eq_true]

theorem toNat_lt_of_isOfType {a : Char} (h : isOfType a = true) : a.toNat < 0x80 := by
  have hle {last : Char} (ha : a ≤ last) (hlast : last.toNat < 0x80) : a.toNat < 0x80 :=
    Nat.lt_of_le_of_lt (Char.le_def.mp ha) hlast
  simp only [isOfType, isAsciiLetter, isDigit, Bool.or_eq_true, Bool.and_eq_true,
    decide_eq_true_eq, List.mem_cons, List.not_mem_nil, or_false] at h
  rcases h with ((⟨-, ha⟩ | ⟨-, ha⟩) | ⟨-, ha⟩) | rfl | rfl | rfl
  · exact hle ha (by decide)
  · exact hle ha (by decide)
  · exact hle ha (by decide)
  all_goals decide

/-- It is one in small letters too, and a small letter then. -/
theorem toLower_of_isOfType {a : Char} (h : isOfType a = true) : isOfType a.toLower = true ∧
    isDigit a.toLower = isDigit a ∧ a.toLower.toLower = a.toLower := by
  have hall : ∀ n < 0x80, isOfType (Char.ofNat n) = true →
      isOfType (Char.ofNat n).toLower = true ∧
      isDigit (Char.ofNat n).toLower = isDigit (Char.ofNat n) ∧
      (Char.ofNat n).toLower.toLower = (Char.ofNat n).toLower := by decide +kernel
  have ha := hall a.toNat (toNat_lt_of_isOfType h)
  rw [Char.ofNat_toNat] at ha
  exact ha h

theorem isWord_map_toLower {cs : List Char} (h : isWord ['.', '-', '+'] cs = true) :
    isWord ['.', '-', '+'] (cs.map Char.toLower) = true ∧
      (cs.map Char.toLower).map Char.toLower = cs.map Char.toLower := by
  cases cs with
  | nil => cases h
  | cons a cs =>
      obtain ⟨hdigit, hall⟩ := isWord_cons.mp h
      constructor
      · rw [List.map_cons, isWord_cons, (toLower_of_isOfType (hall a (by simp))).2.1]
        refine ⟨hdigit, fun b hb => ?_⟩
        obtain ⟨b', hb', rfl⟩ := List.mem_map.mp (List.map_cons ▸ hb)
        exact (toLower_of_isOfType (hall b' hb')).1
      · rw [List.map_map]
        exact List.map_congr_left fun b hb => (toLower_of_isOfType (hall b hb)).2.2

theorem not_mem_of_isWord {mark : Char} {cs : List Char} (h : isWord ['.', '-', '+'] cs = true)
    (hmark : isOfType mark = false) : mark ∉ cs := by
  cases cs with
  | nil => exact List.not_mem_nil
  | cons a cs =>
      intro hmem
      rw [(isWord_cons.mp h).2 mark hmem] at hmark
      cases hmark

/-! ## Names and scopes -/

/-- An underscore as `pypi` writes it. -/
def hyphenated (cs : List Char) : List Char := cs.map fun c => if c = '_' then '-' else c

theorem hyphenated_eq_self {cs : List Char} (h : '_' ∉ cs) : hyphenated cs = cs := by
  refine (List.map_congr_left fun c hc => ?_).trans (List.map_id cs)
  exact if_neg fun (heq : c = '_') => h (heq ▸ hc)

theorem not_mem_hyphenated (cs : List Char) : '_' ∉ hyphenated cs := by
  intro h
  obtain ⟨c, -, hc⟩ := List.mem_map.mp h
  split at hc
  · cases hc
  · next hne => exact hne hc

theorem countP_hyphenated {p : Char → Bool} (hunderscore : p '_' = false) (hhyphen : p '-' = false)
    (cs : List Char) : (hyphenated cs).countP p = cs.countP p := by
  rw [hyphenated, List.countP_map]
  apply List.countP_congr
  intro c _
  by_cases hc : c = '_'
  · simp [hc, hunderscore, hhyphen]
  · simp [hc]

/-- A name in `pypi` has no underscore and no capital. -/
theorem lower_hyphenated_lower (cs : List Char) :
    lower (String.ofList (hyphenated (lower (String.ofList (hyphenated cs))).toList))
      = lower (String.ofList (hyphenated cs)) := by
  have hnone : '_' ∉ (lower (String.ofList (hyphenated cs))).toList := by
    rw [← List.count_eq_zero, List.count, countP_lower (by simp; decide), String.toList_ofList]
    exact List.count_eq_zero.mpr (not_mem_hyphenated cs)
  rw [hyphenated_eq_self hnone, String.ofList_toList, lower_lower]

theorem canonicalName_canonicalName (type name : String) :
    canonicalName type (canonicalName type name) = canonicalName type name := by
  by_cases hall : lowersAll type = true
  · simp only [canonicalName, if_pos hall]
    exact lower_lower name
  by_cases hpypi : type = "pypi"
  · simp only [canonicalName, if_neg hall, if_pos hpypi]
    exact lower_hyphenated_lower name.toList
  · simp only [canonicalName, if_neg hall, if_neg hpypi]
    split
    · rw [lower_lower, ite_self]
    · rfl

theorem canonicalScope_canonicalScope (type scope : String) :
    canonicalScope type (canonicalScope type scope) = canonicalScope type scope := by
  unfold canonicalScope
  split
  · rw [lower_lower, ite_self]
  · rfl

theorem canonicalScope_empty (type : String) : canonicalScope type "" = "" := by
  unfold canonicalScope
  split <;> rfl

theorem canonicalName_ne_empty (type : String) {name : String} (h : name ≠ "") :
    canonicalName type name ≠ "" := by
  unfold canonicalName
  split
  · exact lower_ne_empty h
  · split
    · apply lower_ne_empty
      simpa [String.ofList_eq_empty_iff] using h
    · split
      · exact lower_ne_empty h
      · exact h

/-- A name keeps what is no letter, no underscore and no hyphen. -/
theorem countP_canonicalName {p : Char → Bool} (hp : ∀ c, p c = true → isCaseless c = true)
    (hunderscore : p '_' = false) (hhyphen : p '-' = false) (type name : String) :
    (canonicalName type name).toList.countP p = name.toList.countP p := by
  unfold canonicalName
  split
  · exact countP_lower hp name
  · split
    · rw [countP_lower hp, String.toList_ofList]
      exact countP_hyphenated hunderscore hhyphen name.toList
    · split
      · exact countP_lower hp name
      · rfl

theorem countP_canonicalScope {p : Char → Bool} (hp : ∀ c, p c = true → isCaseless c = true)
    (type scope : String) : (canonicalScope type scope).toList.countP p = scope.toList.countP p := by
  unfold canonicalScope
  split
  · exact countP_lower hp scope
  · rfl

end PackageUrl
end AdvisoryLedger
