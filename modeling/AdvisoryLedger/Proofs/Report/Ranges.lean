import AdvisoryLedger.Proofs.Version.Clauses
import AdvisoryLedger.Proofs.Version.Grammar
import AdvisoryLedger.Report.Basic

/-!
# Reported ranges can be read again

A report describes an affected range in the notation of range expressions: a pin where the
predicate pins a version, comparisons with commas between them where it does not, and a star
where nothing is bounded. Reading the description gives the bounds back, whatever the versions
are, as long as they can be told apart from the signs around them.

A described comparison is a phrase with one sign, so `Proofs.Version.Grammar` says what it is
read as. The description as a whole has its comparisons as clauses, one for each bound that is
set (`clauses_describeRange`), and the bounds of a row of such clauses are those that they were
made from.
-/

namespace AdvisoryLedger

open Text

namespace VersionBounds

/-! ## Clauses with blanks between them -/

/-- A blank in front of an expression makes no difference. -/
theorem clauses_blank (expression : String) : clauses (" " ++ expression) = clauses expression := by
  have hchars : (" " ++ expression).toList = ' ' :: expression.toList := by simp
  obtain ⟨first, rest, hsplit⟩ :=
    List.exists_cons_of_ne_nil (List.splitOn_ne_nil ',' expression.toList)
  have hblank : ∀ c ∈ [' '], isBlank c = true := List.forall_mem_singleton.mpr (by decide)
  have htrim : trim (' ' :: first) = trim first := trim_append_left hblank first
  rw [clauses_eq_map_trim, clauses_eq_map_trim, hchars, List.splitOn_cons_eq_if_modifyHead,
    if_neg (by decide), hsplit, List.modifyHead_cons, List.map_cons, List.map_cons, htrim]

theorem clauses_comma_blank (a b : String) : clauses (a ++ ", " ++ b) = clauses a ++ clauses b := by
  have hjoint : a ++ ", " ++ b = a ++ "," ++ (" " ++ b) := by
    rw [show ", " = "," ++ " " from rfl]
    simp only [String.append_assoc]
  rw [hjoint, clauses_comma, clauses_blank]

/-! ## Comparisons -/

/-- The clauses that set some bounds, one for each that is there. -/
def comparisons (b : VersionBounds) : List Clause :=
  (b.startIncluding.map (Clause.mk .startIncluding)).toList
    ++ (b.startExcluding.map (Clause.mk .startExcluding)).toList
    ++ (b.endIncluding.map (Clause.mk .endIncluding)).toList
    ++ (b.endExcluding.map (Clause.mk .endExcluding)).toList

theorem getLast?_comparisons (b : VersionBounds) (bound : Bound) :
    (b.comparisons.filterMap (·.version? bound)).getLast? = b.get? bound := by
  rcases b with ⟨_ | _, _ | _, _ | _, _ | _⟩ <;> cases bound <;> rfl

/-- Every version among the bounds may be told apart from signs, commas and blanks. -/
def IsClean (b : VersionBounds) : Prop := ∀ v ∈ b.versions, ∃ clean : CleanVersion, clean.text = v

theorem IsClean.get? {b : VersionBounds} (h : b.IsClean) (bound : Bound) {v : String}
    (hv : b.get? bound = some v) : ∃ clean : CleanVersion, clean.text = v :=
  h v (mem_versions_iff.mpr ⟨bound, hv⟩)

end VersionBounds

open VersionBounds

/-- A sign in front of a version is one clause. -/
theorem Sign.clauses_opening (sign : Sign) (hopening : sign.isClosing = false) (v : CleanVersion) :
    clauses (String.ofList sign.token ++ v.text) = [⟨sign.operator, v.text⟩] := by
  let none : Gap := ⟨[], by simp⟩
  let phrase := Phrase.signed none sign none [] v none
  have hchars : (String.ofList sign.token ++ v.text).toList = phrase.chars := by
    simp [phrase, none, Phrase.chars, hopening, Sign.leading]
  have hcomma : ',' ∉ (String.ofList sign.token ++ v.text).toList := by
    rw [hchars]
    exact phrase.comma_not_mem
  have hread : Clause.ofChars? phrase.chars = some ⟨sign.operator, v.text⟩ := by
    unfold Clause.ofChars?
    rw [← Phrase.text, Phrase.read?_signed]
    simpa using v.ne_empty
  rw [clauses_of_not_mem hcomma, hchars, hread]
  rfl

/-- The same for a version that may be missing. -/
theorem Sign.flatMap_clauses_opening (sign : Sign) (hopening : sign.isClosing = false)
    {v : Option String} (hv : ∀ s ∈ v, ∃ clean : CleanVersion, clean.text = s) :
    (v.map (String.ofList sign.token ++ ·)).toList.flatMap clauses
      = (v.map (Clause.mk sign.operator)).toList := by
  cases v with
  | none => rfl
  | some s =>
      obtain ⟨clean, rfl⟩ := hv s rfl
      simpa using sign.clauses_opening hopening clean

namespace ReportEntry

/-! ## Descriptions -/

/-- The comparisons that a description writes down. -/
theorem flatMap_clauses_comparisons {b : VersionBounds} (h : b.IsClean) :
    ([b.startIncluding.map (">=" ++ ·), b.startExcluding.map (">" ++ ·),
      b.endIncluding.map ("<=" ++ ·), b.endExcluding.map ("<" ++ ·)].flatMap
        Option.toList).flatMap clauses = b.comparisons := by
  -- a comparison is written with the sign of its bound in front
  have h₁ : (b.startIncluding.map (">=" ++ ·)).toList.flatMap clauses
      = (b.startIncluding.map (Clause.mk .startIncluding)).toList :=
    Sign.atLeast.flatMap_clauses_opening rfl fun _ hv => h.get? .startIncluding hv
  have h₂ : (b.startExcluding.map (">" ++ ·)).toList.flatMap clauses
      = (b.startExcluding.map (Clause.mk .startExcluding)).toList :=
    Sign.above.flatMap_clauses_opening rfl fun _ hv => h.get? .startExcluding hv
  have h₃ : (b.endIncluding.map ("<=" ++ ·)).toList.flatMap clauses
      = (b.endIncluding.map (Clause.mk .endIncluding)).toList :=
    Sign.atMost.flatMap_clauses_opening rfl fun _ hv => h.get? .endIncluding hv
  have h₄ : (b.endExcluding.map ("<" ++ ·)).toList.flatMap clauses
      = (b.endExcluding.map (Clause.mk .endExcluding)).toList :=
    Sign.below.flatMap_clauses_opening rfl fun _ hv => h.get? .endExcluding hv
  simp only [List.flatMap_cons, List.flatMap_nil, List.flatMap_append, h₁, h₂, h₃, h₄,
    comparisons, List.append_nil, List.append_assoc]

/-- Where no version is pinned, a description says what each bound is. -/
theorem clauses_describeRange {p : Predicate} (hversion : p.version = none)
    (h : p.bounds.IsClean) : clauses (describeRange p) = p.bounds.comparisons := by
  have hcomparisons := flatMap_clauses_comparisons h
  unfold describeRange
  rw [hversion]
  dsimp only
  split
  · next hnone =>
    rw [List.isEmpty_iff] at hnone
    rw [hnone] at hcomparisons
    rw [← hcomparisons]
    decide
  · rw [clauses_intercalate clauses_comma_blank, hcomparisons]

/-- **A described range reads back as it was.** This holds whatever bounds are set. A predicate
that pins a version is described by the pin, and one without bounds by a star. -/
theorem ofExpression_describeRange (type : String) (scope : Option String) (name : String)
    (bounds : VersionBounds) (h : bounds.IsClean) :
    ofExpression (describeRange (.ofParts type scope name bounds)) = bounds ∧
    (∀ v, bounds = ⟨some v, none, some v, none⟩ →
      describeRange (.ofParts type scope name bounds) = "=" ++ v) ∧
    (bounds = .empty → describeRange (.ofParts type scope name bounds) = "*") := by
  have hpinned {v : String} (hversion : bounds.exactVersion? = some v) :
      describeRange (.ofParts type scope name bounds) = "=" ++ v := by
    unfold describeRange Predicate.ofParts
    rw [hversion]
  refine ⟨?_, ?_, ?_⟩
  · apply ext_get?
    intro bound
    rw [get?_ofExpression]
    cases hversion : bounds.exactVersion? with
    | some v =>
        obtain rfl := exactVersion?_eq_some_iff.mp hversion
        obtain ⟨clean, rfl⟩ := h.get? .startIncluding rfl
        have hpin : clauses ("=" ++ clean.text) = [⟨.exact, clean.text⟩] :=
          Sign.pin.clauses_opening rfl clean
        rw [hpinned hversion, hpin]
        cases bound <;> rfl
    | none =>
        rw [clauses_describeRange (p := .ofParts type scope name bounds) hversion h]
        exact bounds.getLast?_comparisons bound
  · intro v hv
    exact hpinned (exactVersion?_eq_some_iff.mpr hv)
  · rintro rfl
    rfl

/-- A version may have blanks inside it. -/
theorem ofExpression_describeRange_interval :
    let bounds : VersionBounds := ⟨some "1.0", none, none, some "2.0 rc"⟩
    let p := Predicate.ofParts "npm" (some "@acme") "tool" bounds
    bounds.IsClean ∧ describeRange p = ">=1.0, <2.0 rc" ∧ ofExpression (describeRange p) = bounds := by
  intro bounds p
  have hclean : bounds.IsClean := by
    intro v hv
    rcases List.mem_cons.mp hv with rfl | hv
    · exact ⟨⟨"1.0", by decide, ⟨by simp [isBlank], by simp [isBlank]⟩, by simp [reserved]⟩, rfl⟩
    · rw [List.mem_singleton.mp hv]
      exact ⟨⟨"2.0 rc", by decide, ⟨by simp [isBlank], by simp [isBlank]⟩, by simp [reserved]⟩, rfl⟩
  exact ⟨hclean, by decide, (ofExpression_describeRange _ _ _ bounds hclean).1⟩

end ReportEntry
end AdvisoryLedger
