import AdvisoryLedger.Version.Range

/-!
# An expression is what its clauses say

Reading an expression goes through its clauses from left to right and lets each one set
bounds. A clause does not look at its neighbours, so what it says is settled on its own:
nothing, if it shows no operator or has no version, and otherwise a version for one bound or
for two (`Clause.ofChars?`, `Clause.version?`). What is read is then, for each bound, the
version of the last clause that has one for it.

* `get?_addClause` says what one clause does to a bound, and `get?_foldl_addClause` what a row
  of clauses does. Everything else goes through `get?_ofExpression`.
* `ofExpression_overrides` is the whole: the part of an expression behind a comma overrides the
  part before it, bound by bound.
-/

namespace AdvisoryLedger

open Text

/-! ## Single bounds -/

/-- One of the four bounds. -/
inductive Bound
  | startIncluding | startExcluding | endIncluding | endExcluding
  deriving DecidableEq, Repr

/-- The bounds that an operator sets. -/
def Operator.bounds : Operator → List Bound
  | startIncluding => [.startIncluding]
  | startExcluding => [.startExcluding]
  | endIncluding => [.endIncluding]
  | endExcluding => [.endExcluding]
  | exact => [.startIncluding, .endIncluding]

namespace VersionBounds

/-- The version at a bound. -/
def get? (b : VersionBounds) : Bound → Option String
  | .startIncluding => b.startIncluding
  | .startExcluding => b.startExcluding
  | .endIncluding => b.endIncluding
  | .endExcluding => b.endExcluding

theorem ext_get? {b b' : VersionBounds} (h : ∀ bound, b.get? bound = b'.get? bound) : b = b' := by
  have h₁ := h .startIncluding
  have h₂ := h .startExcluding
  have h₃ := h .endIncluding
  have h₄ := h .endExcluding
  cases b
  cases b'
  simp only [get?] at h₁ h₂ h₃ h₄
  rw [h₁, h₂, h₃, h₄]

@[simp] theorem get?_empty (bound : Bound) : empty.get? bound = none := by
  cases bound <;> rfl

theorem get?_set (b : VersionBounds) (op : Operator) (version : String) (bound : Bound) :
    (b.set op version).get? bound
      = if bound ∈ op.bounds then some version else b.get? bound := by
  cases op <;> cases bound <;> rfl

/-- The bounds with later ones over them, which count wherever they are set. -/
def override (b later : VersionBounds) : VersionBounds :=
  { startIncluding := later.startIncluding.or b.startIncluding
    startExcluding := later.startExcluding.or b.startExcluding
    endIncluding := later.endIncluding.or b.endIncluding
    endExcluding := later.endExcluding.or b.endExcluding }

@[simp] theorem get?_override (b later : VersionBounds) (bound : Bound) :
    (b.override later).get? bound = (later.get? bound).or (b.get? bound) := by
  cases bound <;> rfl

end VersionBounds

/-! ## Single clauses -/

namespace Clause

/-- The clause that a text is, if it says something: it shows an operator and has a version. -/
def ofChars? (cs : List Char) : Option Clause :=
  (read? (String.ofList cs)).filter fun c => !c.version.isEmpty

/-- The version that a clause has for a bound. -/
def version? (c : Clause) (bound : Bound) : Option String :=
  if bound ∈ c.operator.bounds then some c.version else none

/-- Blanks around a clause make no difference. -/
theorem ofChars?_trim (cs : List Char) : ofChars? (trim cs) = ofChars? cs := by
  unfold ofChars? read?
  rw [String.toList_ofList, String.toList_ofList, (isTrimmed_trim cs).trim_eq]

/-- A text of blanks is no clause. -/
theorem read?_of_isBlankText {text : String} (h : isBlankText text = true) : read? text = none := by
  unfold read?
  rw [trim_eq_nil_iff.mpr h]
  decide

/-- A text says nothing if it shows no operator or has no version. -/
theorem ofChars?_eq_none_iff {text : String} :
    ofChars? text.toList = none ↔ read? text = none ∨ ∃ op, read? text = some ⟨op, ""⟩ := by
  unfold ofChars?
  rw [String.ofList_toList]
  cases read? text with
  | none => simp
  | some c =>
      obtain ⟨op, version⟩ := c
      simp

end Clause

/-! ## Rows of clauses -/

namespace VersionBounds

/-- The clauses of an expression that say something, from left to right. -/
def clauses (expression : String) : List Clause :=
  (expression.toList.splitOn ',').filterMap Clause.ofChars?

/-- They may be read without the blanks around them. -/
theorem clauses_eq_map_trim (expression : String) :
    clauses expression
      = ((expression.toList.splitOn ',').map trim).filterMap Clause.ofChars? := by
  have htrim : Clause.ofChars? ∘ trim = Clause.ofChars? := by
    funext cs
    rw [Function.comp_apply, Clause.ofChars?_trim]
  rw [clauses, List.filterMap_map, htrim]

theorem addClause_eq (b : VersionBounds) (cs : List Char) :
    b.addClause cs = (Clause.ofChars? cs).elim b fun c => b.set c.operator c.version := by
  unfold addClause Clause.ofChars?
  cases Clause.read? (String.ofList cs) with
  | none => rfl
  | some c =>
      by_cases hempty : c.version.isEmpty
      · rw [Option.filter_some_neg (by simp [hempty])]
        simp [hempty]
      · rw [Option.filter_some_pos (by simp [hempty])]
        simp [hempty]

/-- What one more clause does to a bound. -/
theorem get?_addClause (b : VersionBounds) (cs : List Char) (bound : Bound) :
    (b.addClause cs).get? bound
      = ((Clause.ofChars? cs).bind (·.version? bound)).or (b.get? bound) := by
  rw [addClause_eq]
  cases Clause.ofChars? cs with
  | none => rfl
  | some c =>
      simp only [Option.elim_some, Option.bind_some, get?_set, Clause.version?]
      split <;> rfl

/-- What a row of clauses does to a bound: the last one that sets it wins. -/
theorem get?_foldl_addClause (texts : List (List Char)) (b : VersionBounds) (bound : Bound) :
    (texts.foldl addClause b).get? bound
      = ((texts.filterMap Clause.ofChars?).filterMap (·.version? bound)).getLast?.or
          (b.get? bound) := by
  -- from the left: what the first clause sets is what the others find
  induction texts generalizing b with
  | nil => rfl
  | cons cs texts ih =>
      have hfirst : (([cs].filterMap Clause.ofChars?).filterMap (·.version? bound)).getLast?
          = (Clause.ofChars? cs).bind (·.version? bound) := by
        cases hcs : Clause.ofChars? cs with
        | none => simp [hcs]
        | some c => cases hc : c.version? bound <;> simp [hcs, hc]
      rw [List.foldl_cons, ih, get?_addClause, ← List.singleton_append, List.filterMap_append,
        List.filterMap_append, List.getLast?_append, hfirst, Option.or_assoc]

theorem get?_ofExpression (expression : String) (bound : Bound) :
    (ofExpression expression).get? bound
      = ((clauses expression).filterMap (·.version? bound)).getLast? := by
  unfold ofExpression clauses
  rw [get?_foldl_addClause, get?_empty, Option.or_none]

/-- Expressions with the same clauses have the same bounds. -/
theorem ofExpression_congr {e e' : String} (h : clauses e = clauses e') :
    ofExpression e = ofExpression e' := by
  apply ext_get?
  intro bound
  rw [get?_ofExpression, get?_ofExpression, h]

/-! ## Expressions put together -/

theorem clauses_comma (a b : String) : clauses (a ++ "," ++ b) = clauses a ++ clauses b := by
  have hchars : (a ++ "," ++ b).toList = a.toList ++ ',' :: b.toList := by simp
  unfold clauses
  rw [hchars, List.splitOn_append_cons_self, List.filterMap_append]

/-- The same for any number of parts, and for every joint that keeps clauses apart. -/
theorem clauses_intercalate {joint : String}
    (hjoint : ∀ a b, clauses (a ++ joint ++ b) = clauses a ++ clauses b) (texts : List String) :
    clauses (joint.intercalate texts) = texts.flatMap clauses := by
  induction texts with
  | nil =>
      rw [String.intercalate_nil]
      decide
  | cons text texts ih =>
      cases texts with
      | nil => simp
      | cons next texts =>
          rw [String.intercalate_cons_cons, hjoint, ih]
          rfl

/-- A text without commas is one clause. -/
theorem clauses_of_not_mem {text : String} (h : ',' ∉ text.toList) :
    clauses text = (Clause.ofChars? text.toList).toList := by
  unfold clauses
  rw [List.splitOn_eq_singleton h]
  cases htext : Clause.ofChars? text.toList <;> simp [htext]

/-- What stands behind a comma overrides what stands before it. -/
theorem ofExpression_comma (a b : String) :
    ofExpression (a ++ "," ++ b) = (ofExpression a).override (ofExpression b) := by
  apply ext_get?
  intro bound
  simp only [get?_override, get?_ofExpression, clauses_comma, List.filterMap_append,
    List.getLast?_append]

/-- A part that says nothing may be put in or left out anywhere. -/
theorem ofExpression_intercalate_of_clauses_eq_nil {text : String} (h : clauses text = [])
    (before after : List String) :
    ofExpression (",".intercalate (before ++ text :: after))
      = ofExpression (",".intercalate (before ++ after)) := by
  apply ofExpression_congr
  simp only [clauses_intercalate clauses_comma, List.flatMap_append, List.flatMap_cons, h, List.nil_append]

/-- **Later parts override earlier ones.** What stands behind a comma counts, bound by bound,
wherever it sets the bound. So an expression depends only on its clauses, without the blanks
around them; a clause that is blank, shows no operator or has no version may be put in or left
out anywhere; and of the clauses that set a bound the last one wins. -/
theorem ofExpression_overrides :
    (∀ a b : String, ofExpression (a ++ "," ++ b) = (ofExpression a).override (ofExpression b)) ∧
    (∀ e e' : String, (e.toList.splitOn ',').map trim = (e'.toList.splitOn ',').map trim →
      ofExpression e = ofExpression e') ∧
    (∀ (before after : List String) (text : String), ',' ∉ text.toList →
      (isBlankText text = true ∨ Clause.read? text = none ∨
        ∃ op, Clause.read? text = some ⟨op, ""⟩) →
      ofExpression (",".intercalate (before ++ text :: after))
        = ofExpression (",".intercalate (before ++ after))) ∧
    ∀ (e : String) (bound : Bound),
      (ofExpression e).get? bound = ((clauses e).filterMap (·.version? bound)).getLast? := by
  refine ⟨?_, ?_, ?_, ?_⟩
  · intro a b
    exact ofExpression_comma a b
  · intro e e' h
    apply ofExpression_congr
    rw [clauses_eq_map_trim, clauses_eq_map_trim, h]
  · intro before after text hcomma hnothing
    apply ofExpression_intercalate_of_clauses_eq_nil
    rw [clauses_of_not_mem hcomma, Option.toList_eq_nil_iff, Clause.ofChars?_eq_none_iff]
    rcases hnothing with hblank | hnothing
    · exact .inl (Clause.read?_of_isBlankText hblank)
    · exact hnothing
  · intro e bound
    exact get?_ofExpression e bound

/-- A pin sets two bounds, and a later clause takes one of them from it. -/
example : ofExpression "=1.5, latest, <=2.0" = ⟨some "1.5", none, some "2.0", none⟩ := by
  cbv

end VersionBounds
end AdvisoryLedger
