import AdvisoryLedger.Proofs.Text.Pieces
import AdvisoryLedger.Proofs.Version.Clauses
import AdvisoryLedger.Proofs.Version.Strip

/-!
# Where the versions of a range come from

Reading a range expression cuts it at its commas and takes blanks and tokens off the ends of
each piece. So every version among its bounds stands in the expression as it is, in one piece
(`infix_of_mem_ofExpression`), and has no comma, no blank at an end and no token of its
operator at an end. `read?_strips` has the whole, together with the rounds in which the tokens
come off.
-/

namespace AdvisoryLedger

namespace Clause

theorem Around.isInfix {tokens : List (List Char)} {cs r : List Char} (h : Around tokens cs r) :
    r <:+: cs := by
  obtain ⟨x, y, -, -, rfl⟩ := h
  exact ⟨x, y, rfl⟩

/-- The version of a clause is what its tokens leave. -/
theorem stripped_of_read? {text : String} {clause : Clause} (h : read? text = some clause) :
    Stripped clause.operator.tokens (Text.trim text.toList) clause.version.toList := by
  obtain ⟨op, -, rfl⟩ := Option.map_eq_some_iff.mp h
  rw [String.toList_ofList]
  exact strip_tokens op _

end Clause

namespace VersionBounds

/-- The versions among some bounds. -/
def versions (b : VersionBounds) : List String :=
  [b.startIncluding, b.startExcluding, b.endIncluding, b.endExcluding].filterMap id

theorem mem_versions_iff {b : VersionBounds} {v : String} :
    v ∈ b.versions ↔ ∃ bound, b.get? bound = some v := by
  unfold versions
  simp only [List.mem_filterMap, id, List.mem_cons, List.not_mem_nil, or_false, exists_eq_right]
  constructor
  · rintro (h | h | h | h)
    · exact ⟨.startIncluding, h.symm⟩
    · exact ⟨.startExcluding, h.symm⟩
    · exact ⟨.endIncluding, h.symm⟩
    · exact ⟨.endExcluding, h.symm⟩
  · rintro ⟨bound, h⟩
    cases bound <;> simp [← h, get?]

/-- A version among the bounds of an expression is that of a clause between its commas. -/
theorem exists_clause_of_mem_ofExpression {expression v : String}
    (h : v ∈ (ofExpression expression).versions) :
    v ≠ "" ∧ ∃ piece ∈ expression.toList.splitOn ',', ∃ op,
      Clause.read? (String.ofList piece) = some ⟨op, v⟩ := by
  obtain ⟨bound, hbound⟩ := mem_versions_iff.mp h
  rw [get?_ofExpression] at hbound
  obtain ⟨clause, hclause, hversion⟩ := List.mem_filterMap.mp (List.mem_of_getLast? hbound)
  obtain ⟨piece, hpiece, hread⟩ := List.mem_filterMap.mp hclause
  obtain ⟨hread, hne⟩ := Option.filter_eq_some_iff.mp hread
  obtain ⟨op, version⟩ := clause
  obtain rfl : version = v := by
    unfold Clause.version? at hversion
    split at hversion
    · exact Option.some.inj hversion
    · cases hversion
  exact ⟨by simpa using hne, piece, hpiece, op, hread⟩

/-- It stands in the expression. -/
theorem infix_of_mem_ofExpression {expression v : String}
    (h : v ∈ (ofExpression expression).versions) : v.toList <:+: expression.toList := by
  obtain ⟨-, piece, hpiece, op, hread⟩ := exists_clause_of_mem_ofExpression h
  have hversion := (Clause.stripped_of_read? hread).around.isInfix
  rw [String.toList_ofList] at hversion
  exact (hversion.trans (Text.isInfix_trim piece)).trans (Text.infix_of_mem_splitOn hpiece)

/-- So it is made of characters of the expression. -/
theorem subset_of_mem_ofExpression {expression v : String}
    (h : v ∈ (ofExpression expression).versions) : v.toList ⊆ expression.toList :=
  (infix_of_mem_ofExpression h).subset

/-- **Stripping is complete and loses nothing.** The version of a clause has no blank and no
token of the clause's operator at an end, and what was taken off the text around it is blanks
and such tokens. The rounds in which they come off end on every text. So every version among
the bounds of an expression is a piece of the expression that is not empty, is trimmed and has
no comma. -/
theorem read?_strips :
    (∀ (text : String) (clause : Clause), Clause.read? text = some clause →
      Clause.Stripped clause.operator.tokens (Text.trim text.toList) clause.version.toList) ∧
    (∀ (tokens : List (List Char)) (cs : List Char), ∃ n ≤ cs.length,
      (∀ k < n, (Clause.stripOnce tokens)^[k + 1] cs ≠ (Clause.stripOnce tokens)^[k] cs) ∧
      (Clause.stripOnce tokens)^[n + 1] cs = (Clause.stripOnce tokens)^[n] cs ∧
      Clause.strip tokens cs = (Clause.stripOnce tokens)^[n] cs) ∧
    ∀ (expression v : String), v ∈ (ofExpression expression).versions →
      v ≠ "" ∧ Text.IsTrimmed v.toList ∧ ',' ∉ v.toList ∧ v.toList <:+: expression.toList := by
  refine ⟨fun _ _ => Clause.stripped_of_read?, Clause.exists_rounds, ?_⟩
  intro expression v hv
  obtain ⟨hne, piece, hpiece, op, hread⟩ := exists_clause_of_mem_ofExpression hv
  have hstripped := Clause.stripped_of_read? hread
  rw [String.toList_ofList] at hstripped
  refine ⟨hne, hstripped.trimmed, ?_, infix_of_mem_ofExpression hv⟩
  intro hcomma
  exact Text.not_mem_of_mem_splitOn hpiece
    (Text.trim_subset piece (hstripped.around.isInfix.subset hcomma))

end VersionBounds
end AdvisoryLedger
