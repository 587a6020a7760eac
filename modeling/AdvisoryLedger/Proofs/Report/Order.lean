import AdvisoryLedger.Proofs.Sorting
import AdvisoryLedger.Proofs.Text.ByteOrder
import AdvisoryLedger.Report.Json
import AdvisoryLedger.Report.Markdown
import Mathlib.Data.List.Nodup
import Mathlib.Data.Prod.Lex

/-!
# What a report lists, and in which order

A report lists each vulnerability once, the most severe first and within one severity by the
bytes of its identifier, and its counts are those of the list. Entries that differ in severity or
identifier have different places, so where no two vulnerabilities have one identifier the report
depends only on which they are and not on the order in which they were found.
-/

namespace AdvisoryLedger

/-! ## Counting -/

namespace SeverityCounts

def count (c : SeverityCounts) : Severity → Nat
  | .critical => c.critical
  | .high => c.high
  | .medium => c.medium
  | .low => c.low
  | .unassigned => c.unassigned

theorem count_of (vs : List Vulnerability) (severity : Severity) :
    (of vs).count severity = vs.countP (·.severity = severity) := by
  rw [List.countP_eq_length_filter]
  cases severity <;> rfl

theorem total_eq_sum (vs : List Vulnerability) :
    (of vs).total = (of vs).critical + (of vs).high + (of vs).medium + (of vs).low
      + (of vs).unassigned := by
  induction vs with
  | nil => rfl
  | cons v vs ih =>
      unfold of at ih ⊢
      cases hv : v.severity <;> simp [hv] at ih ⊢ <;> omega

end SeverityCounts

/-! ## The order of the entries -/

theorem Severity.rank_inj {a b : Severity} : a.rank = b.rank ↔ a = b := by
  cases a <;> cases b <;> decide

namespace ReportEntry

/-- By what the entries of a report are sorted. -/
def place (e : ReportEntry) : ℕᵒᵈ ×ₗ String := toLex (OrderDual.toDual e.severity.rank, e.id)

theorem mayPrecede_iff (a b : ReportEntry) : mayPrecede a b = true ↔ a.place ≤ b.place := by
  unfold mayPrecede place
  rw [Prod.Lex.toLex_le_toLex]
  split
  · next heq => simp [heq]
  · next hne =>
    have hrank : a.severity.rank ≠ b.severity.rank := fun heq => hne (Severity.rank_inj.mp heq)
    simp only [decide_eq_true_eq, OrderDual.toDual_lt_toDual, OrderDual.toDual_inj, hrank,
      false_and, or_false]
    omega

/-- An entry at an earlier place is more severe, or its identifier has the lower bytes. -/
theorem place_le_iff {a b : ReportEntry} : a.place ≤ b.place ↔
    b.severity.rank ≤ a.severity.rank ∧
      (a.severity = b.severity → Text.utf8 a.id ≤ Text.utf8 b.id) := by
  unfold place
  rw [Prod.Lex.toLex_le_toLex, Text.utf8_le_iff, ← Severity.rank_inj]
  simp only [OrderDual.toDual_lt_toDual, OrderDual.toDual_inj]
  grind

end ReportEntry

/-! ## Whole reports -/

namespace ComponentReport

theorem entries_perm (c : Component) (vs : List Vulnerability) :
    (of c vs).entries.Perm (vs.map ReportEntry.of) :=
  List.mergeSort_perm _ _

/-- Each severity is counted as often as it is listed. -/
theorem count_eq (c : Component) (vs : List Vulnerability) (severity : Severity) :
    (of c vs).counts.count severity = (of c vs).entries.countP (·.severity = severity) := by
  rw [(entries_perm c vs).countP_eq, List.countP_map]
  exact SeverityCounts.count_of vs severity

theorem of_eq_of_perm (c : Component) {vs ws : List Vulnerability} (h : vs.Perm ws)
    (hids : ((vs.map ReportEntry.of).map (·.id)).Nodup) : of c vs = of c ws := by
  have hplaces : ((vs.map ReportEntry.of).map (·.place)).Nodup := by
    refine List.Nodup.of_map (fun place => (ofLex place).2) ?_
    rw [List.map_map]
    exact hids
  unfold of
  rw [SeverityCounts.of_perm h, mergeSort_eq_of_perm ReportEntry.mayPrecede_iff (h.map _) hplaces]

/-- **A report lists what was found, in the order of severity and identifier.** Its entries are
those of the vulnerabilities, the more severe before the less severe and, within one severity, by
the bytes of the identifiers. The counts are the counts of the entries, and counting in words of
32 bits gives them too, as long as one such word can count the vulnerabilities. Where all
identifiers differ, the report and what is written from it are the same for every order in which
the vulnerabilities were given. -/
theorem of_ordered (c : Component) (vs : List Vulnerability) :
    let r := of c vs
    r.entries.Perm (vs.map ReportEntry.of) ∧
    (r.entries.Pairwise fun a b => b.severity.rank ≤ a.severity.rank ∧
      (a.severity = b.severity → Text.utf8 a.id ≤ Text.utf8 b.id)) ∧
    r.counts.total = vs.length ∧
    r.counts.total = r.counts.critical + r.counts.high + r.counts.medium + r.counts.low
      + r.counts.unassigned ∧
    (∀ severity, r.counts.count severity = r.entries.countP (·.severity = severity)) ∧
    (vs.length < Word.size32 → vs.foldl SeverityCounts.add .zero = r.counts) ∧
    ∀ ws, vs.Perm ws → ((vs.map ReportEntry.of).map (·.id)).Nodup →
      of c ws = r ∧ (of c ws).json = r.json ∧ ∀ date, (of c ws).markdown date = r.markdown date := by
  intro r
  have hsorted := pairwise_le_mergeSort ReportEntry.mayPrecede_iff (vs.map ReportEntry.of)
  refine ⟨entries_perm c vs, hsorted.imp ReportEntry.place_le_iff.mp, rfl,
    SeverityCounts.total_eq_sum vs, count_eq c vs, SeverityCounts.foldl_add, ?_⟩
  intro ws h hids
  have hsame : of c ws = r := (of_eq_of_perm c h hids).symm
  exact ⟨hsame, congrArg json hsame, fun date => congrArg (markdown · date) hsame⟩

/-- Two vulnerabilities of one severity, reported in either order. -/
theorem of_ordered_swapped :
    let c : Component := ⟨"c", "left-pad", none⟩
    let a : Vulnerability := { Vulnerability.blank .snyk (some "A") with severity := .high }
    let b : Vulnerability := { Vulnerability.blank .snyk (some "B") with severity := .high }
    [b, a].foldl SeverityCounts.add .zero = (of c [b, a]).counts ∧
      (of c [a, b]).json = (of c [b, a]).json := by
  intro c a b
  obtain ⟨-, -, -, -, -, hcounts, horder⟩ := of_ordered c [b, a]
  exact ⟨hcounts (by decide), (horder [a, b] (.swap a b []) (by decide)).2.1⟩

end ComponentReport
end AdvisoryLedger
