import AdvisoryLedger.Catalogue.Component
import AdvisoryLedger.Number.Word
import AdvisoryLedger.Vulnerability.Basic

/-!
# Reports

A report on a component lists its vulnerabilities, the most severe first and within one
severity by identifier, and counts them by severity. An affected range is described in the
notation of range expressions, so that reading the description gives the bounds back.

The counts are kept in words of 32 bits, one vulnerability after another
(`SeverityCounts.add`). As long as no word runs over, that is counting (`foldl_add`).
-/

namespace AdvisoryLedger

/-- How many vulnerabilities there are of each severity. -/
structure SeverityCounts where
  total : Nat
  critical : Nat
  high : Nat
  medium : Nat
  low : Nat
  unassigned : Nat
  deriving DecidableEq, Repr

namespace SeverityCounts

def of (vs : List Vulnerability) : SeverityCounts :=
  let count (s : Severity) := (vs.filter (·.severity = s)).length
  { total := vs.length
    critical := count .critical
    high := count .high
    medium := count .medium
    low := count .low
    unassigned := count .unassigned }

def zero : SeverityCounts := ⟨0, 0, 0, 0, 0, 0⟩

/-- One more vulnerability, in words of 32 bits. -/
def add (c : SeverityCounts) (v : Vulnerability) : SeverityCounts :=
  let next (n : Nat) : Nat := (n + 1) % Word.size32
  let c := { c with total := next c.total }
  match v.severity with
  | .critical => { c with critical := next c.critical }
  | .high => { c with high := next c.high }
  | .medium => { c with medium := next c.medium }
  | .low => { c with low := next c.low }
  | .unassigned => { c with unassigned := next c.unassigned }

theorem of_perm {vs ws : List Vulnerability} (h : vs.Perm ws) : of vs = of ws := by
  unfold of
  simp only [h.length_eq, (h.filter _).length_eq]

theorem add_of {v : Vulnerability} {vs : List Vulnerability} (h : vs.length + 1 < Word.size32) :
    (of vs).add v = of (v :: vs) := by
  have hnext (severity : Severity) :
      ((vs.filter (·.severity = severity)).length + 1) % Word.size32
        = (vs.filter (·.severity = severity)).length + 1 :=
    Nat.mod_eq_of_lt (Nat.lt_of_le_of_lt (Nat.succ_le_succ (List.length_filter_le ..)) h)
  unfold add of
  cases hv : v.severity <;> simp [hv, hnext, Nat.mod_eq_of_lt h]

theorem foldr_add {vs : List Vulnerability} (h : vs.length < Word.size32) :
    vs.foldr (fun v c => c.add v) zero = of vs := by
  induction vs with
  | nil => rfl
  | cons v vs ih =>
      rw [List.length_cons] at h
      rw [List.foldr_cons, ih (Nat.lt_of_succ_lt h), add_of h]

/-- Counting one after another is counting, as long as no word runs over. -/
theorem foldl_add {vs : List Vulnerability} (h : vs.length < Word.size32) :
    vs.foldl add zero = of vs := by
  rw [← List.length_reverse] at h
  rw [List.foldl_eq_foldr_reverse, foldr_add h, of_perm vs.reverse_perm]

end SeverityCounts

/-- A vulnerability as a report lists it. -/
structure ReportEntry where
  source : Source
  id : String
  severity : Severity
  score : Option Binary64
  title : Option String
  affected : List String
  deriving DecidableEq, Repr

namespace ReportEntry

/-- A range that a predicate describes: the pinned version, the bounds, or a star. -/
def describeRange (p : Predicate) : String :=
  match p.version with
  | some v => "=" ++ v
  | none =>
    let clauses := [p.bounds.startIncluding.map (">=" ++ ·), p.bounds.startExcluding.map (">" ++ ·),
      p.bounds.endIncluding.map ("<=" ++ ·), p.bounds.endExcluding.map ("<" ++ ·)].flatMap
        Option.toList
    if clauses.isEmpty then "*" else ", ".intercalate clauses

def of (v : Vulnerability) : ReportEntry :=
  { source := v.source
    id := v.vulnId.getD ""
    severity := v.severity
    score := v.score
    title := v.title
    affected := v.software.map describeRange }

/-- An entry may stand before another one: it is more severe, or as severe and its
identifier is not greater. -/
def mayPrecede (a b : ReportEntry) : Bool :=
  if a.severity = b.severity then decide (a.id ≤ b.id)
  else decide (b.severity.rank ≤ a.severity.rank)

end ReportEntry

/-- The report on a component. -/
structure ComponentReport where
  component : String
  purl : Option String
  counts : SeverityCounts
  entries : List ReportEntry
  deriving DecidableEq, Repr

def ComponentReport.of (c : Component) (vs : List Vulnerability) : ComponentReport :=
  { component := c.name
    purl := c.purl
    counts := .of vs
    entries := (vs.map ReportEntry.of).mergeSort ReportEntry.mayPrecede }

end AdvisoryLedger
