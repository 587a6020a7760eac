import AdvisoryLedger.Number.Shortest
import AdvisoryLedger.Report.Basic

/-!
# Reports as Markdown

A heading with the component and the date, a table of the counts, and the list of the
vulnerabilities with their ranges below them. Scores are rounded to one decimal.
-/

namespace AdvisoryLedger

def Severity.mark : Severity → String
  | .critical => "⚠"
  | .high => "▲"
  | .medium => "●"
  | .low => "○"
  | .unassigned => "·"

/-- A score with one decimal. -/
def scoreText (x : Binary64) : String :=
  if x.isNaN then "NaN"
  else if x.isInfinite then (if x.isNegative then "-inf" else "inf")
  else x.toFixed1

namespace ComponentReport

def entryLines (e : ReportEntry) : List String :=
  let score := match e.score with
    | some x => ", CVSS " ++ scoreText x
    | none => ""
  ("- **" ++ e.id ++ "** (" ++ e.severity.mark ++ " " ++ e.severity.word ++ score ++ "): "
      ++ e.title.getD "untitled")
    :: e.affected.map fun range => "  - affected: `" ++ range ++ "`"

/-- The lines above the list. -/
def headLines (r : ComponentReport) (date : String) : List String :=
  ["# Vulnerability Report", "", "**Component**: " ++ r.component]
    ++ (match r.purl with
      | some purl => ["**Package**: `" ++ purl ++ "`"]
      | none => [])
    ++ ["**Date**: " ++ date, "", "## Summary", "| Severity | Count |", "|----------|-------|",
      "| ⚠ Critical | " ++ Text.ofNat r.counts.critical ++ " |",
      "| ▲ High | " ++ Text.ofNat r.counts.high ++ " |",
      "| ● Medium | " ++ Text.ofNat r.counts.medium ++ " |",
      "| ○ Low | " ++ Text.ofNat r.counts.low ++ " |",
      "| · Unassigned | " ++ Text.ofNat r.counts.unassigned ++ " |",
      "| **Total** | **" ++ Text.ofNat r.counts.total ++ "** |", ""]

/-- The lines of the list, or what stands in its place. -/
def listLines (r : ComponentReport) : List String :=
  if r.entries.isEmpty then
    ["## No vulnerabilities found", "",
      "✅ No known vulnerabilities are recorded for this component."]
  else ["## Vulnerabilities", ""] ++ r.entries.flatMap entryLines

/-- A report of a date as Markdown text. -/
def markdown (r : ComponentReport) (date : String) : String :=
  "\n".intercalate (r.headLines date ++ r.listLines)

end ComponentReport
end AdvisoryLedger
