import AdvisoryLedger.Json.Printer
import AdvisoryLedger.Report.Basic

/-!
# Reports as JSON

The members stand in the order of the report's parts, and what is missing is null.
-/

namespace AdvisoryLedger

open Json (Value)

def optionalText : Option String → Value
  | some s => .string s
  | none => .null

def SeverityCounts.value (c : SeverityCounts) : Value :=
  let count (n : Nat) : Value := .number (.natural n)
  .object [("total", count c.total), ("critical", count c.critical), ("high", count c.high),
    ("medium", count c.medium), ("low", count c.low), ("unassigned", count c.unassigned)]

def ReportEntry.value (e : ReportEntry) : Value :=
  .object [("source", .string e.source.word), ("id", .string e.id),
    ("severity", .string e.severity.word),
    ("cvss_v3_base_score", match e.score with
      | some x => .number (.real x)
      | none => .null),
    ("title", optionalText e.title), ("affected", .array (e.affected.map .string))]

def ComponentReport.value (r : ComponentReport) : Value :=
  .object [("component", .string r.component), ("purl", optionalText r.purl),
    ("summary", r.counts.value), ("vulnerabilities", .array (r.entries.map ReportEntry.value))]

def ComponentReport.json (r : ComponentReport) : String := r.value.pretty

end AdvisoryLedger
