import AdvisoryLedger.Number.Binary64
import AdvisoryLedger.Time.Instant
import AdvisoryLedger.Vulnerability.Predicate
import AdvisoryLedger.Vulnerability.Severity
import AdvisoryLedger.Vulnerability.Weakness

/-!
# Vulnerabilities

A vulnerability is an advisory after everything in it was interpreted. A `Draft` is a
vulnerability on its way into the store, with the predicates that it is to have there.
-/

namespace AdvisoryLedger

/-- A vulnerability. The row is that of the store. -/
structure Vulnerability where
  row : Option Int
  source : Source
  vulnId : Option String
  title : Option String
  description : Option String
  references : Option String
  created : Option Instant
  published : Option Instant
  updated : Option Instant
  severity : Severity
  score : Option Binary64
  vector : Option String
  weaknesses : List Weakness
  software : List Predicate
  deriving DecidableEq

/-- A vulnerability of which only source and identifier are known. -/
def Vulnerability.blank (source : Source) (vulnId : Option String) : Vulnerability :=
  { row := none
    source := source
    vulnId := vulnId
    title := none
    description := none
    references := none
    created := none
    published := none
    updated := none
    severity := .unassigned
    score := none
    vector := none
    weaknesses := []
    software := [] }

/-- A vulnerability and the predicates that it is to be stored with. -/
structure Draft where
  record : Vulnerability
  software : List Predicate
  deriving DecidableEq

end AdvisoryLedger
