import AdvisoryLedger.Number.Numeral

/-!
# Advisories

An advisory is one vulnerability as a vendor reports it, before any of it is interpreted:
times, severities and ranges are still text. Responses of every shape lead to the same
`Advisory`, so whatever comes after does not know the shapes.
-/

namespace AdvisoryLedger

/-- A base score as it was sent: a number, or a text that may be one. -/
inductive BaseScore
  | number (x : Binary64)
  | text (s : String)
  deriving DecidableEq, Repr

/-- The score as a double, where the text is one. Blanks around the text do not count. -/
def BaseScore.value? : BaseScore → Option Binary64
  | .number x => some x
  | .text s => Text.readNumeral? (Text.trimmed s)

/-- One rating of an advisory. -/
structure SeverityEntry where
  level : Option String
  vector : Option String
  baseScore : Option BaseScore
  deriving DecidableEq, Repr

/-- One vulnerability as reported. -/
structure Advisory where
  id : Option String
  title : Option String
  description : Option String
  createdAt : Option String
  updatedAt : Option String
  publishedAt : Option String
  references : List String
  problems : List String
  severity : Option SeverityEntry
  ranges : List String
  deriving DecidableEq, Repr

/-- The advisories of one response, and the package that the response says it is about. -/
structure AdvisoryBatch where
  packageUrl : Option String
  advisories : List Advisory
  deriving DecidableEq, Repr

def AdvisoryBatch.empty : AdvisoryBatch := ⟨none, []⟩

end AdvisoryLedger
