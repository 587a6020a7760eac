import AdvisoryLedger.Advisory.Basic
import AdvisoryLedger.Session
import AdvisoryLedger.Version.Range

/-!
# From advisories to drafts

An advisory becomes a vulnerability by interpreting its texts: times that are no timestamps
are missing, problems that name no weakness of the store are dropped and each weakness is
taken once, a level that is not known is unassigned, and a score that is no number is
missing. Each range expression that bounds anything becomes a predicate for the package that
the batch is about. Where the store has that predicate already, the stored one is taken.

The package of a batch is the one that the response names. A response that names a malformed
one has no package and so no predicates; only a response that names none leaves the choice
to the component that was asked for.
-/

namespace AdvisoryLedger

/-- The instant of a text with blanks around it. -/
def timeOf (text : Option String) : Option Instant :=
  text.bind fun s => Instant.ofTimestamp? (Text.trimmed s)

/-- References as a list of links, one to a line. -/
def referenceLinks (urls : List String) : Option String :=
  if urls.isEmpty then none
  else some (String.join (urls.map fun url => "* [" ++ url ++ "](" ++ url ++ ")\n"))

/-- The weaknesses among some problems, each once. -/
def weaknessesAmong (resolve : String → Option Weakness) (problems : List String) :
    List Weakness :=
  problems.foldl (fun found problem =>
    match resolve problem with
    | some w => if w ∈ found then found else found ++ [w]
    | none => found) []

/-- The vulnerability that an advisory is about. -/
def Advisory.vulnerability (a : Advisory) (source : Source)
    (resolve : String → Option Weakness) : Vulnerability :=
  { Vulnerability.blank source a.id with
    title := a.title
    description := a.description
    references := referenceLinks a.references
    created := timeOf a.createdAt
    published := timeOf a.publishedAt
    updated := timeOf a.updatedAt
    severity := ((a.severity.bind (·.level)).map Severity.ofLevel).getD .unassigned
    score := (a.severity.bind (·.baseScore)).bind BaseScore.value?
    vector := a.severity.bind (·.vector)
    weaknesses := weaknessesAmong resolve a.problems }

/-- The predicates that range expressions describe for a package. -/
def candidates (package : Option Coordinate) (ranges : List String) : List Predicate :=
  match package with
  | none => []
  | some c =>
    ((ranges.map VersionBounds.ofExpression).filter (!·.isEmpty)).map (Predicate.ofCoordinate c)

/-- The package that the ranges of a batch are about. -/
def AdvisoryBatch.package (b : AdvisoryBatch) (component : Option Coordinate) :
    Option Coordinate :=
  match b.packageUrl with
  | some url => (Coordinate.ofUrl url).toOption
  | none => component

namespace Session

variable {σ : Type}

/-- The stored predicate with the key of a candidate, or the candidate. -/
def settlePredicate (s : Session σ) (candidate : Predicate) : Work σ Predicate := do
  return (← s.find candidate).getD candidate

def draft (s : Session σ) (source : Source) (package : Option Coordinate) (a : Advisory) :
    Work σ Draft := do
  let record := a.vulnerability source (s.resolve (← get))
  let software ← (candidates package a.ranges).mapM s.settlePredicate
  return ⟨record, software⟩

/-- The drafts of a batch, in the order of its advisories. -/
def drafts (s : Session σ) (source : Source) (component : Option Coordinate)
    (b : AdvisoryBatch) : Work σ (List Draft) :=
  b.advisories.mapM (s.draft source (b.package component))

end Session
end AdvisoryLedger
