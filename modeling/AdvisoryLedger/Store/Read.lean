import AdvisoryLedger.Store.Basic
import AdvisoryLedger.Time.Rfc3339

/-!
# Reading from the store

A vulnerability is read by putting its row together with its weaknesses, in the order of
their numbers and without those that the store does not know, and with its predicates in
the order of their places. A time that cannot be read back from its text is missing.
-/

namespace AdvisoryLedger

def PredicateRow.predicate (r : PredicateRow) : Predicate :=
  { row := some r.id
    type := r.type
    scope := r.scope
    name := r.name
    version := r.version
    bounds := r.bounds
    vulnerable := r.vulnerable }

namespace Store

def weaknessesOf (s : Store) (row : Nat) : List Weakness :=
  let ids := (s.weaknessLinks.filter (·.vulnerability == row)).map (·.weakness)
  (ids.mergeSort fun a b => decide (a ≤ b)).filterMap s.weakness?

/-- The predicates of a vulnerability, by place. -/
def softwareOf (s : Store) (row : Nat) : List Predicate :=
  let links := s.predicateLinks.filter (·.vulnerability == row)
  let sorted := links.mergeSort fun a b => decide (a.position ≤ b.position)
  (sorted.filterMap fun l => s.predicateAt? l.predicate).map (·.predicate)

def load (s : Store) (r : VulnerabilityRow) : Vulnerability :=
  { row := some r.id
    source := r.source
    vulnId := some r.vulnId
    title := r.title
    description := r.description
    references := r.references
    created := r.created.bind Instant.ofTimestamp?
    published := r.published.bind Instant.ofTimestamp?
    updated := r.updated.bind Instant.ofTimestamp?
    severity := r.severity
    score := r.score
    vector := r.vector
    weaknesses := s.weaknessesOf r.id
    software := s.softwareOf r.id }

def get? (s : Store) (source : Source) (vulnId : String) : Option Vulnerability :=
  (s.vulnerabilityRow? source vulnId).map s.load

/-- The predicate in the store that has the key of a given one. -/
def find? (s : Store) (p : Predicate) : Option Predicate :=
  (s.predicateRow? p.identity).map (·.predicate)

/-- The weakness that a text names, where the store knows it. -/
def resolve? (s : Store) (text : String) : Option Weakness :=
  (Weakness.parseId? text).bind s.weakness?

/-- One attribution is not later than another: by the text of its time, then by row. -/
def Attribution.notAfter (a b : Attribution) : Bool :=
  if a.attributedOn = b.attributedOn then a.vulnerability ≤ b.vulnerability
  else decide (a.attributedOn < b.attributedOn)

/-- The vulnerabilities of a component, by the texts of the times of their attributions. -/
def vulnerabilitiesOf (s : Store) (component : String) : List Vulnerability :=
  let mine := s.attributions.filter (·.component == component)
  ((mine.mergeSort Attribution.notAfter).filterMap fun a => s.vulnerabilityAt? a.vulnerability).map
    s.load

end Store
end AdvisoryLedger
