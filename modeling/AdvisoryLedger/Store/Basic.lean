import AdvisoryLedger.Catalogue.Component
import AdvisoryLedger.Vulnerability.Basic

/-!
# The store

The store is seven tables. Components, weaknesses, vulnerabilities and predicates are what
it holds; the three other tables say which vulnerability has which weaknesses and which
predicates, and which component has which vulnerabilities. A table is a list of its rows in
the order in which they came.

Vulnerabilities and predicates get their row numbers from two counters that only go up. A
number is used up by every attempt to insert a row, also by one that finds the row there
already, so the numbers that are in use have gaps.

A vulnerability is known by its source and identifier, a predicate by its key, and a
component or a weakness by its own number. These functions only look at the tables.
-/

namespace AdvisoryLedger

/-- A vulnerability in the store. Its times are text, and its identifier is not missing. -/
structure VulnerabilityRow where
  id : Nat
  source : Source
  vulnId : String
  title : Option String
  description : Option String
  references : Option String
  created : Option String
  published : Option String
  updated : Option String
  severity : Severity
  score : Option Binary64
  vector : Option String
  deriving DecidableEq, Repr

/-- A predicate in the store, with its key. -/
structure PredicateRow where
  id : Nat
  identity : String
  type : String
  scope : Option String
  name : String
  version : Option String
  bounds : VersionBounds
  vulnerable : Bool
  deriving DecidableEq, Repr

/-- A vulnerability has a weakness. The weakness may be unknown to the store. -/
structure WeaknessLink where
  vulnerability : Nat
  weakness : Nat
  deriving DecidableEq, Repr

/-- A vulnerability has a predicate, at a place of its list. -/
structure PredicateLink where
  vulnerability : Nat
  predicate : Nat
  position : Nat
  deriving DecidableEq, Repr

/-- A component has a vulnerability, since a time, according to an analyzer. -/
structure Attribution where
  component : String
  vulnerability : Nat
  analyzer : String
  attributedOn : String
  deriving DecidableEq, Repr

/-- The tables, and the last row numbers that were used up. -/
structure Store where
  components : List Component
  weaknesses : List Weakness
  vulnerabilities : List VulnerabilityRow
  weaknessLinks : List WeaknessLink
  predicates : List PredicateRow
  predicateLinks : List PredicateLink
  attributions : List Attribution
  lastVulnerability : Nat
  lastPredicate : Nat
  deriving DecidableEq, Repr

namespace Store

def empty : Store := ⟨[], [], [], [], [], [], [], 0, 0⟩

def component? (s : Store) (id : String) : Option Component :=
  s.components.find? (·.id == id)

def weakness? (s : Store) (id : Nat) : Option Weakness :=
  s.weaknesses.find? (·.id == id)

def vulnerabilityRow? (s : Store) (source : Source) (vulnId : String) : Option VulnerabilityRow :=
  s.vulnerabilities.find? fun r => r.source == source && r.vulnId == vulnId

def vulnerabilityAt? (s : Store) (row : Int) : Option VulnerabilityRow :=
  s.vulnerabilities.find? fun r => (r.id : Int) == row

def predicateRow? (s : Store) (identity : String) : Option PredicateRow :=
  s.predicates.find? (·.identity == identity)

def predicateAt? (s : Store) (row : Nat) : Option PredicateRow :=
  s.predicates.find? (·.id == row)

def vulnerabilityCount (s : Store) : Nat := s.vulnerabilities.length

def predicateCount (s : Store) : Nat := s.predicates.length

end Store
end AdvisoryLedger
