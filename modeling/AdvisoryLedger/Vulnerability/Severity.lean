import AdvisoryLedger.Text.Basic
import AdvisoryLedger.Text.Casing

/-!
# Severities and sources

A severity has a word and a rank. Reading a level ignores letter case and blanks around it
and never fails: a level that is not known is unassigned.
-/

namespace AdvisoryLedger

inductive Severity
  | critical | high | medium | low | unassigned
  deriving DecidableEq, Repr

namespace Severity

/-- All severities, the most severe first. -/
def all : List Severity := [critical, high, medium, low, unassigned]

def word : Severity → String
  | critical => "CRITICAL"
  | high => "HIGH"
  | medium => "MEDIUM"
  | low => "LOW"
  | unassigned => "UNASSIGNED"

def rank : Severity → Nat
  | unassigned => 0
  | low => 1
  | medium => 2
  | high => 3
  | critical => 4

/-- The severity that a level names. -/
def ofLevel (level : String) : Severity :=
  (all.find? fun s => Text.spells s.word (Text.trim level.toList)).getD unassigned

end Severity

/-- Where a record comes from. -/
inductive Source
  | snyk
  deriving DecidableEq, Repr

namespace Source

def word : Source → String
  | snyk => "SNYK"

def ofText? (s : String) : Option Source :=
  if Text.spells snyk.word s.toList then some snyk else none

end Source
end AdvisoryLedger
